import ModuleHints.Server.Watching
import ModuleHints.Proofs.Catalog.Offered
import ModuleHints.Proofs.Files.Endings
import ModuleHints.Proofs.Settings.Accepted

/-!
# Extensions that find files

The extension in the settings is read in three places. Settings are refused if it does not begin
with a dot, a client is asked to watch all files whose names end with it, and a file is taken as a
source file if it is what comes from the last dot of the name on. The three agree where the extension
has no other dot than its first character: then exactly the files whose names are a stem and the
extension, in any case, are found below a folder. An extension with a further dot is accepted, but
finds no file.
-/

namespace ModuleHints

/-- An extension that can be used is a dot and something behind it. -/
theorem Settings.Usable.exists_extension {s : Settings} (h : s.Usable) :
    ∃ tail, s.extension.toList = '.' :: tail ∧ tail ≠ [] := by
  obtain ⟨hdot, hlong⟩ := h.extension
  cases hchars : s.extension.toList with
  | nil =>
    rw [hchars] at hdot
    cases hdot
  | cons c tail =>
    rw [hchars, List.head?_cons, Option.some.injEq] at hdot
    refine ⟨tail, by rw [hdot], ?_⟩
    rintro rfl
    rw [← String.length_toList, hchars, List.length_singleton] at hlong
    omega

namespace Server

/-- Characters that stand for others in a pattern. -/
def wildcards : List Char := ['*', '?', '[', ']', '\x7b', '\x7d']

/-- Whether a client that watches for a pattern reports the files of a name, wherever they are: the
pattern goes down through all folders, and asks there for one or more characters and then a text
that stands for itself. -/
def Reports (pattern name : String) : Prop :=
  ∃ stem ending, stem ≠ "" ∧ (∀ c ∈ ending.toList, c ∉ wildcards) ∧ pattern = "**/*" ++ ending ∧
    name = stem ++ ending

theorem head?_watchPatterns (s : Settings) :
    (watchPatterns s).head? = some ("**/*" ++ s.extension) := rfl

/-- A file that is reported for an extension has it as the end of its name. -/
theorem Reports.hasEnding {extension name : String} (h : Reports ("**/*" ++ extension) name) :
    Path.HasEnding name extension := by
  obtain ⟨stem, ending, hstem, -, hpattern, hname⟩ := h
  rw [String.append_right_inj] at hpattern
  exact ⟨stem, ending, hstem, hname, by rw [hpattern]⟩

end Server

/-- Whether the folders can be listed that a search for source files lists: a folder and those below
it, without modules folders and what packages hold. -/
def Disk.Searchable (s : Settings) (d : Disk) (folder : Place) : Prop :=
  ∀ q, q = folder ∨ d.Within (Place.IsClosed s d) folder.path q ∧
      ¬Unicode.sameFold q.path.name s.modulesFolder = true →
    q.isFolder = true → ∃ entries, d.list q.path = .ok entries

/-- A readable folder can be searched. -/
theorem Disk.Readable.searchable {s : Settings} {d : Disk} {folder : Place}
    (h : d.Readable folder) : d.Searchable s folder := by
  rintro q (rfl | ⟨hq, -⟩)
  · exact h q (.inl rfl)
  · exact h q (.inr (hq.imp fun _ => False.elim))

namespace Place

variable {s : Settings} {d : Disk} {p q : Place} {ps : List Place} {n : Nat}

/-- A search for source files gives something where the folders can be listed that it lists. -/
theorem exists_search_of_searchable (hd : d.WellFormed) (hp : p.path.Proper)
    (h : d.Searchable s p) : ∃ ps, search d (sourceTurn s d) n p = .ok ps := by
  refine exists_search_of_ready hd (decides_sourceTurn hd)
    (fun p hready => exists_children_of_list (hready p (.inl rfl))) ?_ ?_ hp h
  · intro p q hready hq
    cases hfolder : q.isFolder with
    | false => exact ⟨_, sourceTurn_of_file hfolder⟩
    | true =>
      cases hmodules : q.isModulesFolder s with
      | true => exact ⟨_, sourceTurn_of_modules hfolder hmodules⟩
      | false =>
        have hname : ¬Unicode.sameFold q.path.name s.modulesFolder = true :=
          Bool.eq_false_iff.mp hmodules
        obtain ⟨b, hb⟩ := exists_isPackage_of_children (s := s)
          (exists_children_of_list (hready q (.inr ⟨.held hq, hname⟩)))
        exact ⟨_, sourceTurn_of_folder hfolder hmodules hb⟩
  · rintro p q hready hq hfolder hopen r (rfl | ⟨hr, hname⟩)
    · exact hready r (.inr ⟨.held hq, fun hname => hopen (.inr hname)⟩)
    · exact hready r (.inr ⟨.deeper hq hfolder hopen hr, hname⟩)

/-- A file is a source file where its name is a stem and the extension, and that has one dot. -/
theorem isSourceFile_iff (hs : s.Usable) : p.IsSourceFile s ↔
    p.isFolder = false ∧ '.' ∉ s.extension.toList.tail ∧
      Path.HasEnding p.path.name s.extension := by
  obtain ⟨tail, htext, htail⟩ := hs.exists_extension
  rw [IsSourceFile, Path.extension_eq_iff htext htail, htext, List.tail_cons]

theorem isPeer_iff (h : p.isFolder = false) : p.IsPeer s d ↔ p.IsSourceFile s := by
  simp [IsPeer, h]

end Place

namespace Catalog

open Walk

variable {s : Settings} {d : Disk} {f : Forest} {root k : NodeId} {folder file q : Place}
  {p : Project}

/-- The nodes that a search for source files finds are at the places that the disk gives. -/
theorem agrees_sources (hd : d.WellFormed) (hf : Sound d True f) (hk : f.At root k folder) :
    Agrees d True (AllAt root) f (sources s k)
      (Place.search d (Place.sourceTurn s d) (Place.depth d) folder) :=
  (follows_sources hd (.refl d) (soundIn_iff.mpr hf) hk).agrees

/-- What the settings' extension does for a project. -/
structure TakesEnding (s : Settings) (d : Disk) (p : Project) (f : Forest) : Prop where
  /-- A search for source files gives something. -/
  given : ∀ k folder, f.At p.root k folder → d.Searchable s folder →
    ∃ found, ((sources s k).go d f).1 = .ok found
  /-- It finds a file below the folder where its name is a stem and the extension, in any case, and
  the extension has no further dot. -/
  found_iff : ∀ k folder found q, f.At p.root k folder → folder.isFolder = true →
    ((sources s k).go d f).1 = .ok found → d.Within (Place.IsClosed s d) folder.path q →
    q.isFolder = false →
      ((∃ j ∈ found, ((sources s k).go d f).2.place j = q) ↔
        '.' ∉ s.extension.toList.tail ∧ Path.HasEnding q.path.name s.extension)
  /-- Then a file is offered all others below its folder that a client reports as source files. -/
  offered : '.' ∉ s.extension.toList.tail → ∀ here path file, d.Readable ⟨p.home, true⟩ →
    Place.find? d here p.home path = .ok (some file) → file.isFolder = false →
      ∃ found, (candidates s d here p path { forest := f }).1.outcome = (found, none) ∧
        ∀ q, d.Within (Place.IsClosed s d) file.path.parent q → q.isFolder = false → q ≠ file →
          (∃ pattern, (Server.watchPatterns s).head? = some pattern ∧
            Server.Reports pattern q.path.name) →
          Place.offer p.home file.path.parent "./" q ∈ found

/-- A search for source files gives something where the folders can be listed that it lists. -/
theorem exists_sources (hd : d.WellFormed) (hf : Sound d True f) (hk : f.At root k folder)
    (h : d.Searchable s folder) : ∃ found, ((sources s k).go d f).1 = .ok found := by
  have hproper := hf.tidy.proper_of_at hk
  obtain ⟨ps, hps⟩ := Place.exists_search_of_searchable (n := Place.depth d) hd hproper h
  exact (hps ▸ agrees_sources hd hf hk).exists_ok

/-- What a search for source files finds are the peers below the folder. -/
theorem mem_of_sources (hd : d.WellFormed) (hf : Sound d True f) (hk : f.At root k folder)
    (hfolder : folder.isFolder = true) {found : List NodeId}
    (h : ((sources s k).go d f).1 = .ok found) (q : Place) :
    (∃ j ∈ found, ((sources s k).go d f).2.place j = q) ↔
      d.Within (Place.IsClosed s d) folder.path q ∧ q.IsPeer s d := by
  obtain ⟨ps, hat, hps⟩ := (agrees_sources (s := s) hd hf hk).ok found h
  have hplaces : found.map ((sources s k).go d f).2.place = ps.map id :=
    hat.map_eq fun j q hj => hj.place_eq
  have hfound := Place.search_enumerates hd (Place.decides_sourceTurn hd) (hf.tidy.proper_of_at hk)
    hfolder (Place.covers_depth d {} folder) (hps trivial)
  rw [← hfound.mem_iff, ← List.mem_map, hplaces, List.map_id]

/-- A fresh catalog gives for a path in a project what the disk does. -/
theorem outcome_of_stands (hd : d.WellFormed) (hp : p.Stands d f) (here : Path) (path : String) :
    (candidates s d here p path { forest := f }).1.outcome =
      Place.outcome (Place.modulesFor s d here p.home path) := by
  have hm : Memory.Sound s d True { forest := f } :=
    ⟨hp.sound.tidy, fun _ => ⟨hp.sound.coherent trivial, fun _ _ h => by cases h⟩⟩
  exact (answers_candidates hd hm hp.root).outcome trivial

/-- In a project with settings that can be used, an extension without a further dot finds the files
that have it, and the files that a client reports are on offer. -/
theorem takes_ending (hs : s.validate = .ok ()) (hd : d.WellFormed) (hp : p.Stands d f) :
    TakesEnding s d p f := by
  have husable := Settings.validate_eq_ok_iff.mp hs
  constructor
  · exact fun k folder hk hread => exists_sources hd hp.sound hk hread
  · intro k folder found q hk hfolder hfound hq hfile
    rw [mem_of_sources hd hp.sound hk hfolder hfound, Place.isPeer_iff hfile,
      Place.isSourceFile_iff husable]
    exact ⟨fun h => h.2.2, fun h => ⟨hq, hfile, h⟩⟩
  · intro hdot here path file hread hfind hfile
    have hwithin := Place.within_of_find? hd hp.home hfind hfile
    obtain ⟨found, hfound⟩ := Place.exists_eligible (s := s) hd hp.home hread hwithin
    refine ⟨found, ?_, fun q hq hfile' hne hreported => ?_⟩
    · rw [outcome_of_stands hd hp, Place.modulesFor_of_not_isFolder hfind hfile, hfound]
      rfl
    · obtain ⟨pattern, hpattern, hreports⟩ := hreported
      rw [Server.head?_watchPatterns, Option.some.injEq] at hpattern
      subst hpattern
      have hsource := (Place.isSourceFile_iff husable).mpr ⟨hfile', hdot, hreports.hasEnding⟩
      cases Place.offers_of_eligible hd hp.home hwithin hfound with
      | intro hparts hps =>
        have hmem := (hps.mem_iff q).mpr ⟨⟨hq, .inl hsource⟩, hne⟩
        exact List.mem_append_right _ (List.mem_map_of_mem hmem)

section Examples

/-- A disk with a folder that holds one file. -/
def oneFile (name : String) : Disk := ({} : Disk).write ⟨.root, ["w", name]⟩ .empty

/-- The folder holds the file. -/
theorem holds_oneFile (name : String) :
    (oneFile name).Holds ⟨.root, ["w"]⟩ ⟨⟨.root, ["w", name]⟩, false⟩ := by
  have hmem : (["w", name], DiskItem.file .empty) ∈ (oneFile name).items := by
    rw [oneFile, Disk.write, Disk.put]
    exact List.mem_append_right _ (List.mem_singleton.mpr rfl)
  exact ⟨name, _, hmem, rfl⟩

/-- A new project stands at the folder. -/
theorem stands_new (d : Disk) :
    let here := Path.ofString "/w"
    (Project.plant here here {}).1.Stands d (Project.plant here here {}).2 ∧
      (Project.plant here here {}).1.home = ⟨.root, ["w"]⟩ :=
  ⟨Project.stands_plant (by decide) "/w" ⟨Forest.tidy_empty, fun _ => Forest.coherent_empty d⟩,
    by decide⟩

/-- A file whose name ends with the extension in capitals is found. -/
theorem takes_ending_in_capitals :
    let s : Settings := {}
    let d := oneFile "A.JS"
    let p := (Project.plant (.ofString "/w") (.ofString "/w") {}).1
    let f := (Project.plant (.ofString "/w") (.ofString "/w") {}).2
    s.validate = .ok () ∧ d.WellFormed ∧ p.Stands d f ∧
      ∃ found, ((sources s p.root).go d f).1 = .ok found ∧
        ∃ j ∈ found, ((sources s p.root).go d f).2.place j = ⟨⟨.root, ["w", "A.JS"]⟩, false⟩ := by
  intro s d p f
  have hs : s.validate = .ok () := by cbv
  have hd : d.WellFormed := Disk.wellFormed_empty.write (by decide) _
  obtain ⟨hp, hhome⟩ : p.Stands d f ∧ p.home = ⟨.root, ["w"]⟩ := stands_new d
  have hfound : ((sources s p.root).go d f).1 = .ok [1] := by
    simp only [s, p, f, d, oneFile]
    cbv
  have hending : Path.HasEnding "A.JS" s.extension := ⟨"A", ".JS", by decide, by decide, by cbv⟩
  have hdot : '.' ∉ s.extension.toList.tail := by decide
  have htakes := takes_ending hs hd hp
  have hwithin : d.Within (Place.IsClosed s d) p.home ⟨⟨.root, ["w", "A.JS"]⟩, false⟩ :=
    hhome ▸ .held (holds_oneFile "A.JS")
  have hfile := (htakes.found_iff p.root _ [1] _ hp.root rfl hfound hwithin rfl).mpr ⟨hdot, hending⟩
  exact ⟨hs, hd, hp, [1], hfound, hfile⟩

/-- A file whose name ends with an extension of two dots is not found, although the extension is
accepted and a client reports the file for it. -/
theorem takes_no_ending_of_two_dots :
    let s : Settings := { extension := ".d.ts" }
    let d := oneFile "a.d.ts"
    let p := (Project.plant (.ofString "/w") (.ofString "/w") {}).1
    let f := (Project.plant (.ofString "/w") (.ofString "/w") {}).2
    let q : Place := ⟨⟨.root, ["w", "a.d.ts"]⟩, false⟩
    s.validate = .ok () ∧ f.At p.root p.root ⟨p.home, true⟩ ∧
      d.Within (Place.IsClosed s d) p.home q ∧ Path.HasEnding q.path.name s.extension ∧
      Server.Reports ("**/*" ++ s.extension) q.path.name ∧
      ∃ found, ((sources s p.root).go d f).1 = .ok found ∧
        ¬∃ j ∈ found, ((sources s p.root).go d f).2.place j = q := by
  intro s d p f q
  have hs : s.validate = .ok () := by cbv
  have hd : d.WellFormed := Disk.wellFormed_empty.write (by decide) _
  obtain ⟨hp, hhome⟩ : p.Stands d f ∧ p.home = ⟨.root, ["w"]⟩ := stands_new d
  have hitems : d.items = [(["w"], .folder), (["w", "a.d.ts"], .file .empty)] := by
    simp only [d, oneFile]
    cbv
  have hlist : d.list ⟨.root, ["w"]⟩ = .ok [("a.d.ts", false)] := by
    simp only [d, oneFile]
    cbv
  have hread : d.Readable ⟨p.home, true⟩ := by
    rw [hhome]
    refine Disk.readable_of_items ⟨_, hlist⟩ fun item hitem hfolder => ?_
    rw [hitems] at hitem
    simp only [List.mem_cons, List.not_mem_nil, or_false] at hitem
    rcases hitem with rfl | rfl
    · exact ⟨_, hlist⟩
    · cases hfolder
  obtain ⟨found, hfound⟩ := exists_sources (s := s) hd hp.sound hp.root hread.searchable
  refine ⟨hs, hp.root, hhome ▸ .held (holds_oneFile "a.d.ts"), ?_, ?_, found, hfound, ?_⟩
  · exact ⟨"a", ".d.ts", by decide, by decide, rfl⟩
  · exact ⟨"a", ".d.ts", by decide, by simp [Server.wildcards], rfl, by decide⟩
  · rw [mem_of_sources hd hp.sound hp.root rfl hfound, Place.isPeer_iff rfl,
      Place.isSourceFile_iff (Settings.validate_eq_ok_iff.mp hs)]
    exact fun hsource => hsource.2.2.1 (by decide)

end Examples

end Catalog

end ModuleHints
