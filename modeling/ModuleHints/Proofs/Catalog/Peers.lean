import ModuleHints.Proofs.Catalog.Offered

/-!
# A file and its peers

A path leads from the home folder to a file name by name, each time to the first thing that a folder
holds under the name, whatever its case. The file it leads to is offered every other source file of its
folder, and never itself. On a disk that tells names apart by their case the path of a file may lead
elsewhere: to a namesake that comes first. The namesake is then left out, and the file is offered to
itself.
-/

namespace ModuleHints

/-- The place that names lead to, each of them to the first thing of the name. -/
inductive Disk.Leads (d : Disk) : Place → List String → Place → Prop where
  /-- No names lead on. -/
  | nil (p : Place) : Leads d p [] p
  /-- From a folder a name leads to the first thing of the name, and the others from there. -/
  | cons {p m q : Place} {name : String} {rest : List String} : p.isFolder = true →
    d.FirstNamed p.path name m → Leads d m rest q → Leads d p (name :: rest) q

/-- No names lead to the place itself. -/
theorem Disk.leads_nil_iff {d : Disk} {p q : Place} : d.Leads p [] q ↔ q = p := by
  constructor
  · rintro ⟨⟩
    rfl
  · rintro rfl
    exact .nil q

/-- A name leads from a folder to the first thing of the name, and the others lead on from there. -/
theorem Disk.leads_cons_iff {d : Disk} {p q : Place} {name : String} {rest : List String} :
    d.Leads p (name :: rest) q ↔
      p.isFolder = true ∧ ∃ m, d.FirstNamed p.path name m ∧ d.Leads m rest q := by
  constructor
  · rintro (_ | ⟨hfolder, hfirst, hrest⟩)
    exact ⟨hfolder, _, hfirst, hrest⟩
  · rintro ⟨hfolder, m, hfirst, hrest⟩
    exact .cons hfolder hfirst hrest

/-- No folder holds two things of one name up to case. -/
def Disk.NamesApart (d : Disk) : Prop :=
  ∀ folder p q, d.Holds folder p → d.Holds folder q →
    Unicode.sameFold p.path.name q.path.name = true → p = q

namespace Place

variable {s : Settings} {d : Disk} {home : Path} {p q : Place}

section Leads

/-- Where names are followed through readable folders, they lead to what is found. -/
theorem exists_descend (hd : d.WellFormed) (hp : p.path.Proper)
    (hread : p.isFolder = true → d.Readable p) (names : List String) :
    ∃ found, p.descend d names = .ok found ∧ ∀ q, found = some q ↔ d.Leads p names q := by
  induction names generalizing p with
  | nil =>
    refine ⟨some p, rfl, fun q => ?_⟩
    rw [Disk.leads_nil_iff, Option.some_inj, eq_comm]
  | cons name rest ih =>
    simp only [Disk.leads_cons_iff]
    cases hfolder : p.isFolder with
    | false =>
      have hchild : p.child? d name = .ok none := by
        rw [child?, children, hfolder]
        rfl
      exact ⟨none, by rw [descend, hchild]; rfl, by simp⟩
    | true =>
      obtain ⟨child, hchild⟩ := exists_child? (hread hfolder) name
      cases child with
      | none =>
        have hnone : ∀ m, ¬d.FirstNamed p.path name m := by
          intro m hfirst
          have hsome := isSome_child?_iff hd hp hfolder hchild
          exact absurd (hsome.mpr ⟨m, hfirst.holds, hfirst.named⟩) Bool.false_ne_true
        exact ⟨none, by rw [descend, hchild]; rfl, by simp [hnone]⟩
      | some m =>
        have hfirst := firstNamed_of_child? hd hp hchild
        have hread' : m.isFolder = true → d.Readable m :=
          (hread hfolder).of_inTree (.inr (.held hfirst.holds))
        obtain ⟨found, hfound, hleads⟩ := ih (hfirst.holds.proper hd hp).1 hread'
        refine ⟨found, by rw [descend, hchild]; exact hfound, fun q => ?_⟩
        rw [hleads]
        constructor
        · exact fun hrest => ⟨rfl, m, hfirst, hrest⟩
        · rintro ⟨-, m', hfirst', hrest⟩
          rwa [hfirst.eq hfirst' hd]

/-- Where no folder holds two things of one name up to case, each is the first of its name. -/
theorem firstNamed_of_holds {folder : Path} (h : d.Holds folder q) (hapart : d.NamesApart) :
    d.FirstNamed folder q.path.name q := by
  refine ⟨h, beq_self_eq_true _, fun r hr hname => ?_⟩
  rw [hapart folder r q hr h hname]

/-- Where no folder holds two things of one name up to case, the names of what is below a folder lead
to it. -/
theorem leads_of_within (h : d.Within (fun _ => False) p.path q) (hp : p.isFolder = true)
    (hapart : d.NamesApart) : d.Leads p (q.path.names.drop p.path.names.length) q := by
  generalize htop : p.path = top at h
  induction h generalizing p with
  | @held top q hq =>
    subst htop
    rw [hq.names_eq, List.drop_left]
    exact .cons hp (firstNamed_of_holds hq hapart) (.nil q)
  | @deeper top m q hm hfolder _ hq ih =>
    subst htop
    have hrest := ih hfolder rfl
    obtain ⟨name, rest, hbelow⟩ := hq.exists_names_eq
    rw [hbelow, List.drop_left] at hrest
    rw [hbelow, hm.names_eq, List.append_assoc, List.drop_left]
    exact .cons hp (firstNamed_of_holds hm hapart) hrest

end Leads

section Displays

/-- What is offered of a folder's own things is displayed by their names. -/
theorem display_offer_of_holds {folder : Path} (h : d.Holds folder q) :
    (offer home folder "./" q).display = "./" ++ q.path.name := by
  rw [offer, h.names_eq, List.drop_left]
  simp

/-- What a modules folder offers is not displayed as a path from the requiring file. -/
theorem FromModules.display_ne {folder : Place} {part : List Candidate}
    (h : FromModules s d home folder.path part) (hd : d.WellFormed) (hhome : home.Proper)
    (hfolder : d.InTree ⟨home, true⟩ folder) (hkind : folder.isFolder = true) {c : Candidate}
    (hc : c ∈ part) (text : String) : c.display ≠ "./" ++ text := by
  cases h with
  | absent => cases hc
  | @searched m ps hfirst hm hfound =>
    obtain ⟨q, hq, rfl⟩ := List.mem_map.mp hc
    have hbelow := (hfolder.held hkind hfirst.holds).within hm ((hfound.mem_iff q).mp hq).1
    have hproper := (hbelow.proper hd hhome).2
    rw [offer, String.empty_append]
    exact Path.intercalate_ne_dot_slash (fun n hn => hproper n (List.mem_of_mem_drop hn)) text

/-- Nothing that modules folders offer is displayed as a path from the requiring file. -/
theorem display_ne_of_fromModules {folders : List Place} {parts : List (List Candidate)}
    (h : List.Forall₂ (fun folder part => FromModules s d home folder.path part) folders parts)
    (hd : d.WellFormed) (hhome : home.Proper)
    (hfolders : ∀ a ∈ folders, d.InTree ⟨home, true⟩ a ∧ a.isFolder = true) {c : Candidate}
    (hc : c ∈ parts.flatten) (text : String) : c.display ≠ "./" ++ text := by
  induction h with
  | nil => cases hc
  | @cons a part folders parts hpart _ ih =>
    obtain ⟨⟨ha, hkind⟩, hrest⟩ := List.forall_mem_cons.mp hfolders
    rw [List.flatten_cons, List.mem_append] at hc
    rcases hc with hc | hc
    · exact hpart.display_ne hd hhome ha hkind hc text
    · exact ih hrest hc

/-- What is offered of another place below a folder is not displayed by the name of one of its own
things. -/
theorem display_offer_ne {closed : Place → Prop} {folder : Path} (hd : d.WellFormed)
    (hfolder : folder.Proper) (hp : d.Within closed folder p) (hq : d.Holds folder q) (hne : p ≠ q) :
    (offer home folder "./" p).display ≠ "./" ++ q.path.name := by
  intro heq
  obtain ⟨first, rest, hnames⟩ := hp.exists_names_eq
  have hbelow := (hp.proper hd hfolder).2
  have hname := (hq.proper hd hfolder).1.2 q.path.name (by rw [hq.names_eq]; simp)
  rw [offer, hnames, List.drop_left] at heq
  rw [hnames] at hbelow
  have hone : first :: rest = [q.path.name] :=
    Path.eq_of_intercalate_eq (fun n hn => hbelow n (List.mem_append_right _ hn))
      (List.cons_ne_nil first rest) hname (String.append_right_inj "./" |>.mp heq)
  rw [hone] at hnames
  have hheld := hp.holds hnames
  rw [hheld.names_eq, List.append_cancel_left_eq, List.singleton_inj] at hnames
  exact hne (hheld.eq_of_name_eq hd hq hnames)

end Displays

/-- What is found for a file offers its peers, and not the file itself. -/
structure OffersPeers (s : Settings) (d : Disk) (file : Place) (found : List Candidate) : Prop where
  /-- Every other source file of the folder is on offer. -/
  peer : ∀ g, d.Holds file.path.parent g → g.IsSourceFile s → g ≠ file →
    "./" ++ g.path.name ∈ found.map Candidate.display
  /-- The file itself is not. -/
  self : "./" ++ file.path.name ∉ found.map Candidate.display

/-- What a file is offered are its peers, and not the file itself. -/
theorem Offers.offersPeers {file : Place} {found : List Candidate}
    (h : Offers s d home file found) (hd : d.WellFormed) (hhome : home.Proper)
    (hfile : d.Within (fun _ => False) home file) : OffersPeers s d file found := by
  have hparent := Disk.InTree.parent hfile
  cases h with
  | @intro parts ps hparts hps =>
    constructor
    · intro g hheld hsource hne
      have hg : g ∈ ps := (hps.mem_iff g).mpr ⟨⟨.held hheld, .inl hsource⟩, hne⟩
      have hdisplay : (offer home file.path.parent "./" g).display = "./" ++ g.path.name :=
        display_offer_of_holds hheld
      rw [← hdisplay, List.map_append]
      exact List.mem_append_right _ (List.mem_map_of_mem (List.mem_map_of_mem hg))
    · intro hself
      obtain ⟨c, hc, hdisplay⟩ := List.mem_map.mp hself
      rcases List.mem_append.mp hc with hc | hc
      · exact display_ne_of_fromModules hparts hd hhome (inTree_of_mem_enclosing hparent) hc _
          hdisplay
      · obtain ⟨g, hg, rfl⟩ := List.mem_map.mp hc
        obtain ⟨⟨hbelow, -⟩, hne⟩ := (hps.mem_iff g).mp hg
        exact display_offer_ne hd (hparent.proper hd hhome) hbelow hfile.holds_parent hne hdisplay

/-- What is found along names offers the peers of the file that they lead to, and not that file; where
they lead to none it is nothing. -/
structure OffersAlong (s : Settings) (d : Disk) (top : Place) (names : List String)
    (found : List Candidate) : Prop where
  /-- The peers of the file are on offer. -/
  peers : ∀ q, d.Leads top names q → q.isFolder = false → OffersPeers s d q found
  /-- Without a file nothing is. -/
  nothing : (∀ q, d.Leads top names q → q.isFolder = true) → found = []

section Found

variable {here : Path} {path : String} {file : Place}

/-- A path to what is below the home folder is followed along the names behind those of the home
folder. -/
theorem find?_eq_descend (hfile : d.Within (fun _ => False) home file)
    (hpath : (Path.ofString path).absolute here = file.path) :
    find? d here home path = descend d ⟨home, true⟩ (file.path.names.drop home.names.length) := by
  obtain ⟨name, rest, hnames⟩ := hfile.exists_names_eq
  obtain ⟨item, -, hplace⟩ := hfile.exists_item
  have hanchor : home.anchor = file.path.anchor := by rw [hplace]
  have hbelow : home.below? file.path = some (file.path.names.drop home.names.length) := by
    rw [Path.below?, if_pos hanchor, hnames, List.drop_left]
    exact Path.after?_eq_some_iff.mpr rfl
  rw [find?, hpath, hbelow]

/-- A readable disk gives modules for a path, and they are those of the file that it leads to. -/
theorem exists_modulesFor (hd : d.WellFormed) (hhome : home.Proper) (hread : d.Readable ⟨home, true⟩)
    (hfile : d.Within (fun _ => False) home file)
    (hpath : (Path.ofString path).absolute here = file.path) :
    ∃ found, modulesFor s d here home path = .ok found ∧
      OffersAlong s d ⟨home, true⟩ (file.path.names.drop home.names.length) found := by
  have hfind := find?_eq_descend hfile hpath
  obtain ⟨place?, hdescend, hleads⟩ := exists_descend hd hhome (fun _ => hread)
    (file.path.names.drop home.names.length)
  rw [hdescend] at hfind
  cases place? with
  | none =>
    have hnone : ∀ q, ¬d.Leads ⟨home, true⟩ (file.path.names.drop home.names.length) q :=
      fun q hq => Option.some_ne_none q ((hleads q).mpr hq).symm
    exact ⟨[], modulesFor_of_none hfind, fun q hq => absurd hq (hnone q), fun _ => rfl⟩
  | some q =>
    have hq := (hleads q).mp rfl
    have hunique : ∀ r, d.Leads ⟨home, true⟩ (file.path.names.drop home.names.length) r → q = r :=
      fun r hr => Option.some.inj ((hleads r).mpr hr)
    cases hkind : q.isFolder with
    | true =>
      refine ⟨[], modulesFor_of_isFolder hfind hkind, fun r hr hfolder => ?_, fun _ => rfl⟩
      rw [← hunique r hr, hkind] at hfolder
      cases hfolder
    | false =>
      have hwithin := within_of_find? hd hhome hfind hkind
      obtain ⟨found, hfound⟩ := exists_eligible (s := s) hd hhome hread hwithin
      have hoffers := (offers_of_eligible hd hhome hwithin hfound).offersPeers hd hhome hwithin
      refine ⟨found, (modulesFor_of_not_isFolder hfind hkind).trans hfound,
        fun r hr _ => hunique r hr ▸ hoffers, fun hall => ?_⟩
      rw [hall q hq] at hkind
      cases hkind

end Found

end Place

namespace Catalog

variable {s : Settings} {d : Disk} {here : Path} {p : Project} {f : Forest} {file : Place}
  {path : String}

/-- In a readable project a fresh catalog has an answer for the path of a file. Where no folder holds
two things of one name up to case, it offers the peers of the file, and not the file itself. On every
disk it does so for the file that the path leads to, be it this one or not. -/
theorem candidates_offersPeers (hd : d.WellFormed) (hp : p.Stands d f)
    (hread : d.Readable ⟨p.home, true⟩) (hfile : d.Within (fun _ => False) p.home file)
    (hpath : (Path.ofString path).absolute here = file.path) :
    ∃ found, (candidates s d here p path { forest := f }).1.outcome = (found, none) ∧
      (d.NamesApart → file.isFolder = false → Place.OffersPeers s d file found) ∧
      Place.OffersAlong s d ⟨p.home, true⟩ (file.path.names.drop p.home.names.length) found := by
  have hm : Memory.Sound s d True { forest := f } :=
    ⟨hp.sound.tidy, fun _ => ⟨hp.sound.coherent trivial, fun _ _ h => by cases h⟩⟩
  have houtcome : (candidates s d here p path { forest := f }).1.outcome =
      Place.outcome (Place.modulesFor s d here p.home path) :=
    (answers_candidates hd hm hp.root).outcome trivial
  obtain ⟨found, hfound, halong⟩ :=
    Place.exists_modulesFor (s := s) hd hp.home hread hfile hpath
  rw [hfound] at houtcome
  refine ⟨found, houtcome, fun hapart hkind => ?_, halong⟩
  exact halong.peers file (Place.leads_of_within hfile rfl hapart) hkind

section Spellings

/-- A disk with a folder that holds one name in two spellings. -/
def twoSpellings : Disk :=
  (({} : Disk).write ⟨.root, ["w", "A.js"]⟩ .empty).write ⟨.root, ["w", "a.js"]⟩ .empty

theorem wellFormed_twoSpellings : twoSpellings.WellFormed :=
  (Disk.wellFormed_empty.write (by decide) _).write (by decide) _

/-- There are two files on it, and the folder around them. -/
theorem items_twoSpellings : twoSpellings.items =
    [(["w"], .folder), (["w", "A.js"], .file .empty), (["w", "a.js"], .file .empty)] := by
  rw [twoSpellings]
  cbv

/-- The folder can be listed. -/
theorem readable_twoSpellings : twoSpellings.Readable ⟨⟨.root, ["w"]⟩, true⟩ := by
  have hlist : twoSpellings.list ⟨.root, ["w"]⟩ = .ok [("A.js", false), ("a.js", false)] := by
    rw [twoSpellings]
    cbv
  refine Disk.readable_of_items ⟨_, hlist⟩ fun item hitem hfolder => ?_
  rw [items_twoSpellings] at hitem
  simp only [List.mem_cons, List.not_mem_nil, or_false] at hitem
  rcases hitem with rfl | rfl | rfl
  · exact ⟨_, hlist⟩
  · cases hfolder
  · cases hfolder

/-- The folder holds a file for each spelling. -/
theorem holds_twoSpellings_iff {q : Place} : twoSpellings.Holds ⟨.root, ["w"]⟩ q ↔
    q = ⟨⟨.root, ["w", "A.js"]⟩, false⟩ ∨ q = ⟨⟨.root, ["w", "a.js"]⟩, false⟩ := by
  simp only [Disk.Holds, items_twoSpellings]
  constructor
  · rintro ⟨name, item, hitem, rfl⟩
    have hname : (name = "A.js" ∨ name = "a.js") ∧ item = .file .empty := by
      simpa [or_and_right] using hitem
    obtain ⟨rfl | rfl, rfl⟩ := hname
    · exact .inl rfl
    · exact .inr rfl
  · rintro (rfl | rfl)
    · exact ⟨"A.js", .file .empty, by simp, rfl⟩
    · exact ⟨"a.js", .file .empty, by simp, rfl⟩

/-- A new project stands at the folder. -/
theorem stands_twoSpellings :
    let here := Path.ofString "/w"
    (Project.plant here here {}).1.Stands twoSpellings (Project.plant here here {}).2 ∧
      (Project.plant here here {}).1.home = ⟨.root, ["w"]⟩ := by
  refine ⟨Project.stands_plant (by decide) "/w" ⟨Forest.tidy_empty, fun _ => ?_⟩, by decide⟩
  exact Forest.coherent_empty _

/-- The spelling that comes first is offered the other one, and not itself. -/
theorem candidates_offersPeers_first_spelling :
    let here := Path.ofString "/w"
    let p := (Project.plant here here {}).1
    let f := (Project.plant here here {}).2
    let file : Place := ⟨⟨.root, ["w", "A.js"]⟩, false⟩
    twoSpellings.WellFormed ∧ p.Stands twoSpellings f ∧ twoSpellings.Readable ⟨p.home, true⟩ ∧
      twoSpellings.Within (fun _ => False) p.home file ∧
      (Path.ofString "/w/A.js").absolute here = file.path ∧
      ∃ found, (candidates {} twoSpellings here p "/w/A.js" { forest := f }).1.outcome =
        (found, none) ∧ Place.OffersPeers {} twoSpellings file found := by
  intro here p f file
  obtain ⟨hp, hhome⟩ : p.Stands twoSpellings f ∧ p.home = ⟨.root, ["w"]⟩ := stands_twoSpellings
  have hread : twoSpellings.Readable ⟨p.home, true⟩ := hhome ▸ readable_twoSpellings
  have hheld := holds_twoSpellings_iff.mpr (.inl rfl)
  have hfile : twoSpellings.Within (fun _ => False) p.home file := hhome ▸ .held hheld
  have hpath : (Path.ofString "/w/A.js").absolute here = file.path := by decide
  have hfirst : twoSpellings.FirstNamed p.home "A.js" file := by
    rw [hhome]
    refine ⟨hheld, beq_self_eq_true _, fun q hq _ => ?_⟩
    rcases holds_twoSpellings_iff.mp hq with rfl | rfl <;> decide
  have hleads : twoSpellings.Leads ⟨p.home, true⟩ ["A.js"] file := .cons rfl hfirst (.nil file)
  obtain ⟨found, houtcome, -, halong⟩ :=
    candidates_offersPeers (s := {}) wellFormed_twoSpellings hp hread hfile hpath
  have hoffers := halong.peers file hleads rfl
  exact ⟨wellFormed_twoSpellings, hp, hread, hfile, hpath, found, houtcome, hoffers⟩

/-- The other spelling is offered itself, and nothing else. -/
theorem candidates_second_spelling :
    let here := Path.ofString "/w"
    let p := (Project.plant here here {}).1
    let f := (Project.plant here here {}).2
    let file : Place := ⟨⟨.root, ["w", "a.js"]⟩, false⟩
    twoSpellings.WellFormed ∧ p.Stands twoSpellings f ∧ twoSpellings.Readable ⟨p.home, true⟩ ∧
      twoSpellings.Within (fun _ => False) p.home file ∧ file.IsSourceFile {} ∧
      (Path.ofString "/w/a.js").absolute here = file.path ∧
      ∃ found, (candidates {} twoSpellings here p "/w/a.js" { forest := f }).1.outcome =
        (found, none) ∧ found.map Candidate.display = ["./a.js"] ∧
        ¬Place.OffersPeers {} twoSpellings file found := by
  intro here p f file
  obtain ⟨hp, hhome⟩ : p.Stands twoSpellings f ∧ p.home = ⟨.root, ["w"]⟩ := stands_twoSpellings
  have hread : twoSpellings.Readable ⟨p.home, true⟩ := hhome ▸ readable_twoSpellings
  have hfile : twoSpellings.Within (fun _ => False) p.home file :=
    hhome ▸ .held (holds_twoSpellings_iff.mpr (.inr rfl))
  have hpath : (Path.ofString "/w/a.js").absolute here = file.path := by decide
  have hsource : file.IsSourceFile {} := by
    refine ⟨rfl, ?_⟩
    simp only [file]
    cbv
  have houtcome : (candidates {} twoSpellings here p "/w/a.js" { forest := f }).1.outcome =
      ([⟨"./a.js", "a.js (in project)", .project⟩], none) := by
    simp only [p, f, here, twoSpellings]
    cbv
  exact ⟨wellFormed_twoSpellings, hp, hread, hfile, hsource, hpath, _, houtcome, rfl,
    fun hoffers => hoffers.self (List.mem_singleton.mpr rfl)⟩

end Spellings

end Catalog

end ModuleHints
