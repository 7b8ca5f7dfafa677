import Mathlib
import ModuleHints.Proofs.Catalog.Remembered
import ModuleHints.Proofs.Catalog.Kinds
import ModuleHints.Proofs.Project.Planted

/-!
# What a file is offered

A file is offered what the modules folders around it have, from its own folder out to the home folder,
and then the other places beside and below it. Of each folder it is offered every place that counts
as a module there, once and in the order of the paths, displayed by the names that lead to it. Asking
for this gives something wherever all folders of the project can be listed.
-/

namespace ModuleHints

namespace Place

/-- The candidate for a place, displayed by the names that lead to it from a folder, and described by
those that lead to it from the home folder. -/
def offer (home folder : Path) (lead : String) (p : Place) : Candidate :=
  ⟨lead ++ "/".intercalate (p.path.names.drop folder.names.length),
    "/".intercalate (p.path.names.drop home.names.length) ++ " (in project)", .project⟩

/-- What the modules folder of a folder offers, if the first thing under its name is one. -/
inductive FromModules (s : Settings) (d : Disk) (home folder : Path) : List Candidate → Prop where
  /-- The modules below the modules folder, displayed as seen from it. -/
  | searched {m : Place} {ps : List Place} : d.FirstNamed folder s.modulesFolder m →
    m.isFolder = true →
    Enumerates (fun q => d.Within (IsClosed s d) m.path q ∧ q.IsModule s d) ps →
    FromModules s d home folder (ps.map (offer home m.path ""))
  /-- Nothing, where there is no modules folder. -/
  | absent : (∀ m, d.FirstNamed folder s.modulesFolder m → m.isFolder = false) →
    FromModules s d home folder []

/-- What a file is offered: what the modules folders of the folders around it have, from the nearest
folder to the home folder, and then the other places below its own folder. -/
inductive Offers (s : Settings) (d : Disk) (home : Path) (file : Place) :
    List Candidate → Prop where
  /-- The offers of the folders, and the peers of the file, displayed as seen from its folder. -/
  | intro {parts : List (List Candidate)} {ps : List Place} :
    List.Forall₂ (fun folder part => FromModules s d home folder.path part)
      (enclosing home file.path.parent) parts →
    Enumerates
      (fun q => (d.Within (IsClosed s d) file.path.parent q ∧ q.IsPeer s d) ∧ q ≠ file) ps →
    Offers s d home file (parts.flatten ++ ps.map (offer home file.path.parent "./"))

variable {s : Settings} {d : Disk} {home : Path} {folder file p q : Place}
  {folders : List Place} {found : List Candidate}

section Tree

/-- What names lead to is the place itself or below it. -/
theorem within_of_descend (hd : d.WellFormed) (hp : p.path.Proper) {names : List String}
    (h : p.descend d names = .ok (some q)) :
    q = p ∨ p.isFolder = true ∧ d.Within (fun _ => False) p.path q := by
  induction names generalizing p with
  | nil =>
    cases h
    exact .inl rfl
  | cons name rest ih =>
    rw [descend] at h
    obtain ⟨child, hchild, h⟩ := exists_of_bind_eq_ok h
    cases child with
    | none => cases h
    | some m =>
      obtain ⟨held, hheld, hm⟩ := child?_eq_ok hchild
      obtain ⟨hfolder, hholds⟩ :=
        ((children_iff hd hp hheld).1 m).mp (List.mem_of_find?_eq_some hm.symm)
      right
      refine ⟨hfolder, ?_⟩
      rcases ih (hholds.proper hd hp).1 h with rfl | ⟨hm', hq⟩
      · exact .held hholds
      · exact .deeper hholds hm' id hq

/-- A file that a path leads to is below the home folder. -/
theorem within_of_find? (hd : d.WellFormed) (hhome : home.Proper) {here : Path} {path : String}
    (h : find? d here home path = .ok (some q)) (hq : q.isFolder = false) :
    d.Within (fun _ => False) home q := by
  rw [find?] at h
  split at h
  next => cases h
  next names _ =>
    rcases within_of_descend hd hhome h with rfl | ⟨-, hbelow⟩
    · cases hq
    · exact hbelow

/-- The folders around a folder of a project, up to the home folder, are folders of the project. -/
theorem inTree_of_mem_enclosing {top : Path} (h : d.InTree ⟨home, true⟩ ⟨top, true⟩) :
    ∀ a ∈ enclosing home top, d.InTree ⟨home, true⟩ a ∧ a.isFolder = true := by
  induction top using enclosing.induct home with
  | case1 =>
    rw [enclosing, if_pos rfl]
    intro a ha
    rw [List.mem_singleton.mp ha]
    exact ⟨h, rfl⟩
  | case2 top hne hroot =>
    rw [enclosing, if_neg hne, if_pos hroot]
    exact fun a ha => absurd ha List.not_mem_nil
  | case3 top hne hroot ih =>
    rw [enclosing, if_neg hne, if_neg hroot]
    have hbelow : d.Within (fun _ => False) home ⟨top, true⟩ :=
      h.resolve_left fun heq => hne (congrArg Place.path heq)
    intro a ha
    rcases List.mem_cons.mp ha with rfl | ha
    · exact ⟨h, rfl⟩
    · exact ih (.parent hbelow) a ha

end Tree

section Right

/-- The candidate for a place below a folder of the project is displayed by the names that lead to
it. -/
theorem candidate_eq_offer {closed : Place → Prop} (hd : d.WellFormed) (hhome : home.Proper)
    (hm : d.InTree ⟨home, true⟩ folder) (hfolder : folder.isFolder = true)
    (hp : d.Within closed folder.path p) (lead : String) :
    candidate home (lead ++ Path.relative folder.path p.path) p = offer home folder.path lead p := by
  have hbelow := hm.within hfolder hp
  have hproper := hbelow.proper hd hhome
  obtain ⟨_, _, hnames⟩ := hp.exists_names_eq
  obtain ⟨_, _, hall⟩ := hbelow.exists_names_eq
  rw [candidate, offer, Path.relative_of_names_eq hproper hnames,
    Path.relative_of_names_eq hproper hall]

/-- The candidates in the modules folder of a folder are what that offers. -/
theorem fromModules_of_modulesOf (hd : d.WellFormed) (hhome : home.Proper)
    (hm : d.InTree ⟨home, true⟩ folder) (hfolder : folder.isFolder = true)
    (h : modulesOf s d home folder = .ok found) : FromModules s d home folder.path found := by
  have hproper := hm.proper hd hhome
  rw [modulesOf] at h
  obtain ⟨child, hchild, h⟩ := exists_of_bind_eq_ok h
  cases child with
  | none =>
    cases h
    refine .absent fun m hfirst => ?_
    have hnone := isSome_child?_iff hd hproper hfolder hchild
    exact absurd (hnone.mpr ⟨m, hfirst.holds, hfirst.named⟩) Bool.false_ne_true
  | some m =>
    have hfirst := firstNamed_of_child? hd hproper hchild
    have hmtree : d.InTree ⟨home, true⟩ m := hm.held hfolder hfirst.holds
    cases hkind : m.isFolder with
    | false =>
      simp only [hkind] at h
      cases h
      exact .absent fun m' hfirst' => by rw [hfirst'.eq hfirst hd, hkind]
    | true =>
      simp only [hkind] at h
      obtain ⟨ps, hps, h⟩ := exists_of_bind_eq_ok h
      cases h
      have hfound := search_enumerates hd (decides_packageTurn hd) (hmtree.proper hd hhome) hkind
        (covers_depth d {} m) hps
      have hshown : ps.map (fun p => candidate home (Path.relative m.path p.path) p) =
          ps.map (offer home m.path "") := by
        apply List.map_congr_left
        intro p hp
        rw [← candidate_eq_offer hd hhome hmtree hkind ((hfound.mem_iff p).mp hp).1,
          String.empty_append]
      rw [hshown]
      exact .searched hfirst hkind hfound

/-- The candidates in the modules folders of folders are what those offer, one after the other. -/
theorem fromModules_of_modulesOfAll (hd : d.WellFormed) (hhome : home.Proper)
    (hfolders : ∀ a ∈ folders, d.InTree ⟨home, true⟩ a ∧ a.isFolder = true)
    (h : modulesOfAll s d home folders = .ok found) :
    ∃ parts, List.Forall₂ (fun folder part => FromModules s d home folder.path part) folders parts ∧
      found = parts.flatten := by
  induction folders generalizing found with
  | nil =>
    cases h
    exact ⟨[], .nil, rfl⟩
  | cons a rest ih =>
    rw [modulesOfAll] at h
    obtain ⟨first, hfirst, h⟩ := exists_of_bind_eq_ok h
    obtain ⟨others, hothers, h⟩ := exists_of_bind_eq_ok h
    cases h
    obtain ⟨ha, hkind⟩ := hfolders a (List.mem_cons_self ..)
    obtain ⟨parts, hparts, rfl⟩ := ih (fun b hb => hfolders b (List.mem_cons_of_mem _ hb)) hothers
    exact ⟨first :: parts, .cons (fromModules_of_modulesOf hd hhome ha hkind hfirst) hparts, rfl⟩

/-- The candidates beside and below a file are its peers but itself. -/
theorem exists_of_peers (hd : d.WellFormed) (hhome : home.Proper)
    (hm : d.InTree ⟨home, true⟩ folder) (hfolder : folder.isFolder = true)
    (h : peers s d home folder file = .ok found) :
    ∃ ps, Enumerates (fun q => (d.Within (IsClosed s d) folder.path q ∧ q.IsPeer s d) ∧ q ≠ file) ps ∧
      found = ps.map (offer home folder.path "./") := by
  rw [peers] at h
  obtain ⟨ps, hps, h⟩ := exists_of_bind_eq_ok h
  cases h
  have hfound := search_enumerates hd (decides_sourceTurn hd) (hm.proper hd hhome) hfolder
    (covers_depth d {} folder) hps
  have hothers := hfound.filter (fun q => decide (q ≠ file))
  simp only [decide_eq_true_eq] at hothers
  refine ⟨_, hothers, ?_⟩
  apply List.map_congr_left
  intro p hp
  exact candidate_eq_offer hd hhome hm hfolder ((hothers.mem_iff p).mp hp).1.1 "./"

/-- The modules that the disk gives for a file of the project are what the file is offered. -/
theorem offers_of_eligible (hd : d.WellFormed) (hhome : home.Proper)
    (hfile : d.Within (fun _ => False) home file) (h : eligible s d home file = .ok found) :
    Offers s d home file found := by
  have hparent := Disk.InTree.parent hfile
  rw [eligible, if_neg hfile.path_ne] at h
  obtain ⟨modules, hmodules, h⟩ := exists_of_bind_eq_ok h
  obtain ⟨beside, hbeside, h⟩ := exists_of_bind_eq_ok h
  cases h
  obtain ⟨parts, hparts, rfl⟩ :=
    fromModules_of_modulesOfAll hd hhome (inTree_of_mem_enclosing hparent) hmodules
  obtain ⟨ps, hps, rfl⟩ := exists_of_peers hd hhome hparent rfl hbeside
  exact .intro hparts hps

end Right

section Given

/-- A modules folder is searched, and a file in its place gives no candidates. -/
theorem modulesOf_of_child? {m : Place} (h : folder.child? d s.modulesFolder = .ok (some m)) :
    modulesOf s d home folder =
      if m.isFolder = false then .ok []
      else (search d (packageTurn s d) (depth d) m).map fun ps =>
        ps.map fun p => candidate home (Path.relative m.path p.path) p := by
  obtain ⟨place, isFolder⟩ := m
  rw [modulesOf, h]
  cases isFolder <;> rfl

/-- The modules folder of a folder of a readable project gives candidates. -/
theorem exists_modulesOf (hd : d.WellFormed) (hhome : home.Proper) (hread : d.Readable ⟨home, true⟩)
    (hm : d.InTree ⟨home, true⟩ folder) (hfolder : folder.isFolder = true) :
    ∃ found, modulesOf s d home folder = .ok found := by
  obtain ⟨child, hchild⟩ := exists_child? (hread.of_inTree hm hfolder) s.modulesFolder
  cases child with
  | none => exact ⟨[], by rw [modulesOf, hchild]; rfl⟩
  | some m =>
    have hholds := (firstNamed_of_child? hd (hm.proper hd hhome) hchild).holds
    have hmtree := hm.held hfolder hholds
    cases hkind : m.isFolder with
    | false => exact ⟨[], (modulesOf_of_child? hchild).trans (if_pos hkind)⟩
    | true =>
      obtain ⟨ps, hps⟩ := exists_search (n := depth d) hd (decides_packageTurn (s := s) hd)
        (fun _ => exists_packageTurn) (hmtree.proper hd hhome) (hread.of_inTree hmtree hkind)
      have hnot : ¬m.isFolder = false := by simp [hkind]
      exact ⟨_, by rw [modulesOf_of_child? hchild, if_neg hnot, hps]; rfl⟩

/-- The modules folders of folders of a readable project give candidates. -/
theorem exists_modulesOfAll (hd : d.WellFormed) (hhome : home.Proper)
    (hread : d.Readable ⟨home, true⟩)
    (hfolders : ∀ a ∈ folders, d.InTree ⟨home, true⟩ a ∧ a.isFolder = true) :
    ∃ found, modulesOfAll s d home folders = .ok found := by
  induction folders with
  | nil => exact ⟨[], rfl⟩
  | cons a rest ih =>
    obtain ⟨ha, hkind⟩ := hfolders a (List.mem_cons_self ..)
    obtain ⟨first, hfirst⟩ := exists_modulesOf (s := s) hd hhome hread ha hkind
    obtain ⟨others, hothers⟩ := ih fun b hb => hfolders b (List.mem_cons_of_mem _ hb)
    exact ⟨first ++ others, by rw [modulesOfAll, hfirst, hothers]; rfl⟩

/-- A readable disk gives modules for a file. -/
theorem exists_eligible (hd : d.WellFormed) (hhome : home.Proper) (hread : d.Readable ⟨home, true⟩)
    (hfile : d.Within (fun _ => False) home file) :
    ∃ found, eligible s d home file = .ok found := by
  have hparent := Disk.InTree.parent hfile
  obtain ⟨modules, hmodules⟩ := exists_modulesOfAll (s := s) hd hhome hread
    (inTree_of_mem_enclosing hparent)
  obtain ⟨ps, hps⟩ := exists_search (n := depth d) hd (decides_sourceTurn (s := s) hd)
    (fun _ => exists_sourceTurn) (hparent.proper hd hhome) (hread.of_inTree hparent rfl)
  exact ⟨_, by rw [eligible, if_neg hfile.path_ne, hmodules, peers, hps]; rfl⟩

end Given

end Place

/-- The tree of a project stands in a forest where what is kept says what the disk does. -/
structure Project.Stands (d : Disk) (p : Project) (f : Forest) : Prop where
  /-- The home folder is at a proper path. -/
  home : p.home.Proper
  /-- The forest is in order, and its listings say what the disk does. -/
  sound : Walk.Sound d True f
  /-- The root of the project is at its home folder. -/
  root : f.At p.root p.root ⟨p.home, true⟩

namespace Project

variable {d : Disk} {f : Forest}

/-- A new project stands in its forest. -/
theorem stands_plant {here : Path} (hhere : here.Proper) (home : String)
    (hf : Walk.Sound d True f) :
    (plant here (.ofString home) f).1.Stands d (plant here (.ofString home) f).2 := by
  have hhome := (Path.plain_ofString home).proper_absolute hhere
  obtain ⟨hroot, hplace⟩ := Forest.isRoot_plant f ((Path.ofString home).absolute here)
  have hcoherent := (hf.coherent trivial).plant hf.tidy ((Path.ofString home).absolute here)
  exact ⟨hhome, ⟨hf.tidy.plant hhome, fun _ => hcoherent⟩, Forest.at_root hroot hplace⟩

/-- A project stands through walks. -/
theorem Stands.walked {α β : Type} {p : Project} (h : p.Stands d f)
    {R : Forest → α → β → Prop} {w : Walk α} {r : Except DiskError β}
    (hw : Walk.Agrees d True R f w r) : p.Stands d (w.go d f).2 :=
  ⟨h.home, hw.sound, h.root.keeps hw.grows.keeps⟩

end Project

namespace Catalog

variable {s : Settings} {d : Disk} {here : Path} {path : String} {p : Project} {f f' : Forest}
  {file : NodeId}

/-- A file found in a project is offered the modules of the folders around it and then its peers, and
nothing but a folder that can not be listed keeps them from it. -/
theorem eligible_offers (hd : d.WellFormed) (hp : p.Stands d f)
    (hfind : (p.find? here path).go d f = (.ok (some file), f')) (hfile : f'.isFolder file = false) :
    (∀ found, ((eligible s p file).go d f').1 = .ok found →
        Place.Offers s d p.home (f'.place file) found) ∧
      (d.Readable ⟨p.home, true⟩ → ∃ found, ((eligible s p file).go d f').1 = .ok found) := by
  have hfound := agrees_find? hd hp.sound hp.root here path
  have hp' := hp.walked hfound
  rw [hfind] at hp'
  obtain ⟨place, hat, hdisk⟩ := hfound.ok _ (congrArg Prod.fst hfind)
  rw [hfind] at hat
  cases hat with
  | @some _ q hk =>
    rw [hk.place_eq]
    rw [hk.isFolder_eq] at hfile
    have hwithin := Place.within_of_find? hd hp.home (hdisk trivial) hfile
    have hwalk := agrees_eligible (s := s) hd hp'.sound hp'.root hk
    constructor
    · intro found hout
      obtain ⟨_, rfl, hgiven⟩ := hwalk.ok found hout
      exact Place.offers_of_eligible hd hp.home hwithin (hgiven trivial)
    · intro hread
      obtain ⟨found, hgiven⟩ := Place.exists_eligible (s := s) hd hp.home hread hwithin
      cases hout : ((eligible s p file).go d f').1 with
      | ok found => exact ⟨found, rfl⟩
      | error e => cases (hwalk.error e hout trivial).symm.trans hgiven

/-- A file beside a modules folder, where all folders can be listed. -/
theorem eligible_offers_beside_modules :
    let s : Settings := { modulesFolder := "m" }
    let d := (({} : Disk).write (.ofString "/w/a.js") .empty).write (.ofString "/w/m/b.js") .empty
    let p := (Project.plant (.ofString "/w") (.ofString "/w") {}).1
    let f := (Project.plant (.ofString "/w") (.ofString "/w") {}).2
    let f' := ((p.find? (.ofString "/w") "a.js").go d f).2
    d.WellFormed ∧ p.Stands d f ∧
      (p.find? (.ofString "/w") "a.js").go d f = (.ok (some 1), f') ∧ f'.isFolder 1 = false ∧
      ∃ found, ((eligible s p 1).go d f').1 = .ok found ∧
        Place.Offers s d p.home ⟨.ofString "/w/a.js", false⟩ found := by
  intro s d p f f'
  have hd : d.WellFormed := (Disk.wellFormed_empty.write (by decide) _).write (by decide) _
  have hp : p.Stands d f := Project.stands_plant (by decide) "/w"
    ⟨Forest.tidy_empty, fun _ => Forest.coherent_empty d⟩
  have hfind : ((p.find? (.ofString "/w") "a.js").go d f).1 = .ok (some 1) := by
    simp only [p, f, d]
    cbv
  have hplace : f'.place 1 = ⟨.ofString "/w/a.js", false⟩ := by
    simp only [f', p, f, d]
    cbv
  have hfile : f'.isFolder 1 = false := by
    simp only [f', p, f, d]
    cbv
  have hitems : d.items = [(["w"], .folder), (["w", "a.js"], .file .empty), (["w", "m"], .folder),
      (["w", "m", "b.js"], .file .empty)] := by
    simp only [d]
    cbv
  have htop : d.list ⟨.root, ["w"]⟩ = .ok [("a.js", false), ("m", true)] := by
    simp only [d]
    cbv
  have hmodules : d.list ⟨.root, ["w", "m"]⟩ = .ok [("b.js", false)] := by
    simp only [d]
    cbv
  have hhome : p.home = ⟨.root, ["w"]⟩ := by
    simp only [p]
    cbv
  have hread : d.Readable ⟨p.home, true⟩ := by
    rw [hhome]
    refine Disk.readable_of_items ⟨_, htop⟩ fun item hitem hfolder => ?_
    rw [hitems] at hitem
    simp only [List.mem_cons, List.not_mem_nil, or_false] at hitem
    rcases hitem with rfl | rfl | rfl | rfl
    · exact ⟨_, htop⟩
    · cases hfolder
    · exact ⟨_, hmodules⟩
    · cases hfolder
  obtain ⟨hoffers, hgives⟩ := eligible_offers (s := s) hd hp (Prod.ext hfind rfl) hfile
  obtain ⟨found, hfound⟩ := hgives hread
  exact ⟨hd, hp, Prod.ext hfind rfl, hfile, found, hfound, hplace ▸ hoffers found hfound⟩

end Catalog

end ModuleHints
