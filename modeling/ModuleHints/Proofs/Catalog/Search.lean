import ModuleHints.Proofs.Catalog.OnDisk
import ModuleHints.Proofs.Project.Entries

/-!
# What a search finds

A search of a folder finds the places below it that it takes, as far as no closed folder stands in
between: all of them, each once, and in the order of their paths, so that what a folder holds comes
sorted by name and what is below a thing comes before the next one. It fails only where a folder that
it would look into can not be listed.
-/

namespace ModuleHints

/-- The places below a folder that have no closed folder between it and them. -/
inductive Disk.Within (d : Disk) (closed : Place → Prop) : Path → Place → Prop where
  /-- What the folder holds. -/
  | held {top : Path} {q : Place} : d.Holds top q → Within d closed top q
  /-- What is below an open folder that it holds. -/
  | deeper {top : Path} {m q : Place} : d.Holds top m → m.isFolder = true → ¬closed m →
    Within d closed m.path q → Within d closed top q

namespace Disk.Within

variable {d : Disk} {closed : Place → Prop} {top : Path} {q : Place}

/-- The path of what is below a folder goes on from that of the folder. -/
theorem exists_names_eq (h : d.Within closed top q) :
    ∃ name rest, q.path.names = top.names ++ name :: rest := by
  induction h with
  | held hq =>
    obtain ⟨name, hname⟩ := hq.exists_child
    exact ⟨name, [], by rw [hname]; rfl⟩
  | deeper hm _ _ _ ih =>
    obtain ⟨name, hname⟩ := hm.exists_child
    obtain ⟨other, rest, hrest⟩ := ih
    exact ⟨name, other :: rest, by rw [hrest, hname, Path.child, List.append_assoc]; rfl⟩

/-- What is below a folder is elsewhere. -/
theorem path_ne (h : d.Within closed top q) : q.path ≠ top := by
  obtain ⟨name, rest, hnames⟩ := h.exists_names_eq
  rintro rfl
  simp at hnames

/-- What is below a folder is at a proper path where the folder is. -/
theorem proper (h : d.Within closed top q) (hd : d.WellFormed) (htop : top.Proper) :
    q.path.Proper := by
  induction h with
  | held hq => exact (hq.proper hd htop).1
  | deeper hm _ _ _ ih => exact ih (hm.proper hd htop).1

/-- What is below a folder is an item of the disk. -/
theorem exists_item (h : d.Within closed top q) :
    ∃ item, (q.path.names, item) ∈ d.items ∧ q = ⟨⟨top.anchor, q.path.names⟩, item.isFolder⟩ := by
  induction h with
  | held hq =>
    obtain ⟨_, item, hitem, rfl⟩ := hq
    exact ⟨item, hitem, rfl⟩
  | deeper hm _ _ _ ih =>
    obtain ⟨name, hname⟩ := hm.exists_child
    rwa [hname] at ih

/-- What is below a folder is so where fewer folders are closed. -/
theorem imp {closed' : Place → Prop} (h : d.Within closed top q)
    (himp : ∀ m, closed' m → closed m) : d.Within closed' top q := by
  induction h with
  | held hq => exact .held hq
  | deeper hm hfolder hopen _ ih => exact .deeper hm hfolder (fun hclosed => hopen (himp _ hclosed)) ih

/-- What is below a folder that is below another one is below that. -/
theorem trans {m : Place} (h : d.Within closed top m) (hfolder : m.isFolder = true)
    (hopen : ¬closed m) (hq : d.Within closed m.path q) : d.Within closed top q := by
  induction h with
  | held hm => exact .deeper hm hfolder hopen hq
  | deeper hm hfolder' hopen' _ ih => exact .deeper hm hfolder' hopen' (ih hfolder hopen hq)

/-- The folder around what is below a folder is that folder or below it, too. -/
theorem parent_cases (h : d.Within closed top q) :
    q.path.parent = top ∨ d.Within closed top ⟨q.path.parent, true⟩ := by
  induction h with
  | held hq => exact .inl hq.parent_eq
  | @deeper top m q hm hfolder hopen _ ih =>
    have hplace : (⟨m.path, true⟩ : Place) = m := by rw [← hfolder]
    right
    rcases ih with hparent | hbelow
    · rw [hparent, hplace]
      exact .held hm
    · exact .deeper hm hfolder hopen hbelow

/-- What is one name below a folder is held by the folder. -/
theorem holds {name : String} (h : d.Within closed top q)
    (hname : q.path.names = top.names ++ [name]) : d.Holds top q := by
  obtain ⟨item, hitem, hq⟩ := h.exists_item
  rw [hname] at hitem hq
  exact ⟨name, item, hitem, hq⟩

/-- What is below a folder is held by the folder around it. -/
theorem holds_parent (h : d.Within closed top q) : d.Holds q.path.parent q := by
  induction h with
  | held hq => rwa [hq.parent_eq]
  | deeper _ _ _ _ ih => exact ih

end Disk.Within

/-- What is below a folder is what the folder holds and what is below the open folders among that. -/
theorem Disk.within_iff {d : Disk} {closed : Place → Prop} {top : Path} {q : Place} :
    d.Within closed top q ↔ ∃ m, d.Holds top m ∧
      (q = m ∨ m.isFolder = true ∧ ¬closed m ∧ d.Within closed m.path q) := by
  constructor
  · rintro (hq | ⟨hm, hfolder, hopen, hq⟩)
    · exact ⟨q, hq, .inl rfl⟩
    · exact ⟨_, hm, .inr ⟨hfolder, hopen, hq⟩⟩
  · rintro ⟨m, hm, rfl | ⟨hfolder, hopen, hq⟩⟩
    · exact .held hm
    · exact .deeper hm hfolder hopen hq

/-- A folder and all that is below it, whatever stands in between. -/
def Disk.InTree (d : Disk) (top q : Place) : Prop :=
  q = top ∨ d.Within (fun _ => False) top.path q

namespace Disk.InTree

variable {d : Disk} {closed : Place → Prop} {top m q : Place}

/-- What is below a folder of a tree is in the tree below its top. -/
theorem within (h : d.InTree top m) (hfolder : m.isFolder = true)
    (hq : d.Within closed m.path q) : d.Within (fun _ => False) top.path q := by
  have hq' : d.Within (fun _ => False) m.path q := hq.imp fun _ => False.elim
  rcases h with rfl | hm
  · exact hq'
  · exact hm.trans hfolder id hq'

/-- What a folder of a tree holds is in the tree. -/
theorem held (h : d.InTree top m) (hfolder : m.isFolder = true) (hq : d.Holds m.path q) :
    d.InTree top q := by
  have hbelow : d.Within (fun _ => False) m.path q := .held hq
  exact .inr (h.within hfolder hbelow)

/-- What is in a tree is at a proper path where the top is. -/
theorem proper (h : d.InTree top q) (hd : d.WellFormed) (htop : top.path.Proper) :
    q.path.Proper := by
  rcases h with rfl | hq
  · exact htop
  · exact hq.proper hd htop

/-- The folder around what is below the top of a tree is in the tree. -/
theorem parent {home : Path} (h : d.Within (fun _ => False) home q) :
    d.InTree ⟨home, true⟩ ⟨q.path.parent, true⟩ := by
  rcases h.parent_cases with hparent | hq
  · exact .inl (by rw [hparent])
  · exact .inr hq

end Disk.InTree

/-- Every folder of a tree can be listed. -/
def Disk.Readable (d : Disk) (top : Place) : Prop :=
  ∀ q, d.InTree top q → q.isFolder = true → ∃ entries, d.list q.path = .ok entries

/-- The tree of every folder in a readable tree is readable. -/
theorem Disk.Readable.of_inTree {d : Disk} {top m : Place} (h : d.Readable top)
    (hm : d.InTree top m) (hfolder : m.isFolder = true) : d.Readable m := by
  rintro q (rfl | hq) hq'
  · exact h q hm hq'
  · exact h q (.inr (hm.within hfolder hq)) hq'

/-- A tree is readable where its top and all folders of the disk can be listed. -/
theorem Disk.readable_of_items {d : Disk} {top : Path} (htop : ∃ entries, d.list top = .ok entries)
    (h : ∀ item ∈ d.items, item.2.isFolder = true →
      ∃ entries, d.list ⟨top.anchor, item.1⟩ = .ok entries) : d.Readable ⟨top, true⟩ := by
  rintro q (rfl | hq) hfolder
  · exact htop
  · obtain ⟨item, hitem, hplace⟩ := hq.exists_item
    rw [hplace] at hfolder ⊢
    exact h _ hitem hfolder

/-- Places are exactly those that satisfy something, each once, and come in the order of their paths:
a folder before what is below it, and all of that before what comes after the folder by name. -/
structure Enumerates (P : Place → Prop) (ps : List Place) : Prop where
  /-- The places are those that satisfy it. -/
  mem_iff : ∀ q, q ∈ ps ↔ P q
  /-- They come in the order of their paths. -/
  in_order : ps.Pairwise fun p q => p.path.names < q.path.names

/-- Some of the places come in the same order. -/
theorem Enumerates.filter {P : Place → Prop} {ps : List Place} (h : Enumerates P ps)
    (Q : Place → Bool) : Enumerates (fun q => P q ∧ Q q = true) (ps.filter Q) where
  mem_iff q := by rw [List.mem_filter, h.mem_iff]
  in_order := h.in_order.filter Q

namespace Place

/-- Of readings that are made one after the other and give something, each does. -/
theorem exists_of_bind_eq_ok {α β : Type} {x : Except DiskError α} {next : α → Except DiskError β}
    {b : β} (h : x >>= next = .ok b) : ∃ a, x = .ok a ∧ next a = .ok b := by
  cases x with
  | error e => cases h
  | ok a => exact ⟨a, rfl, h⟩

section Collect

variable {pick : Place → Except DiskError (List Place)} {p : Place} {ps out : List Place}

/-- Collecting from a place and others is collecting from the place and from the others. -/
theorem collect_cons_eq_ok (h : collect pick (p :: ps) = .ok out) :
    ∃ first others, pick p = .ok first ∧ collect pick ps = .ok others ∧ out = first ++ others := by
  rw [collect] at h
  obtain ⟨first, hfirst, h⟩ := exists_of_bind_eq_ok h
  obtain ⟨others, hothers, h⟩ := exists_of_bind_eq_ok h
  cases h
  exact ⟨first, others, hfirst, hothers, rfl⟩

/-- What has been collected has been picked, and nothing that has been picked is lost. -/
theorem mem_of_collect (h : collect pick ps = .ok out) (q : Place) :
    q ∈ out ↔ ∃ p ∈ ps, ∃ part, pick p = .ok part ∧ q ∈ part := by
  induction ps generalizing out with
  | nil =>
    cases h
    simp
  | cons p ps ih =>
    obtain ⟨first, others, hfirst, hothers, rfl⟩ := collect_cons_eq_ok h
    rw [List.mem_append, ih hothers]
    constructor
    · rintro (hq | ⟨p', hp', part, hpart, hq⟩)
      · exact ⟨p, List.mem_cons_self .., first, hfirst, hq⟩
      · exact ⟨p', List.mem_cons_of_mem _ hp', part, hpart, hq⟩
    · rintro ⟨p', hp', part, hpart, hq⟩
      rcases List.mem_cons.mp hp' with rfl | hp'
      · cases hfirst.symm.trans hpart
        exact .inl hq
      · exact .inr ⟨p', hp', part, hpart, hq⟩

/-- Collecting asks every place. -/
theorem exists_pick_of_collect (h : collect pick ps = .ok out) (hp : p ∈ ps) :
    ∃ part, pick p = .ok part := by
  induction ps generalizing out with
  | nil => cases hp
  | cons p' ps ih =>
    obtain ⟨first, others, hfirst, hothers, rfl⟩ := collect_cons_eq_ok h
    rcases List.mem_cons.mp hp with rfl | hp
    · exact ⟨first, hfirst⟩
    · exact ih hothers hp

/-- What is collected is in order where the parts are, and where they come in order. -/
theorem pairwise_of_collect {R : Place → Place → Prop} (h : collect pick ps = .ok out)
    (hown : ∀ p ∈ ps, ∀ part, pick p = .ok part → part.Pairwise R)
    (hcross : ps.Pairwise fun p p' => ∀ part part', pick p = .ok part → pick p' = .ok part' →
      ∀ x ∈ part, ∀ y ∈ part', R x y) : out.Pairwise R := by
  induction ps generalizing out with
  | nil =>
    cases h
    exact .nil
  | cons p ps ih =>
    obtain ⟨first, others, hfirst, hothers, rfl⟩ := collect_cons_eq_ok h
    obtain ⟨hnear, hfar⟩ := List.pairwise_cons.mp hcross
    refine List.pairwise_append.mpr ⟨hown p (List.mem_cons_self ..) first hfirst,
      ih hothers (fun p' hp' => hown p' (List.mem_cons_of_mem _ hp')) hfar, ?_⟩
    intro x hx y hy
    obtain ⟨p', hp', part, hpart, hy⟩ := (mem_of_collect hothers y).mp hy
    exact hnear p' hp' first part hfirst hpart x hx y hy

/-- Collecting fails only where a place does. -/
theorem collect_eq_ok (h : ∀ p ∈ ps, ∃ part, pick p = .ok part) :
    ∃ out, collect pick ps = .ok out := by
  induction ps with
  | nil => exact ⟨[], rfl⟩
  | cons p ps ih =>
    obtain ⟨first, hfirst⟩ := h p (List.mem_cons_self ..)
    obtain ⟨others, hothers⟩ := ih fun p' hp' => h p' (List.mem_cons_of_mem _ hp')
    exact ⟨first ++ others, by rw [collect, hfirst, hothers]; rfl⟩

end Collect

variable {d : Disk} {turn : Place → Except DiskError Turn} {closed wanted : Place → Prop} {n : Nat}
  {p : Place} {ps : List Place}

/-- What a search finds at a place that a folder holds. -/
def visit (d : Disk) (turn : Place → Except DiskError Turn) (n : Nat) (p : Place) :
    Except DiskError (List Place) := do
  match ← turn p with
  | .take => return [p]
  | .skip => return []
  | .enter => search d turn n p

/-- A search visits what the folder holds. -/
theorem search_eq_ok (h : search d turn (n + 1) p = .ok ps) :
    ∃ held, p.children d = .ok held ∧ collect (visit d turn n) held = .ok ps := by
  rw [search] at h
  exact exists_of_bind_eq_ok h

/-- A visit takes the place, skips it or searches it. -/
theorem visit_eq_ok {part : List Place} (h : visit d turn n p = .ok part) :
    (turn p = .ok .take ∧ part = [p]) ∨ (turn p = .ok .skip ∧ part = []) ∨
      (turn p = .ok .enter ∧ search d turn n p = .ok part) := by
  rw [visit] at h
  obtain ⟨t, hturn, h⟩ := exists_of_bind_eq_ok h
  cases t with
  | take =>
    cases h
    exact .inl ⟨hturn, rfl⟩
  | skip =>
    cases h
    exact .inr (.inl ⟨hturn, rfl⟩)
  | enter => exact .inr (.inr ⟨hturn, h⟩)

/-- A search takes the places that are wanted, and looks into the folders that are not closed. -/
structure Decides (turn : Place → Except DiskError Turn) (closed wanted : Place → Prop) :
    Prop where
  /-- What is taken is what is wanted. -/
  take_iff : ∀ {q t}, q.path.Proper → turn q = .ok t → (t = .take ↔ wanted q)
  /-- What is looked into are the open folders. -/
  enter_iff : ∀ {q t}, q.path.Proper → turn q = .ok t →
    (t = .enter ↔ q.isFolder = true ∧ ¬closed q)

/-- What a visit finds is what is wanted of the place itself and of what is below it. -/
theorem visit_enumerates (hturn : Decides turn closed wanted) (hp : p.path.Proper)
    (hsearch : p.isFolder = true → ∀ part, search d turn n p = .ok part →
      Enumerates (fun q => d.Within closed p.path q ∧ wanted q) part)
    (h : visit d turn n p = .ok ps) :
    Enumerates (fun q => (q = p ∨ p.isFolder = true ∧ ¬closed p ∧ d.Within closed p.path q) ∧
      wanted q) ps := by
  rcases visit_eq_ok h with ⟨hp', rfl⟩ | ⟨hp', rfl⟩ | ⟨hp', hpart⟩
  · have hwanted := (hturn.take_iff hp hp').mp rfl
    have hnot : ¬(p.isFolder = true ∧ ¬closed p) := by simp [← hturn.enter_iff hp hp']
    refine ⟨fun q => ?_, List.pairwise_singleton ..⟩
    rw [List.mem_singleton]
    constructor
    · rintro rfl
      exact ⟨.inl rfl, hwanted⟩
    · rintro ⟨hq | ⟨hfolder, hopen, -⟩, -⟩
      · exact hq
      · exact absurd ⟨hfolder, hopen⟩ hnot
  · have hwanted : ¬wanted p := by simp [← hturn.take_iff hp hp']
    have hnot : ¬(p.isFolder = true ∧ ¬closed p) := by simp [← hturn.enter_iff hp hp']
    refine ⟨fun q => ⟨fun hq => absurd hq List.not_mem_nil, ?_⟩, .nil⟩
    rintro ⟨rfl | ⟨hfolder, hopen, -⟩, hq⟩
    · exact absurd hq hwanted
    · exact absurd ⟨hfolder, hopen⟩ hnot
  · have hwanted : ¬wanted p := by simp [← hturn.take_iff hp hp']
    obtain ⟨hfolder, hopen⟩ := (hturn.enter_iff hp hp').mp rfl
    have hfound := hsearch hfolder ps hpart
    refine ⟨fun q => ?_, hfound.in_order⟩
    rw [hfound.mem_iff]
    constructor
    · rintro ⟨hq, hwant⟩
      exact ⟨.inr ⟨hfolder, hopen, hq⟩, hwant⟩
    · rintro ⟨rfl | ⟨-, -, hq⟩, hwant⟩
      · exact absurd hwant hwanted
      · exact ⟨hq, hwant⟩

/-- Of two things that a folder holds, all that is found at the first by name comes before all that
is found at the second. -/
theorem names_lt_of_name_lt {top : Path} {m m' q q' : Place} (hm : d.Holds top m)
    (hm' : d.Holds top m') (hlt : m.path.name < m'.path.name)
    (hq : q = m ∨ d.Within closed m.path q) (hq' : q' = m' ∨ d.Within closed m'.path q') :
    q.path.names < q'.path.names := by
  have hnames : ∀ {m q : Place}, d.Holds top m → (q = m ∨ d.Within closed m.path q) →
      ∃ rest, q.path.names = top.names ++ m.path.name :: rest := by
    intro m q hm hq
    rcases hq with rfl | hq
    · exact ⟨[], hm.names_eq⟩
    · obtain ⟨other, rest, hrest⟩ := hq.exists_names_eq
      exact ⟨other :: rest, by rw [hrest, hm.names_eq, List.append_assoc]; rfl⟩
  obtain ⟨rest, hrest⟩ := hnames hm hq
  obtain ⟨rest', hrest'⟩ := hnames hm' hq'
  rw [hrest, hrest']
  exact List.append_left_lt (List.cons_lt_cons_iff.mpr (.inl hlt))

/-- What a search finds is what is wanted of the places below the folder, in the order of their
paths. -/
theorem search_enumerates (hd : d.WellFormed) (hturn : Decides turn closed wanted)
    (hp : p.path.Proper) (hfolder : p.isFolder = true) (hn : Covers d p n)
    (h : search d turn n p = .ok ps) :
    Enumerates (fun q => d.Within closed p.path q ∧ wanted q) ps := by
  induction n generalizing p ps with
  | zero => exact absurd hn.pos (Nat.lt_irrefl 0)
  | succ n ih =>
    obtain ⟨held, hheld, hcollect⟩ := search_eq_ok h
    obtain ⟨hmem, hsorted⟩ := children_iff hd hp hheld
    have hholds : ∀ m ∈ held, d.Holds p.path m := fun m hm => ((hmem m).mp hm).2
    have hvisited : ∀ m ∈ held, ∀ part, visit d turn n m = .ok part →
        Enumerates (fun q => (q = m ∨ m.isFolder = true ∧ ¬closed m ∧ d.Within closed m.path q) ∧
          wanted q) part := by
      intro m hm part hpart
      obtain ⟨hproper, hmem'⟩ := (hholds m hm).proper hd hp
      obtain ⟨name, hname⟩ := (hholds m hm).exists_child
      exact visit_enumerates hturn hproper
        (fun hm' part' hpart' => ih hproper hm' (hn.child hname hmem') hpart') hpart
    constructor
    · intro q
      rw [mem_of_collect hcollect, Disk.within_iff]
      constructor
      · rintro ⟨m, hm, part, hpart, hq⟩
        obtain ⟨hbelow, hwant⟩ := ((hvisited m hm part hpart).mem_iff q).mp hq
        exact ⟨⟨m, hholds m hm, hbelow⟩, hwant⟩
      · rintro ⟨⟨m, hm, hbelow⟩, hwant⟩
        have hm' := (hmem m).mpr ⟨hfolder, hm⟩
        obtain ⟨part, hpart⟩ := exists_pick_of_collect hcollect hm'
        exact ⟨m, hm', part, hpart, ((hvisited m hm' part hpart).mem_iff q).mpr ⟨hbelow, hwant⟩⟩
    · refine pairwise_of_collect hcollect (fun m hm part hpart => (hvisited m hm part hpart).in_order)
        (hsorted.imp_of_mem ?_)
      intro m m' hm hm' hlt part part' hpart hpart' q hq q' hq'
      have hbelow := (((hvisited m hm part hpart).mem_iff q).mp hq).1
      have hbelow' := (((hvisited m' hm' part' hpart').mem_iff q').mp hq').1
      exact names_lt_of_name_lt (hholds m hm) (hholds m' hm') hlt (hbelow.imp_right (·.2.2))
        (hbelow'.imp_right (·.2.2))

/-- A folder that can be listed shows what it holds. -/
theorem exists_children_of_list (h : p.isFolder = true → ∃ entries, d.list p.path = .ok entries) :
    ∃ held, p.children d = .ok held := by
  rw [children]
  split
  next hfolder =>
    obtain ⟨entries, hentries⟩ := h hfolder
    exact ⟨_, by rw [hentries]; rfl⟩
  next => exact ⟨[], rfl⟩

theorem exists_children (h : d.Readable p) : ∃ held, p.children d = .ok held :=
  exists_children_of_list (h p (.inl rfl))

/-- A search gives something where each folder that it looks into shows what it holds, and makes clear
what to do with that. -/
theorem exists_search_of_ready (hd : d.WellFormed) (hdecides : Decides turn closed wanted)
    {ready : Place → Prop} (hshown : ∀ p, ready p → ∃ held, p.children d = .ok held)
    (hclear : ∀ p q, ready p → d.Holds p.path q → ∃ t, turn q = .ok t)
    (hdeeper : ∀ p q, ready p → d.Holds p.path q → q.isFolder = true → ¬closed q → ready q)
    (hp : p.path.Proper) (hready : ready p) : ∃ ps, search d turn n p = .ok ps := by
  induction n generalizing p with
  | zero => exact ⟨[], rfl⟩
  | succ n ih =>
    obtain ⟨held, hheld⟩ := hshown p hready
    have hvisit : ∀ m ∈ held, ∃ part, visit d turn n m = .ok part := by
      intro m hm
      have hholds := (((children_iff hd hp hheld).1 m).mp hm).2
      obtain ⟨t, ht⟩ := hclear p m hready hholds
      have hproper := (hholds.proper hd hp).1
      cases t with
      | take => exact ⟨[m], by rw [visit, ht]; rfl⟩
      | skip => exact ⟨[], by rw [visit, ht]; rfl⟩
      | enter =>
        obtain ⟨hfolder, hopen⟩ := (hdecides.enter_iff hproper ht).mp rfl
        obtain ⟨part, hpart⟩ := ih hproper (hdeeper p m hready hholds hfolder hopen)
        exact ⟨part, by rw [visit, ht]; exact hpart⟩
    obtain ⟨out, hout⟩ := collect_eq_ok hvisit
    exact ⟨out, by rw [search, hheld]; exact hout⟩

/-- A search of a readable folder gives something, as long as what it does with a place is clear from
what the place holds. -/
theorem exists_search (hd : d.WellFormed) (hdecides : Decides turn closed wanted)
    (hturn : ∀ q, (q.isFolder = true → d.Readable q) → ∃ t, turn q = .ok t) (hp : p.path.Proper)
    (hread : d.Readable p) : ∃ ps, search d turn n p = .ok ps := by
  have hbelow : ∀ p q, d.Readable p → d.Holds p.path q → q.isFolder = true → d.Readable q :=
    fun p q hread hq => hread.of_inTree (.inr (.held hq))
  exact exists_search_of_ready hd hdecides (fun p => exists_children)
    (fun p q hread hq => hturn q (hbelow p q hread hq))
    (fun p q hread hq hfolder _ => hbelow p q hread hq hfolder) hp hread

end Place

end ModuleHints
