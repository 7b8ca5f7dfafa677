import ModuleHints.Proofs.Project.Forest

/-!
# Nodes that listings lead to

A node that listings lead to from a root has a path below that of the root, and no other such node
is at its path. So the place of a node tells which node it is. When listings are forgotten, the
folders that a node was found in still lead up to its root.
-/

namespace ModuleHints.Forest

variable {f f' : Forest} {root k j : NodeId} {p q : Place}

/-- A node that listings lead to from a root, with its place. -/
structure At (f : Forest) (root k : NodeId) (p : Place) : Prop where
  /-- The root is one. -/
  isRoot : f.IsRoot root
  /-- Listings lead to the node. -/
  reached : f.Reached root k
  /-- The node is there. -/
  node : ∃ n, f.node? k = some n
  /-- It is at the place. -/
  place_eq : f.place k = p

/-- A node stays at its place. -/
theorem At.keeps (h : f.At root k p) (hf : f.Keeps f') : f'.At root k p := by
  obtain ⟨n, hn⟩ := h.node
  obtain ⟨m, hm, -⟩ := hf k n hn
  exact ⟨hf.isRoot h.isRoot, hf.reached h.reached, ⟨m, hm⟩, (hf.place_eq hn).trans h.place_eq⟩

theorem At.live (h : f.At root k p) : f.Live k := ⟨root, h.isRoot, h.reached⟩

theorem At.path_eq (h : f.At root k p) : f.path k = p.path := congrArg Place.path h.place_eq

theorem At.isFolder_eq (h : f.At root k p) : f.isFolder k = p.isFolder :=
  congrArg Place.isFolder h.place_eq

theorem At.name_eq (h : f.At root k p) : f.name k = p.path.name := by rw [name, h.path_eq]

/-- In a forest that is in order nodes are at proper paths. -/
theorem Tidy.proper_of_at (hf : f.Tidy) (h : f.At root k p) : p.path.Proper := by
  obtain ⟨n, hn⟩ := h.node
  rw [← h.path_eq, Forest.path_eq hn]
  exact hf.proper hn

/-- A node that a reached folder lists is reached. -/
theorem At.listed (h : f.At root k p) (hparent : f.parent? j = some k) (hlists : f.Lists k j) :
    f.At root j (f.place j) := by
  obtain ⟨n, hn, -⟩ := exists_node_of_parent? hparent
  exact ⟨h.isRoot, .listed h.reached hparent hlists, ⟨n, hn⟩, rfl⟩

theorem Tidy.path_eq_child (hf : f.Tidy) (h : f.parent? k = some j) :
    ∃ name, f.path k = (f.path j).child name := by
  obtain ⟨n, hn, hparent⟩ := exists_node_of_parent? h
  obtain ⟨-, m, name, hm, -, hpath⟩ := hf.parent hn hparent
  exact ⟨name, by rw [Forest.path_eq hn, Forest.path_eq hm, hpath]⟩

/-- Nodes are found in folders. -/
theorem Tidy.isFolder_parent (hf : f.Tidy) (h : f.parent? k = some j) : f.isFolder j = true := by
  obtain ⟨n, hn, hparent⟩ := exists_node_of_parent? h
  obtain ⟨-, m, name, hm, hfolder, -⟩ := hf.parent hn hparent
  rw [Forest.isFolder_eq hm, hfolder]

theorem IsRoot.parent? (h : f.IsRoot k) : f.parent? k = none := by
  obtain ⟨n, hn, hroot⟩ := h
  rw [parent?_eq hn, hroot]

/-- A node that listings lead to from a root is there. -/
theorem at_of_reached (hr : f.IsRoot root) (h : f.Reached root k) : f.At root k (f.place k) := by
  have hnode : ∃ n, f.node? k = some n := by
    cases h with
    | refl =>
      obtain ⟨n, hn, -⟩ := hr
      exact ⟨n, hn⟩
    | listed _ hparent _ =>
      obtain ⟨n, hn, -⟩ := exists_node_of_parent? hparent
      exact ⟨n, hn⟩
  exact ⟨hr, h, hnode, rfl⟩

theorem at_root (hr : f.IsRoot root) (hp : f.place root = p) : f.At root root p := by
  obtain ⟨n, hn, hroot⟩ := hr
  exact ⟨⟨n, hn, hroot⟩, .refl, ⟨n, hn⟩, hp⟩

/-- Listings lead to a node through the folder it was found in. -/
theorem Reached.of_parent? (h : f.Reached root k) (hr : f.IsRoot root)
    (hparent : f.parent? k = some j) :
    f.Reached root j ∧ f.Lists j k := by
  cases h with
  | refl =>
    rw [hr.parent?] at hparent
    cases hparent
  | listed hp hparent' hlists =>
    cases Option.some.inj (hparent'.symm.trans hparent)
    exact ⟨hp, hlists⟩

/-- No node that listings lead to has a shorter path than the root. -/
theorem Tidy.length_le (hf : f.Tidy) (h : f.Reached root k) :
    (f.path root).names.length ≤ (f.path k).names.length := by
  induction h with
  | refl => exact Nat.le_refl _
  | listed _ hparent _ ih =>
    obtain ⟨name, hname⟩ := hf.path_eq_child hparent
    rw [hname, Path.child, List.length_append]
    exact Nat.le_trans ih (Nat.le_add_right _ _)

/-- A node that was found in a folder to which listings lead has a longer path than the root. -/
theorem Tidy.lt_length (hf : f.Tidy) (h : f.Reached root j) (hparent : f.parent? k = some j) :
    (f.path root).names.length < (f.path k).names.length := by
  obtain ⟨name, hname⟩ := hf.path_eq_child hparent
  have hle := hf.length_le h
  rw [hname, Path.child, List.length_append, List.length_singleton]
  exact Nat.lt_succ_of_le hle

/-- Of the nodes that listings lead to from one root, no two are at one path. -/
theorem Tidy.eq_of_path (hf : f.Tidy) (hk : f.Reached root k) (hj : f.Reached root j)
    (h : f.path k = f.path j) : k = j := by
  induction hk generalizing j with
  | refl =>
    cases hj with
    | refl => rfl
    | listed hq hparent _ =>
      have hlonger := hf.lt_length hq hparent
      rw [h] at hlonger
      exact absurd hlonger (Nat.lt_irrefl _)
  | @listed p k hp hparent hlists ih =>
    cases hj with
    | refl =>
      have hlonger := hf.lt_length hp hparent
      rw [h] at hlonger
      exact absurd hlonger (Nat.lt_irrefl _)
    | @listed q _ hq hparent' hlists' =>
      obtain ⟨name, hname⟩ := hf.path_eq_child hparent
      obtain ⟨name', hname'⟩ := hf.path_eq_child hparent'
      rw [hname, hname'] at h
      have hfolders : f.path p = f.path q := by
        have hparents := congrArg Path.parent h
        rwa [Path.parent_child, Path.parent_child] at hparents
      have hsame := ih hq hfolders
      subst hsame
      obtain ⟨n, held, hn, hheld, hmem⟩ := hlists
      obtain ⟨n', held', hn', hheld', hmem'⟩ := hlists'
      cases Option.some.inj (hn.symm.trans hn')
      cases Option.some.inj (hheld.symm.trans hheld')
      exact List.inj_on_of_nodup_map (hf.distinct hn hheld) hmem hmem' (by rw [hname, hname', h])

/-- Nodes that listings lead to from one root are the same exactly where their places are. -/
theorem Tidy.eq_iff (hf : f.Tidy) (hk : f.At root k p) (hj : f.At root j q) : k = j ↔ p = q := by
  constructor
  · rintro rfl
    exact hk.place_eq.symm.trans hj.place_eq
  · rintro rfl
    exact hf.eq_of_path hk.reached hj.reached (hk.path_eq.trans hj.path_eq.symm)

section Under

/-- A node was found in a folder that was found in another one, and so on up to a root. -/
inductive Under (f : Forest) (root : NodeId) : NodeId → Prop where
  | refl : Under f root root
  | found {p k : NodeId} : Under f root p → f.parent? k = some p → Under f root k

/-- Where listings lead, nodes were found. -/
theorem Reached.under (h : f.Reached root k) : f.Under root k := by
  induction h with
  | refl => exact .refl
  | listed _ hparent _ ih => exact .found ih hparent

/-- A node stays under its root. -/
theorem Under.keeps (h : f.Under root k) (hf : f.Keeps f') : f'.Under root k := by
  induction h with
  | refl => exact .refl
  | found _ hparent ih => exact .found ih (hf.parent? hparent)

/-- A node stays under its root when listings are forgotten. -/
theorem Under.refresh (h : f.Under root k) (folder : NodeId) :
    (f.refresh folder).Under root k := by
  induction h with
  | refl => exact .refl
  | found _ hparent ih => exact .found ih ((parent?_refresh ..).trans hparent)

/-- A node that is under a root is there. -/
theorem Under.exists_node (h : f.Under root k) (hr : f.IsRoot root) : ∃ n, f.node? k = some n := by
  cases h with
  | refl =>
    obtain ⟨n, hn, -⟩ := hr
    exact ⟨n, hn⟩
  | found _ hparent =>
    obtain ⟨n, hn, -⟩ := exists_node_of_parent? hparent
    exact ⟨n, hn⟩

/-- A node is under one root only. -/
theorem Under.eq_root (h : f.Under root k) (h' : f.Under j k) (hr : f.IsRoot root)
    (hj : f.IsRoot j) : root = j := by
  induction h with
  | refl =>
    cases h' with
    | refl => rfl
    | found _ hparent =>
      rw [hr.parent?] at hparent
      cases hparent
  | found _ hparent ih =>
    cases h' with
    | refl =>
      rw [hj.parent?] at hparent
      cases hparent
    | found hq hparent' =>
      cases Option.some.inj (hparent.symm.trans hparent')
      exact ih hq

/-- A node is the first of the folders around it. -/
theorem ancestors_ne_nil (f : Forest) (k : NodeId) : f.ancestors k ≠ [] := by
  rw [ancestors]
  split
  · exact List.cons_ne_nil _ _
  · split <;> exact List.cons_ne_nil _ _

/-- The root that a node is under is the root of its tree. -/
theorem Under.rootOf_eq (h : f.Under root k) (hf : f.Found) (hr : f.IsRoot root) :
    f.rootOf k = root := by
  induction h with
  | refl =>
    rw [rootOf, ancestors, hr.parent?]
    rfl
  | @found p k _ hparent ih =>
    have hancestors : f.ancestors k = k :: f.ancestors p := by
      rw [ancestors, hparent]
      exact if_pos (hf.parent_lt hparent)
    obtain ⟨last, hlast⟩ := Option.ne_none_iff_exists'.mp
      (mt List.getLast?_eq_none_iff.mp (f.ancestors_ne_nil p))
    rw [rootOf, hlast] at ih
    rw [rootOf, hancestors, List.getLast?_cons, hlast]
    exact ih

end Under

theorem Reached.eq_root (h : f.Reached root k) (h' : f.Reached j k) (hr : f.IsRoot root)
    (hj : f.IsRoot j) : root = j :=
  h.under.eq_root h'.under hr hj

theorem At.eq_root (h : f.At root k p) (hparent : f.parent? k = none) : k = root := by
  cases h.reached with
  | refl => rfl
  | listed _ hfound _ =>
    rw [hparent] at hfound
    cases hfound

end ModuleHints.Forest
