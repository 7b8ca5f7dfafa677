import ModuleHints.Project.Forest
import ModuleHints.Proofs.Project.Places

/-!
# Trees in order

Whatever the disk, the nodes of a forest stay in order: each was found in its parent under one name,
the nodes of a listing were found where the listing is kept, and listings are kept only where
present listings lead from a root. Forgetting listings and walking keep that order. As long as the
disk does not change, a listing also says what the disk does, and walking keeps that, too.
-/

namespace ModuleHints.Forest

/-- Whether a folder's present listing holds a node. -/
def Lists (f : Forest) (folder k : NodeId) : Prop :=
  ∃ n held, f.node? folder = some n ∧ n.listing = some held ∧ k ∈ held

/-- Present listings lead from a folder down to a node. -/
inductive Reached (f : Forest) (folder : NodeId) : NodeId → Prop where
  | refl : Reached f folder folder
  | listed {p k : NodeId} : Reached f folder p → f.parent? k = some p → f.Lists p k →
    Reached f folder k

/-- A node that was not found in any folder. -/
def IsRoot (f : Forest) (k : NodeId) : Prop := ∃ n, f.node? k = some n ∧ n.parent = none

/-- Present listings lead from a root down to the node. -/
def Live (f : Forest) (k : NodeId) : Prop := ∃ r, f.IsRoot r ∧ f.Reached r k

/-- The place of a node. -/
def place (f : Forest) (k : NodeId) : Place := ⟨f.path k, f.isFolder k⟩

/-- The order that a forest is in wherever it is asked: what a folder lists or has parked was found
in it. -/
structure Found (f : Forest) : Prop where
  /-- A node is younger than the folder it was found in, and one name below it. -/
  parent : ∀ {k n p}, f.node? k = some n → n.parent = some p →
    p < k ∧ ∃ m name, f.node? p = some m ∧ m.isFolder = true ∧ n.path = m.path.child name
  /-- The nodes of a listing were found in its folder. -/
  held : ∀ {k n held j}, f.node? k = some n → n.listing = some held → j ∈ held →
    f.parent? j = some k
  /-- The parked nodes were found in the folder, too. -/
  parked : ∀ {k n j}, f.node? k = some n → j ∈ n.parked → f.parent? j = some k

/-- The order that a forest is always in. -/
structure Tidy (f : Forest) : Prop where
  /-- Every node is at a proper path. -/
  proper : ∀ {k n}, f.node? k = some n → n.path.Proper
  /-- A node is younger than the folder it was found in, and one name below it. -/
  parent : ∀ {k n p}, f.node? k = some n → n.parent = some p →
    p < k ∧ ∃ m name, f.node? p = some m ∧ m.isFolder = true ∧ n.path = m.path.child name
  /-- The nodes of a listing were found in its folder. -/
  held : ∀ {k n held j}, f.node? k = some n → n.listing = some held → j ∈ held →
    f.parent? j = some k
  /-- They are at different paths. -/
  distinct : ∀ {k n held}, f.node? k = some n → n.listing = some held → (held.map f.path).Nodup
  /-- The parked nodes were found in the folder, too. -/
  parked : ∀ {k n j}, f.node? k = some n → j ∈ n.parked → f.parent? j = some k
  /-- A listing is kept only where listings lead. -/
  live : ∀ {k n}, f.node? k = some n → n.listing ≠ none → f.Live k

/-- Every listing says what the disk does. -/
def Coherent (d : Disk) (f : Forest) : Prop :=
  ∀ k n held, f.node? k = some n → n.listing = some held →
    (f.place k).children d = .ok (held.map f.place)

/-- The second forest has all that the first one has: no node is lost or moved, and no listing
forgotten. -/
def Keeps (f f' : Forest) : Prop :=
  ∀ k n, f.node? k = some n → ∃ n', f'.node? k = some n' ∧ n'.path = n.path ∧
    n'.parent = n.parent ∧ n'.isFolder = n.isFolder ∧
      ∀ held, n.listing = some held → n'.listing = some held

/-- The second forest has all that the first one has, and no new roots. -/
structure Grows (f f' : Forest) : Prop where
  /-- Nothing is lost. -/
  keeps : f.Keeps f'
  /-- A root was one before. -/
  root : ∀ {k}, f'.IsRoot k → f.IsRoot k

section Basic

variable {f f' f'' : Forest} {k p r : NodeId} {n : Node}

theorem parent?_eq (h : f.node? k = some n) : f.parent? k = n.parent := by
  rw [parent?, h, Option.bind_some]

theorem path_eq (h : f.node? k = some n) : f.path k = n.path := by
  rw [path, h, Option.map_some, Option.getD_some]

theorem isFolder_eq (h : f.node? k = some n) : f.isFolder k = n.isFolder := by
  rw [isFolder, h, Option.any_some]

theorem place_eq (h : f.node? k = some n) : f.place k = ⟨n.path, n.isFolder⟩ := by
  rw [place, path_eq h, isFolder_eq h]

theorem exists_node_of_parent? (h : f.parent? k = some p) :
    ∃ n, f.node? k = some n ∧ n.parent = some p :=
  Option.bind_eq_some_iff.mp h

/-- The kept listing of a folder holds a node exactly where the folder lists it. -/
theorem lists_iff : f.lists p k = true ↔ f.Lists p k := by
  rw [lists, Lists]
  cases hp : f.node? p with
  | none => simp
  | some n => cases hn : n.listing <;> simp [hn]

theorem Tidy.found (hf : f.Tidy) : f.Found := ⟨hf.parent, hf.held, hf.parked⟩

theorem Keeps.refl (f : Forest) : f.Keeps f := fun _ _ h => ⟨_, h, rfl, rfl, rfl, fun _ => id⟩

theorem Keeps.trans (h : f.Keeps f') (h' : f'.Keeps f'') : f.Keeps f'' := by
  intro k n hk
  obtain ⟨m, hm, hpath, hparent, hfolder, hlisting⟩ := h _ _ hk
  obtain ⟨m', hm', hpath', hparent', hfolder', hlisting'⟩ := h' _ _ hm
  exact ⟨m', hm', hpath'.trans hpath, hparent'.trans hparent, hfolder'.trans hfolder,
    fun held hheld => hlisting' held (hlisting held hheld)⟩

theorem Keeps.place_eq (h : f.Keeps f') (hk : f.node? k = some n) : f'.place k = f.place k := by
  obtain ⟨m, hm, hpath, -, hfolder, -⟩ := h _ _ hk
  rw [Forest.place_eq hm, Forest.place_eq hk, hpath, hfolder]

/-- The nodes of a listing stay at their places. -/
theorem Tidy.map_place (hf : f.Tidy) (h : f.Keeps f') {held : List NodeId} (hk : f.node? k = some n)
    (hheld : n.listing = some held) : held.map f'.place = held.map f.place := by
  apply List.map_congr_left
  intro j hj
  obtain ⟨m, hm, -⟩ := exists_node_of_parent? (hf.held hk hheld hj)
  exact h.place_eq hm

/-- They stay at different paths. -/
theorem Tidy.nodup_path (hf : f.Tidy) (h : f.Keeps f') {held : List NodeId}
    (hk : f.node? k = some n) (hheld : n.listing = some held) : (held.map f'.path).Nodup := by
  have hpaths := congrArg (List.map Place.path) (hf.map_place h hk hheld)
  rw [List.map_map, List.map_map] at hpaths
  change held.map f'.path = held.map f.path at hpaths
  rw [hpaths]
  exact hf.distinct hk hheld

/-- A node keeps its parent. -/
theorem Keeps.parent? (h : f.Keeps f') (hk : f.parent? k = some p) : f'.parent? k = some p := by
  obtain ⟨n, hn, hp⟩ := exists_node_of_parent? hk
  obtain ⟨m, hm, -, hparent, -⟩ := h _ _ hn
  rw [parent?_eq hm, hparent, hp]

theorem Keeps.isRoot (h : f.Keeps f') (hk : f.IsRoot k) : f'.IsRoot k := by
  obtain ⟨n, hn, hp⟩ := hk
  obtain ⟨m, hm, -, hparent, -⟩ := h _ _ hn
  exact ⟨m, hm, hparent.trans hp⟩

theorem Keeps.lists (h : f.Keeps f') (hk : f.Lists p k) : f'.Lists p k := by
  obtain ⟨n, held, hn, hheld, hmem⟩ := hk
  obtain ⟨m, hm, -, -, -, hlisting⟩ := h _ _ hn
  exact ⟨m, held, hm, hlisting held hheld, hmem⟩

/-- Where listings lead, they still lead. -/
theorem Keeps.reached (h : f.Keeps f') (hk : f.Reached r k) : f'.Reached r k := by
  induction hk with
  | refl => exact .refl
  | listed _ hparent hlists ih => exact .listed ih (h.parent? hparent) (h.lists hlists)

theorem Keeps.live (h : f.Keeps f') (hk : f.Live k) : f'.Live k := by
  obtain ⟨r, hr, hreached⟩ := hk
  exact ⟨r, h.isRoot hr, h.reached hreached⟩

theorem Grows.refl (f : Forest) : f.Grows f := ⟨Keeps.refl f, id⟩

theorem Grows.trans (h : f.Grows f') (h' : f'.Grows f'') : f.Grows f'' :=
  ⟨h.keeps.trans h'.keeps, fun hk => h.root (h'.root hk)⟩

end Basic

section Refresh

variable {f : Forest} {folder k r : NodeId} {n : Node}

theorem Found.parent_lt (hf : f.Found) {p : NodeId} (h : f.parent? k = some p) : p < k := by
  obtain ⟨n, hn, hp⟩ := exists_node_of_parent? h
  exact (hf.parent hn hp).1

/-- The search for a folder from a node upward finds it exactly where listings lead down. -/
theorem Found.reaches_iff (hf : f.Found) : f.reaches folder k = true ↔ f.Reached folder k := by
  constructor
  · intro h
    induction k using Nat.strongRecOn with
    | ind k ih =>
      rw [reaches] at h
      split at h
      next hk => exact hk ▸ .refl
      next =>
        split at h
        · cases h
        next p hp =>
          split at h
          next hlt =>
            rw [Bool.and_eq_true] at h
            exact .listed (ih p hlt h.2) hp (lists_iff.mp h.1)
          next => cases h
  · intro h
    induction h with
    | refl => rw [reaches, if_pos rfl]
    | @listed p k _ hparent hlists ih =>
      have hlt := hf.parent_lt hparent
      rw [reaches]
      split
      · rfl
      · rw [hparent]
        simp [hlt, ih, lists_iff.mpr hlists]

/-- A node of a refreshed forest is the node itself, or what it is without its listing. -/
theorem node?_refresh (f : Forest) (folder k : NodeId) :
    (f.refresh folder).node? k =
      (f.node? k).map fun n => if f.reaches folder k then n.forget else n := by
  rw [node?, refresh, Array.getElem?_mapIdx]
  rfl

/-- Forgetting its listing, a node stays what and where it is. -/
theorem forget_eq (n : Node) :
    n.forget.path = n.path ∧ n.forget.parent = n.parent ∧ n.forget.isFolder = n.isFolder ∧
      ∀ j ∈ n.forget.parked, j ∈ n.parked ∨ ∃ held, n.listing = some held ∧ j ∈ held := by
  rw [Node.forget]
  split
  next => exact ⟨rfl, rfl, rfl, fun j => .inl⟩
  next held h => exact ⟨rfl, rfl, rfl, fun j hj => .inr ⟨held, h, hj⟩⟩

/-- What a node of a refreshed forest was before. -/
theorem exists_node_of_refresh (h : (f.refresh folder).node? k = some n) :
    ∃ m, f.node? k = some m ∧ n.path = m.path ∧ n.parent = m.parent ∧ n.isFolder = m.isFolder ∧
      (n.listing = none ∨ n.listing = m.listing ∧ f.reaches folder k = false) ∧
      ∀ j ∈ n.parked, j ∈ m.parked ∨ ∃ held, m.listing = some held ∧ j ∈ held := by
  rw [node?_refresh] at h
  obtain ⟨m, hm, rfl⟩ := Option.map_eq_some_iff.mp h
  refine ⟨m, hm, ?_⟩
  cases hreaches : f.reaches folder k with
  | true =>
    obtain ⟨hpath, hparent, hfolder, hparked⟩ := forget_eq m
    exact ⟨hpath, hparent, hfolder, .inl m.listing_forget, hparked⟩
  | false => exact ⟨rfl, rfl, rfl, .inr ⟨rfl, rfl⟩, fun j => .inl⟩

/-- Nodes keep their parents when listings are forgotten. -/
theorem parent?_refresh (f : Forest) (folder k : NodeId) :
    (f.refresh folder).parent? k = f.parent? k := by
  rw [parent?, parent?, node?_refresh]
  cases f.node? k with
  | none => rfl
  | some m =>
    rw [Option.map_some, Option.bind_some, Option.bind_some]
    split
    · exact (forget_eq m).2.1
    · rfl

/-- Nodes stay at their places when listings are forgotten. -/
theorem place_refresh (f : Forest) (folder k : NodeId) :
    (f.refresh folder).place k = f.place k := by
  rw [place, place, path, path, isFolder, isFolder, node?_refresh]
  cases f.node? k with
  | none => rfl
  | some m =>
    obtain ⟨hpath, -, hfolder, -⟩ := forget_eq m
    by_cases h : f.reaches folder k = true
    · simp [h, hpath, hfolder]
    · simp [h]

/-- The roots stay roots when listings are forgotten. -/
theorem isRoot_refresh : (f.refresh folder).IsRoot k ↔ f.IsRoot k := by
  constructor
  · rintro ⟨n, hn, hp⟩
    obtain ⟨m, hm, -, hparent, -⟩ := exists_node_of_refresh hn
    exact ⟨m, hm, hparent.symm.trans hp⟩
  · rintro ⟨m, hm, hp⟩
    refine ⟨_, by rw [node?_refresh, hm, Option.map_some], ?_⟩
    split
    · exact (forget_eq m).2.1.trans hp
    · exact hp

/-- Forgetting the listings below a folder breaks no way to a node that does not pass the folder. -/
theorem Tidy.reached_refresh (hf : f.Tidy) (hk : f.Reached r k) (hnot : ¬f.Reached folder k) :
    (f.refresh folder).Reached r k := by
  induction hk with
  | refl => exact .refl
  | @listed p k _ hparent hlists ih =>
    have hp : ¬f.Reached folder p := fun h => hnot (.listed h hparent hlists)
    obtain ⟨n, held, hn, hheld, hmem⟩ := hlists
    have hkept : f.reaches folder p = false := by
      rw [Bool.eq_false_iff]
      exact fun h => hp (hf.found.reaches_iff.mp h)
    refine .listed (ih hp) ((parent?_refresh ..).trans hparent) ⟨n, held, ?_, hheld, hmem⟩
    rw [node?_refresh, hn, Option.map_some, hkept]
    rfl

/-- Forgetting listings makes no way to a node. -/
theorem Reached.of_refresh (h : (f.refresh folder).Reached r k) : f.Reached r k := by
  induction h with
  | refl => exact .refl
  | listed _ hparent hlists ih =>
    obtain ⟨n, held, hn, hheld, hmem⟩ := hlists
    obtain ⟨m, hm, -, -, -, hkept, -⟩ := exists_node_of_refresh hn
    obtain ⟨hsame, -⟩ := hkept.resolve_left (by simp [hheld])
    exact .listed ih ((parent?_refresh ..).symm.trans hparent)
      ⟨m, held, hm, hsame.symm.trans hheld, hmem⟩

/-- A node that still has its listing was not reached. -/
theorem Tidy.not_reached_of_refresh (hf : f.Tidy) (h : (f.refresh folder).node? k = some n)
    (hlisting : n.listing ≠ none) :
    ¬f.Reached folder k ∧ ∃ m, f.node? k = some m ∧ m.listing = n.listing := by
  obtain ⟨m, hm, -, -, -, hkept, -⟩ := exists_node_of_refresh h
  obtain ⟨hsame, hreaches⟩ := hkept.resolve_left hlisting
  refine ⟨?_, m, hm, hsame.symm⟩
  intro hreached
  rw [hf.found.reaches_iff.mpr hreached] at hreaches
  cases hreaches

/-- Forgetting listings leaves nodes where they were found. -/
theorem Found.refresh (hf : f.Found) (folder : NodeId) : (f.refresh folder).Found where
  parent h hp := by
    obtain ⟨m, hm, hpath, hparent, -⟩ := exists_node_of_refresh h
    obtain ⟨hlt, u, name, hu, hfolder, hname⟩ := hf.parent hm (hparent.symm.trans hp)
    obtain ⟨u', hu', hpath', hfolder'⟩ : ∃ u', (f.refresh folder).node? _ = some u' ∧
        u'.path = u.path ∧ u'.isFolder = u.isFolder := by
      refine ⟨_, by rw [node?_refresh, hu, Option.map_some], ?_⟩
      split
      · exact ⟨(forget_eq u).1, (forget_eq u).2.2.1⟩
      · exact ⟨rfl, rfl⟩
    exact ⟨hlt, u', name, hu', hfolder'.trans hfolder, by rw [hpath, hpath', hname]⟩
  held h hlisting hj := by
    obtain ⟨m, hm, -, -, -, hkept, -⟩ := exists_node_of_refresh h
    obtain ⟨hsame, -⟩ := hkept.resolve_left (by simp [hlisting])
    rw [parent?_refresh]
    exact hf.held hm (hsame.symm.trans hlisting) hj
  parked h hj := by
    obtain ⟨m, hm, -, -, -, -, hparked⟩ := exists_node_of_refresh h
    rw [parent?_refresh]
    rcases hparked _ hj with hj | ⟨held, hheld, hj⟩
    · exact hf.parked hm hj
    · exact hf.held hm hheld hj

/-- Forgetting listings keeps a forest in order. -/
theorem Tidy.refresh (hf : f.Tidy) (folder : NodeId) : (f.refresh folder).Tidy where
  proper h := by
    obtain ⟨m, hm, hpath, -⟩ := exists_node_of_refresh h
    exact hpath ▸ hf.proper hm
  parent := (hf.found.refresh folder).parent
  held := (hf.found.refresh folder).held
  distinct h hlisting := by
    obtain ⟨m, hm, -, -, -, hkept, -⟩ := exists_node_of_refresh h
    obtain ⟨hsame, -⟩ := hkept.resolve_left (by simp [hlisting])
    have hpath : (f.refresh folder).path = f.path :=
      funext fun j => congrArg Place.path (place_refresh f folder j)
    rw [hpath]
    exact hf.distinct hm (hsame.symm.trans hlisting)
  parked := (hf.found.refresh folder).parked
  live h hlisting := by
    obtain ⟨hnot, m, hm, hsame⟩ := hf.not_reached_of_refresh h hlisting
    obtain ⟨r, hr, hreached⟩ := hf.live hm (hsame ▸ hlisting)
    exact ⟨r, isRoot_refresh.mpr hr, hf.reached_refresh hreached hnot⟩

/-- Once the listings below all roots are forgotten, no listing is left. -/
theorem Tidy.listing_eq_none (hf : f.Tidy) {roots : List NodeId}
    (h : ∀ {k n}, f.node? k = some n → n.listing ≠ none → ∃ r ∈ roots, f.Reached r k) :
    ∀ {k n}, (roots.foldl Forest.refresh f).node? k = some n → n.listing = none := by
  induction roots generalizing f with
  | nil =>
    intro k n hn
    by_contra hlisting
    obtain ⟨r, hr, -⟩ := h hn hlisting
    cases hr
  | cons folder rest ih =>
    apply ih (hf.refresh folder)
    intro j n hn hlisting
    obtain ⟨hnot, m, hm, hsame⟩ := hf.not_reached_of_refresh hn hlisting
    obtain ⟨r, hr, hreached⟩ := h hm (hsame ▸ hlisting)
    rcases List.mem_cons.mp hr with rfl | hr
    · exact absurd hreached hnot
    · exact ⟨r, hr, hf.reached_refresh hreached hnot⟩

/-- Forgetting listings one folder after the other keeps a forest in order. -/
theorem Tidy.foldl_refresh (hf : f.Tidy) (folders : List NodeId) :
    (folders.foldl Forest.refresh f).Tidy := by
  induction folders generalizing f with
  | nil => exact hf
  | cons folder rest ih => exact ih (hf.refresh folder)

/-- The roots stay roots when listings are forgotten one folder after the other. -/
theorem isRoot_foldl_refresh (folders : List NodeId) :
    (folders.foldl Forest.refresh f).IsRoot k ↔ f.IsRoot k := by
  induction folders generalizing f with
  | nil => rfl
  | cons folder rest ih => exact ih.trans isRoot_refresh

/-- Nodes stay at their places when listings are forgotten one folder after the other. -/
theorem place_foldl_refresh (folders : List NodeId) :
    (folders.foldl Forest.refresh f).place k = f.place k := by
  induction folders generalizing f with
  | nil => rfl
  | cons folder rest ih => exact ih.trans (place_refresh f folder k)

/-- Where no listing is left, none says anything else than the disk. -/
theorem coherent_of_listing_eq_none {d : Disk}
    (h : ∀ {k n}, f.node? k = some n → n.listing = none) :
    f.Coherent d := by
  intro k n held hn hheld
  rw [h hn] at hheld
  cases hheld

end Refresh

end ModuleHints.Forest
