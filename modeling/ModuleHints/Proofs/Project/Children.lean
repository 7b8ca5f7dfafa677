import Mathlib.Data.List.Find
import Mathlib.Data.List.Forall2
import ModuleHints.Proofs.Project.Reached

/-!
# Listing a folder

Asking for what a folder holds is the only step that changes a tree. A kept listing is given as it
is; else the disk is asked, and parked nodes and new ones take the places of its entries. Either way
the forest stays in order and loses nothing, and where the listings of a tree say what a disk does,
the answer does.
-/

namespace ModuleHints.Forest

variable {f f' : Forest} {k folder : NodeId} {n : Node} {held : List NodeId}

/-- In the tree of a root every listing says what a disk does. -/
def CoherentBelow (d : Disk) (f : Forest) (root : NodeId) : Prop :=
  ∀ k n held, f.Reached root k → f.node? k = some n → n.listing = some held →
    (f.place k).children d = .ok (held.map f.place)

/-- The listings that are left when others are forgotten say what they did. -/
theorem CoherentBelow.refresh {d : Disk} {root : NodeId} (hc : f.CoherentBelow d root)
    (folder : NodeId) : (f.refresh folder).CoherentBelow d root := by
  intro k n held hreached hn hlisting
  obtain ⟨m, hm, -, -, -, hkept, -⟩ := exists_node_of_refresh hn
  obtain ⟨hsame, -⟩ := hkept.resolve_left (by simp [hlisting])
  have hplaces : (f.refresh folder).place = f.place := funext (place_refresh f folder)
  rw [hplaces]
  exact hc k m held hreached.of_refresh hm (hsame.symm.trans hlisting)

theorem lt_size (h : f.node? k = some n) : k < f.nodes.size := by
  obtain ⟨hlt, -⟩ := Array.getElem?_eq_some_iff.mp h
  exact hlt

/-- The nodes of a forest with one more node. -/
theorem node?_grow (f : Forest) (n : Node) (j : NodeId) :
    (f.grow n).2.node? j = if j = f.nodes.size then some n else f.node? j := by
  rw [grow, node?, Array.getElem?_push]
  rfl

theorem keeps_grow (f : Forest) (n : Node) : f.Keeps (f.grow n).2 := by
  intro k m hk
  exact ⟨m, by rw [node?_grow_of_lt n (lt_size hk), hk], rfl, rfl, rfl, fun _ => id⟩

/-- The nodes of a forest in which a folder has been given its listing. -/
theorem node?_keepListing (f : Forest) (folder j : NodeId) (held : List NodeId) :
    (f.keepListing folder held).node? j =
      (f.node? j).map fun n =>
        if folder = j then { n with listing := some held, parked := [] } else n := by
  rw [keepListing, node?, Array.getElem?_modify]
  by_cases h : folder = j
  · simp [h, node?]
  · simp [h, node?]

/-- Nodes keep their parents when a folder is given its listing. -/
theorem parent?_keepListing (f : Forest) (folder j : NodeId) (held : List NodeId) :
    (f.keepListing folder held).parent? j = f.parent? j := by
  rw [parent?, parent?, node?_keepListing]
  cases f.node? j with
  | none => rfl
  | some m => by_cases h : folder = j <;> simp [h]

/-- Nodes stay at their places when a folder is given its listing. -/
theorem place_keepListing (f : Forest) (folder j : NodeId) (held : List NodeId) :
    (f.keepListing folder held).place j = f.place j := by
  rw [place, place, path, path, isFolder, isFolder, node?_keepListing]
  cases f.node? j with
  | none => rfl
  | some m => by_cases h : folder = j <;> simp [h]

/-- The parked nodes of a folder were found in it. -/
def ParkedBelow (f : Forest) : Prop :=
  ∀ k n, f.node? k = some n → ∀ j ∈ n.parked, ∃ m name, f.node? j = some m ∧ m.parent = some k ∧
    m.path = n.path.child name

/-- So it is where nodes were found where they are. -/
theorem Found.parkedBelow (hf : f.Found) : f.ParkedBelow := by
  intro k n hn j hj
  obtain ⟨m, hm, hparent⟩ := exists_node_of_parent? (hf.parked hn hj)
  obtain ⟨-, u, name, hu, -, hpath⟩ := hf.parent hm hparent
  cases Option.some.inj (hu.symm.trans hn)
  exact ⟨m, name, hm, hparent, hpath⟩

/-- The nodes that entries of a folder are given: they were found in the folder, each under the name
of its entry and of its kind, and those that are new have no listings. -/
structure Adopted (f f' : Forest) (folder : NodeId) (path : Path) (entries : List (String × Bool))
    (held : List NodeId) : Prop where
  /-- The nodes of the forest stay as they are. -/
  old : ∀ k n, f.node? k = some n → f'.node? k = some n
  /-- Every other node is a new one, for an entry. -/
  new : ∀ k n, f'.node? k = some n → f.node? k = some n ∨ f.nodes.size ≤ k ∧
    ∃ e ∈ entries, n = { path := path.child e.1, parent := some folder, isFolder := e.2 }
  /-- The nodes of the entries, in their order. -/
  held : List.Forall₂ (fun k e => ∃ n, f'.node? k = some n ∧ n.parent = some folder ∧
    n.path = path.child e.1 ∧ n.isFolder = e.2) held entries

/-- Parked nodes that were found in the folder are taken back for entries that they fit. -/
theorem adopted (f : Forest) (folder : NodeId) (path : Path) (parked : List NodeId)
    (entries : List (String × Bool))
    (hparked : ∀ j ∈ parked, ∃ n name, f.node? j = some n ∧ n.parent = some folder ∧
      n.path = path.child name) :
    Adopted f (adopt folder path parked entries f).2 folder path entries
      (adopt folder path parked entries f).1 := by
  induction entries generalizing f with
  | nil => exact ⟨fun _ _ => id, fun _ _ => .inl, .nil⟩
  | cons e rest ih =>
    rw [adopt]
    cases hfind : parked.find? (f.isEntry e) with
    | some k =>
      have hrest := ih f hparked
      refine ⟨hrest.old, ?_, .cons ?_ hrest.held⟩
      · intro j m hm
        apply (hrest.new j m hm).imp_right
        rintro ⟨hsize, e', he', hm'⟩
        exact ⟨hsize, e', List.mem_cons_of_mem _ he', hm'⟩
      · obtain ⟨n, name, hn, hparent, hpath⟩ := hparked k (List.mem_of_find?_eq_some hfind)
        have hentry := List.find?_some hfind
        rw [isEntry, hn, Option.any_some, Bool.and_eq_true, beq_iff_eq, beq_iff_eq, Node.name,
          hpath, Path.name_child] at hentry
        exact ⟨n, hrest.old k n hn, hparent, by rw [hpath, hentry.1], hentry.2⟩
    | none =>
      set node : Node := { path := path.child e.1, parent := some folder, isFolder := e.2 }
      have hold : ∀ j m, f.node? j = some m → (f.grow node).2.node? j = some m := by
        intro j m hm
        rw [node?_grow_of_lt node (lt_size hm), hm]
      have hrest := ih (f.grow node).2 fun j hj => by
        obtain ⟨m, name, hm, hm'⟩ := hparked j hj
        exact ⟨m, name, hold j m hm, hm'⟩
      refine ⟨fun j m hm => hrest.old j m (hold j m hm), ?_, .cons ?_ hrest.held⟩
      · intro j m hm
        rcases hrest.new j m hm with hm' | ⟨hsize, e', he', hm'⟩
        · rw [node?_grow] at hm'
          split at hm'
          next hj => exact .inr ⟨Nat.le_of_eq hj.symm, e, List.mem_cons_self ..,
            (Option.some.inj hm').symm⟩
          next => exact .inl hm'
        · refine .inr ⟨?_, e', List.mem_cons_of_mem _ he', hm'⟩
          have hgrown : (f.grow node).2.nodes.size = f.nodes.size + 1 := by simp [grow]
          omega
      · exact ⟨node, hrest.old _ node (node?_grow_self f node), rfl, rfl, rfl⟩

/-- A node keeps its name and kind. -/
theorem Keeps.isEntry_eq (h : f.Keeps f') (hk : f.node? k = some n) {e : String × Bool} :
    f'.isEntry e k = f.isEntry e k := by
  obtain ⟨m, hm, hpath, -, hfolder, -⟩ := h k n hk
  rw [isEntry, isEntry, hm, hk, Option.any_some, Option.any_some, Node.name, Node.name, hpath,
    hfolder]

/-- Nodes that are there fit the same entries later. -/
theorem Keeps.find?_isEntry (h : f.Keeps f') {parked : List NodeId} {e : String × Bool}
    (hthere : ∀ j ∈ parked, ∃ n, f.node? j = some n) :
    parked.find? (f'.isEntry e) = parked.find? (f.isEntry e) := by
  apply List.find?_congr
  intro j hj
  obtain ⟨n, hn⟩ := hthere j hj
  exact h.isEntry_eq hn

/-- A parked node is taken back for the entry that it fits. -/
theorem mem_adopt {path : Path} {parked : List NodeId} {entries : List (String × Bool)}
    {e : String × Bool} {j : NodeId} (hthere : ∀ j ∈ parked, ∃ n, f.node? j = some n)
    (he : e ∈ entries) (hfind : parked.find? (f.isEntry e) = some j) :
    j ∈ (adopt folder path parked entries f).1 := by
  induction entries generalizing f with
  | nil => cases he
  | cons first rest ih =>
    rw [adopt]
    cases hfirst : parked.find? (f.isEntry first) with
    | some k =>
      rcases List.mem_cons.mp he with rfl | he
      · cases hfirst.symm.trans hfind
        exact List.mem_cons_self ..
      · exact List.mem_cons_of_mem _ (ih hthere he hfind)
    | none =>
      rcases List.mem_cons.mp he with rfl | he
      · cases hfirst.symm.trans hfind
      · set node : Node := { path := path.child first.1, parent := some folder, isFolder := first.2 }
        have hgrown := keeps_grow f node
        refine List.mem_cons_of_mem _ (ih ?_ he ?_)
        · intro i hi
          obtain ⟨n, hn⟩ := hthere i hi
          obtain ⟨m, hm, -⟩ := hgrown i n hn
          exact ⟨m, hm⟩
        · rwa [hgrown.find?_isEntry hthere]

section Listed

variable {entries : List (String × Bool)}

/-- A forest in which a folder has just been given nodes for its entries. -/
structure Listed (f f' : Forest) (k : NodeId) (n : Node) (entries : List (String × Bool))
    (held : List NodeId) : Prop where
  /-- The folder was there, without a listing. -/
  node : f.node? k = some n
  /-- It is a folder. -/
  isFolder : n.isFolder = true
  /-- It has no listing. -/
  listing : n.listing = none
  /-- Its entries have been given nodes. -/
  adopted : Adopted f f' k n.path entries held

/-- A node after a folder was given its listing is the folder, a node that was there, or a new
one. -/
theorem Listed.node_cases (h : Listed f f' k n entries held) {j : NodeId} {m : Node}
    (hm : (f'.keepListing k held).node? j = some m) :
    (j = k ∧ m = { n with listing := some held, parked := [] }) ∨ f.node? j = some m ∨
      f.nodes.size ≤ j ∧ ∃ e ∈ entries,
        m = { path := n.path.child e.1, parent := some k, isFolder := e.2 } := by
  rw [node?_keepListing] at hm
  obtain ⟨u, hu, rfl⟩ := Option.map_eq_some_iff.mp hm
  split
  next hk =>
    subst hk
    rw [h.adopted.old k n h.node] at hu
    cases hu
    exact .inl ⟨rfl, rfl⟩
  next => exact .inr (h.adopted.new j u hu)

theorem Listed.node?_self (h : Listed f f' k n entries held) :
    (f'.keepListing k held).node? k = some { n with listing := some held, parked := [] } := by
  rw [node?_keepListing, h.adopted.old k n h.node, Option.map_some, if_pos rfl]

/-- Giving a folder its listing loses nothing. -/
theorem Listed.grows (h : Listed f f' k n entries held) : f.Grows (f'.keepListing k held) := by
  constructor
  · intro j m hm
    rw [node?_keepListing, h.adopted.old j m hm]
    by_cases hj : k = j
    · subst hj
      have hsame : m = n := Option.some.inj (hm.symm.trans h.node)
      subst hsame
      refine ⟨_, rfl, ?_⟩
      simp [h.listing]
    · exact ⟨m, by simp [hj], rfl, rfl, rfl, fun _ => id⟩
  · rintro j ⟨m, hm, hroot⟩
    rcases h.node_cases hm with ⟨rfl, rfl⟩ | hm | ⟨-, e, -, rfl⟩
    · exact ⟨n, h.node, hroot⟩
    · exact ⟨m, hm, hroot⟩
    · cases hroot

/-- The nodes of the listing are those of the entries. -/
theorem Listed.map_place (h : Listed f f' k n entries held) :
    held.map (f'.keepListing k held).place = entries.map fun e => ⟨n.path.child e.1, e.2⟩ := by
  have hplaces : List.Forall₂ (fun j e => (f'.keepListing k held).place j = ⟨n.path.child e.1, e.2⟩)
      held entries := by
    apply h.adopted.held.imp
    intro j e hj
    obtain ⟨m, hm, -, hpath, hfolder⟩ := hj
    rw [place_keepListing, place_eq hm, hpath, hfolder]
  have heq := List.forall₂_map_left_iff.mpr (List.forall₂_map_right_iff.mpr hplaces)
  rwa [List.forall₂_eq_eq_eq] at heq

/-- The nodes of the listing were found in the folder. -/
theorem Listed.parent? (h : Listed f f' k n entries held) {j : NodeId} (hj : j ∈ held) :
    (f'.keepListing k held).parent? j = some k := by
  obtain ⟨i, hi, rfl⟩ := List.getElem_of_mem hj
  obtain ⟨m, hm, hparent, -⟩ := h.adopted.held.get hi (h.adopted.held.length_eq ▸ hi)
  rw [parent?_keepListing]
  exact (parent?_eq hm).trans hparent

theorem Listed.lists (h : Listed f f' k n entries held) {j : NodeId} (hj : j ∈ held) :
    (f'.keepListing k held).Lists k j :=
  ⟨_, held, h.node?_self, rfl, hj⟩

/-- Giving a folder its listing leaves nodes where they were found. -/
theorem Listed.found (h : Listed f f' k n entries held) (hf : f.Found) :
    (f'.keepListing k held).Found where
  parent hm hp := by
    rcases h.node_cases hm with ⟨rfl, rfl⟩ | hm | ⟨hsize, e, he, rfl⟩
    · obtain ⟨hlt, u, name, hu, hfolder, hpath⟩ := hf.parent h.node hp
      obtain ⟨u', hu', hpath', -, hfolder', -⟩ := h.grows.keeps _ _ hu
      exact ⟨hlt, u', name, hu', hfolder'.trans hfolder, by rw [hpath', ← hpath]⟩
    · obtain ⟨hlt, u, name, hu, hfolder, hpath⟩ := hf.parent hm hp
      obtain ⟨u', hu', hpath', -, hfolder', -⟩ := h.grows.keeps _ _ hu
      exact ⟨hlt, u', name, hu', hfolder'.trans hfolder, by rw [hpath', hpath]⟩
    · cases hp
      exact ⟨Nat.lt_of_lt_of_le (lt_size h.node) hsize, _, e.1, h.node?_self, h.isFolder, rfl⟩
  held hm hlisting hj := by
    rcases h.node_cases hm with ⟨rfl, rfl⟩ | hm | ⟨-, e, he, rfl⟩
    · cases hlisting
      exact h.parent? hj
    · exact h.grows.keeps.parent? (hf.held hm hlisting hj)
    · cases hlisting
  parked hm hj := by
    rcases h.node_cases hm with ⟨rfl, rfl⟩ | hm | ⟨-, e, he, rfl⟩
    · cases hj
    · exact h.grows.keeps.parent? (hf.parked hm hj)
    · cases hj

/-- Giving a folder to which listings lead its listing keeps a forest in order. -/
theorem Listed.tidy (h : Listed f f' k n entries held) (hf : f.Tidy) (hlive : f.Live k)
    (hnames : ∀ e ∈ entries, isFileName e.1 = true) (hnodup : (entries.map Prod.fst).Nodup) :
    (f'.keepListing k held).Tidy where
  proper hm := by
    rcases h.node_cases hm with ⟨-, rfl⟩ | hm | ⟨-, e, he, rfl⟩
    · have hproper := hf.proper h.node
      exact hproper
    · exact hf.proper hm
    · exact (hf.proper h.node).child (hnames e he)
  parent := (h.found hf.found).parent
  held := (h.found hf.found).held
  distinct := by
    intro j m others hm hlisting
    rcases h.node_cases hm with ⟨rfl, rfl⟩ | hm | ⟨-, e, he, rfl⟩
    · cases hlisting
      have hpaths := congrArg (List.map Place.path) h.map_place
      rw [List.map_map, List.map_map] at hpaths
      change held.map (f'.keepListing _ held).path = entries.map (n.path.child ∘ Prod.fst) at hpaths
      rw [hpaths, ← List.map_map]
      exact hnodup.map n.path.child_injective
    · exact hf.nodup_path h.grows.keeps hm hlisting
    · cases hlisting
  parked := (h.found hf.found).parked
  live hm hlisting := by
    rcases h.node_cases hm with ⟨rfl, rfl⟩ | hm | ⟨-, e, he, rfl⟩
    · exact h.grows.keeps.live hlive
    · exact h.grows.keeps.live (hf.live hm hlisting)
    · exact absurd rfl hlisting

/-- A listing as a disk gives it keeps the listings of a tree as the disk gives them. -/
theorem Listed.coherentBelow (h : Listed f f' k n entries held) (hf : f.Tidy) {d : Disk}
    {root : NodeId} (hr : f.IsRoot root) (hc : f.CoherentBelow d root)
    (hentries : (f.place k).children d = .ok (entries.map fun e => ⟨n.path.child e.1, e.2⟩)) :
    (f'.keepListing k held).CoherentBelow d root := by
  intro j m others hreached hm hlisting
  rcases h.node_cases hm with ⟨rfl, rfl⟩ | hm | ⟨-, e, he, rfl⟩
  · cases hlisting
    rw [h.grows.keeps.place_eq h.node, hentries, h.map_place]
  · obtain ⟨r, hr', hreached'⟩ := hf.live hm (by simp [hlisting])
    cases (h.grows.keeps.reached hreached').eq_root hreached (h.grows.keeps.isRoot hr')
      (h.grows.keeps.isRoot hr)
    rw [h.grows.keeps.place_eq hm, hf.map_place h.grows.keeps hm hlisting]
    exact hc j m others hreached' hm hlisting
  · cases hlisting

end Listed

/-- A folder without a listing has been given what the disk lists. -/
structure Given (d : Disk) (f f' : Forest) (k : NodeId) (n : Node) (entries : List (String × Bool))
    (held : List NodeId) : Prop where
  /-- The entries are those of the disk. -/
  list_eq : d.list n.path = .ok entries
  /-- They have been given nodes, which are listed. -/
  listed : ∃ g, Listed f g k n entries held ∧ f' = g.keepListing k held
  /-- Parked nodes that fit entries are among them. -/
  takes_back : ∀ e ∈ entries, ∀ j, n.parked.find? (f.isEntry e) = some j → j ∈ held

/-- What asking a node for what it holds yields: an answer, and the forest after it. -/
inductive Yields (d : Disk) (f : Forest) (k : NodeId) :
    Except DiskError (List NodeId) → Forest → Prop where
  /-- A file, or a node that is not there, holds nothing. -/
  | file : f.isFolder k = false → Yields d f k (.ok []) f
  /-- A kept listing is given as it is. -/
  | kept {n : Node} {held : List NodeId} : f.node? k = some n → n.isFolder = true →
    n.listing = some held → Yields d f k (.ok held) f
  /-- A folder that can not be listed stays without a listing. -/
  | refused {n : Node} {e : DiskError} : f.node? k = some n → n.isFolder = true →
    n.listing = none → d.list n.path = .error e → Yields d f k (.error e) f
  /-- Any other folder is given a listing. -/
  | given {n : Node} {entries : List (String × Bool)} {held : List NodeId} {f' : Forest} :
    Given d f f' k n entries held → Yields d f k (.ok held) f'

/-- Asking a node for what it holds. -/
theorem ParkedBelow.yields (hf : f.ParkedBelow) (d : Disk) (k : NodeId) :
    Yields d f k (f.children d k).1 (f.children d k).2 := by
  rw [Forest.children]
  cases hn : f.node? k with
  | none => exact .file (by rw [Forest.isFolder, hn, Option.any_none])
  | some n =>
    by_cases hfolder : n.isFolder = true
    · cases hlisting : n.listing with
      | some held =>
        simp only [hfolder, hlisting]
        exact .kept hn hfolder hlisting
      | none =>
        cases hlist : d.list n.path with
        | error e =>
          simp only [hfolder, hlisting, hlist]
          exact .refused hn hfolder hlisting hlist
        | ok entries =>
          have hthere : ∀ j ∈ n.parked, ∃ m, f.node? j = some m := by
            intro j hj
            obtain ⟨m, _, hm, -⟩ := hf k n hn j hj
            exact ⟨m, hm⟩
          have hlisted : Listed f _ k n entries _ :=
            ⟨hn, hfolder, hlisting, adopted f k n.path n.parked entries (hf k n hn)⟩
          simp only [hfolder, hlisting, hlist]
          exact .given ⟨hlist, ⟨_, hlisted, rfl⟩, fun e he j => mem_adopt hthere he⟩
    · simp only [hfolder]
      exact .file (by rw [Forest.isFolder_eq hn, Bool.eq_false_iff.mpr hfolder])

/-- What asking for the children of a node may do. -/
structure AsksFor (f : Forest) (k : NodeId) (out : Except DiskError (List NodeId)) (f' : Forest) :
    Prop where
  /-- Nothing is lost. -/
  grows : f.Grows f'
  /-- The forest stays in order. -/
  tidy : f'.Tidy
  /-- The folder lists the nodes of the answer. -/
  lists : ∀ held, out = .ok held → ∀ j ∈ held, f'.parent? j = some k ∧ f'.Lists k j

/-- Asking for the children of a node to which listings lead. -/
theorem Tidy.children (hf : f.Tidy) {d : Disk} (hd : d.WellFormed) (hlive : f.Live k) :
    AsksFor f k (f.children d k).1 (f.children d k).2 := by
  have hyields := hf.found.parkedBelow.yields d k
  generalize f.children d k = out at hyields ⊢
  obtain ⟨out, f'⟩ := out
  cases hyields with
  | file _ => exact ⟨.refl _, hf, fun held hheld j hj => by cases hheld; cases hj⟩
  | @kept n held hn _ hlisting =>
    refine ⟨.refl _, hf, ?_⟩
    rintro _ ⟨⟩ j hj
    exact ⟨hf.held hn hlisting hj, n, held, hn, hlisting, hj⟩
  | refused _ _ _ _ => exact ⟨.refl _, hf, fun held hheld => by cases hheld⟩
  | @given n entries held _ hgiven =>
    obtain ⟨g, hlisted, rfl⟩ := hgiven.listed
    obtain ⟨hnodup, hmem⟩ := hd.of_list (hf.proper hlisted.node) hgiven.list_eq
    have hnames : ∀ e ∈ entries, isFileName e.1 = true :=
      fun e he => hd.isFileName _ (hmem e he) e.1 (by simp)
    refine ⟨hlisted.grows, hlisted.tidy hf hlive hnames hnodup, ?_⟩
    rintro _ ⟨⟩ j hj
    exact ⟨hlisted.parent? hj, hlisted.lists hj⟩

end ModuleHints.Forest
