import ModuleHints.Unicode.Fold
import ModuleHints.Proofs.Files.Disk

/-!
# Places on a disk

What a tree of nodes shows of a disk can be said without the tree: a place is a path with its kind,
and the disk lists what it holds. A walk over places asks the disk each time, so it keeps nothing
and can not be out of date.
-/

namespace ModuleHints

/-- A file or folder on a disk. -/
structure Place where
  /-- Where it is. -/
  path : Path
  /-- Whether it is a folder. -/
  isFolder : Bool
  deriving DecidableEq

namespace Place

/-- What a folder holds, sorted by name. A file holds nothing. -/
def children (d : Disk) (p : Place) : Except DiskError (List Place) :=
  if p.isFolder then (d.list p.path).map fun entries => entries.map fun e => ⟨p.path.child e.1, e.2⟩
  else .ok []

/-- The first place in a folder with a name. -/
def child? (d : Disk) (p : Place) (name : String) : Except DiskError (Option Place) := do
  return (← p.children d).find? fun q => Unicode.sameFold q.path.name name

/-- The place that names lead to, one folder after the other. -/
def descend (d : Disk) (p : Place) : List String → Except DiskError (Option Place)
  | [] => return some p
  | name :: rest => do
    match ← p.child? d name with
    | none => return none
    | some q => q.descend d rest

/-- The places that each of a list of places stands for, in order. -/
def collect (pick : Place → Except DiskError (List Place)) :
    List Place → Except DiskError (List Place)
  | [] => return []
  | p :: rest => do
    let first ← pick p
    let others ← collect pick rest
    return first ++ others

/-- What a folder of a well-formed disk holds are things of different names, each of them on the
disk. -/
theorem of_children {d : Disk} (hd : d.WellFormed) {p : Place} (hp : p.path.Proper)
    {ps : List Place} (h : p.children d = .ok ps) :
    (ps.map Place.path).Nodup ∧ ∀ q ∈ ps, ∃ n, q.path = p.path.child n ∧ isFileName n = true ∧
      q.path.names ∈ d.items.map Prod.fst := by
  rw [children] at h
  split at h
  · cases hlist : d.list p.path with
    | error e =>
      rw [hlist] at h
      cases h
    | ok entries =>
      rw [hlist] at h
      cases h
      obtain ⟨hnodup, hmem⟩ := hd.of_list hp hlist
      constructor
      · have hpaths : (entries.map fun e => (⟨p.path.child e.1, e.2⟩ : Place)).map Place.path =
            (entries.map Prod.fst).map p.path.child := by
          simp
        rw [hpaths]
        exact hnodup.map p.path.child_injective
      · intro q hq
        obtain ⟨e, he, rfl⟩ := List.mem_map.mp hq
        have hnames := hmem e he
        exact ⟨e.1, rfl, hd.isFileName _ hnames e.1 (by simp), hnames⟩
  · cases h
    simp

/-- What a folder holds is at proper paths where the folder is. -/
theorem proper_of_children {d : Disk} (hd : d.WellFormed) {p q : Place} (hp : p.path.Proper)
    {ps : List Place} (h : p.children d = .ok ps) (hq : q ∈ ps) : q.path.Proper := by
  obtain ⟨n, hn, hname, -⟩ := (of_children hd hp h).2 q hq
  rw [hn]
  exact hp.child hname

end Place

end ModuleHints
