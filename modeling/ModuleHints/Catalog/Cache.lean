import ModuleHints.Project.Forest
import ModuleHints.Catalog.Candidate

/-!
# Remembered candidates

A cache remembers the candidates of files until they are invalidated. Invalidating also forgets the
listings of the trees concerned, so that the next walk sees the disk as it then is.
-/

namespace ModuleHints

/-- Candidates of files, each file at most once. -/
structure Cache where
  /-- The remembered files with their candidates. -/
  entries : List (NodeId × List Candidate) := []
  deriving DecidableEq, Repr

/-- What requests leave behind for later ones. -/
structure Memory where
  /-- All trees with their listings. -/
  forest : Forest := {}
  /-- The remembered candidates. -/
  cache : Cache := {}
  deriving Repr

namespace Cache

/-- Number of remembered files. -/
def size (c : Cache) : Nat := c.entries.length

/-- The remembered candidates of a file. -/
def get? (c : Cache) (k : NodeId) : Option (List Candidate) := c.entries.lookup k

/-- The cache without a file. -/
def erase (c : Cache) (k : NodeId) : Cache := ⟨c.entries.filter fun e => e.1 ≠ k⟩

/-- The cache that remembers these candidates of a file. -/
def store (c : Cache) (k : NodeId) (found : List Candidate) : Cache :=
  ⟨(c.erase k).entries ++ [(k, found)]⟩

theorem get?_erase_self (c : Cache) (k : NodeId) : (c.erase k).get? k = none := by
  rw [get?, List.lookup_eq_none_iff]
  intro e he
  have hk : e.1 ≠ k := by simpa [erase] using (List.mem_filter.mp he).2
  simpa using Ne.symm hk

/-- Dropping a file leaves the others. -/
theorem get?_erase_of_ne (c : Cache) {j k : NodeId} (h : j ≠ k) : (c.erase k).get? j = c.get? j := by
  obtain ⟨entries⟩ := c
  simp only [erase, get?]
  induction entries with
  | nil => rfl
  | cons e rest ih =>
    by_cases he : e.1 = k
    · have hj : (j == e.1) = false := by simpa [he] using h
      rw [List.filter_cons_of_neg (by simpa using he), ih, List.lookup_cons, hj]
    · rw [List.filter_cons_of_pos (by simpa using he), List.lookup_cons, List.lookup_cons, ih]

theorem get?_store_self (c : Cache) (k : NodeId) (found : List Candidate) :
    (c.store k found).get? k = some found := by
  have h := get?_erase_self c k
  rw [get?] at h
  rw [get?, store, List.lookup_append, h]
  simp

/-- Storing for a file leaves the others. -/
theorem get?_store_of_ne (c : Cache) {j k : NodeId} (h : j ≠ k) (found : List Candidate) :
    (c.store k found).get? j = c.get? j := by
  have he := get?_erase_of_ne c h
  have hj : (j == k) = false := by simpa using h
  rw [get?] at he
  rw [get?, store, List.lookup_append, he, List.lookup_cons, hj, List.lookup_nil, Option.or_none]

end Cache

namespace Memory

/-- Drops what is remembered of a file; listings of its tree are forgotten. -/
def invalidate (m : Memory) (k : NodeId) : Memory :=
  { forest := m.forest.refresh (m.forest.rootOf k), cache := m.cache.erase k }

/-- Drops all that is remembered; listings of the trees of all remembered files are forgotten. -/
def invalidateAll (m : Memory) : Memory :=
  { forest := (m.cache.entries.map fun e => m.forest.rootOf e.1).foldl Forest.refresh m.forest
    cache := {} }

end Memory

end ModuleHints
