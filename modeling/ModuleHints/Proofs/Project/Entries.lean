import ModuleHints.Proofs.Project.Places

/-!
# What folders hold

A folder holds what the disk has one name below it, whoever lists it and whether it can be listed at
all. A listing that succeeds has exactly that, in the order of the names.
-/

namespace ModuleHints

/-- A folder holds a place that the disk has one name below it. -/
def Disk.Holds (d : Disk) (folder : Path) (q : Place) : Prop :=
  ∃ name item, (folder.names ++ [name], item) ∈ d.items ∧ q = ⟨folder.child name, item.isFolder⟩

namespace Place

variable {d : Disk} {p q : Place} {ps : List Place}

/-- What a folder of a well-formed disk lists is what it holds, in the order of the names. -/
theorem children_iff (hd : d.WellFormed) (hp : p.path.Proper) (h : p.children d = .ok ps) :
    (∀ q, q ∈ ps ↔ p.isFolder = true ∧ d.Holds p.path q) ∧
      ps.Pairwise fun a b => a.path.name < b.path.name := by
  rw [children] at h
  split at h
  next hfolder =>
    cases hlist : d.list p.path with
    | error e =>
      rw [hlist] at h
      cases h
    | ok entries =>
      rw [hlist] at h
      cases h
      have hmem := Disk.mem_of_list hp hlist
      constructor
      · intro q
        rw [List.mem_map]
        constructor
        · rintro ⟨e, he, rfl⟩
          obtain ⟨item, hitem, hkind⟩ := (hmem e).mp he
          exact ⟨hfolder, e.1, item, hitem, by rw [hkind]⟩
        · rintro ⟨-, name, item, hitem, rfl⟩
          exact ⟨(name, item.isFolder), (hmem _).mpr ⟨item, hitem, rfl⟩, rfl⟩
      · apply List.pairwise_map.mpr
        simpa only [Path.name_child] using hd.pairwise_of_list hp hlist
  next hfile =>
    cases h
    exact ⟨fun q => by simp [hfile], List.Pairwise.nil⟩

end Place

namespace Disk.Holds

variable {d : Disk} {folder : Path} {q : Place}

theorem exists_child (h : d.Holds folder q) : ∃ name, q.path = folder.child name := by
  obtain ⟨name, item, -, rfl⟩ := h
  exact ⟨name, rfl⟩

theorem names_eq (h : d.Holds folder q) : q.path.names = folder.names ++ [q.path.name] := by
  obtain ⟨name, hname⟩ := h.exists_child
  rw [hname, Path.name_child, Path.child]

theorem parent_eq (h : d.Holds folder q) : q.path.parent = folder := by
  obtain ⟨name, hname⟩ := h.exists_child
  rw [hname, Path.parent_child]

/-- What a folder at a proper path holds is at a proper path, and is on the disk. -/
theorem proper (h : d.Holds folder q) (hd : d.WellFormed) (hfolder : folder.Proper) :
    q.path.Proper ∧ q.path.names ∈ d.items.map Prod.fst := by
  obtain ⟨name, item, hitem, rfl⟩ := h
  have hmem := List.mem_map_of_mem (f := Prod.fst) hitem
  exact ⟨hfolder.child (hd.isFileName _ hmem name (by simp)), hmem⟩

/-- A folder holds one thing of each name. -/
theorem eq_of_name_eq (h : d.Holds folder q) (hd : d.WellFormed) {r : Place}
    (hr : d.Holds folder r) (hname : q.path.name = r.path.name) : q = r := by
  obtain ⟨name, item, hitem, rfl⟩ := h
  obtain ⟨name', item', hitem', rfl⟩ := hr
  rw [Path.name_child, Path.name_child] at hname
  subst hname
  cases List.inj_on_of_nodup_map hd.nodup hitem hitem' rfl
  rfl

end Disk.Holds

end ModuleHints
