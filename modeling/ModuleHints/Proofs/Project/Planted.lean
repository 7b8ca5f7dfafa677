import ModuleHints.Project.Basic
import ModuleHints.Proofs.Project.Children
import ModuleHints.Proofs.Project.Reached

/-!
# New roots

A new project has a root of its own, of which nothing is known yet. All other nodes stay what they
are.
-/

namespace ModuleHints.Forest

variable {f : Forest} {home : Path}

theorem node?_empty (k : NodeId) (n : Node) : ({} : Forest).node? k ≠ some n := fun h => by cases h

theorem tidy_empty : ({} : Forest).Tidy := by
  constructor <;> intros <;> exact absurd ‹_› (node?_empty _ _)

theorem coherent_empty (d : Disk) : ({} : Forest).Coherent d :=
  fun k n _ hn => absurd hn (node?_empty k n)

/-- A node of a forest with a new root is the root or was there before. -/
theorem node_cases_of_plant {k : NodeId} {n : Node} (h : (f.plant home).2.node? k = some n) :
    (k = f.nodes.size ∧ n = { path := home, parent := none, isFolder := true }) ∨
      f.node? k = some n := by
  rw [plant, node?_grow] at h
  split at h
  next hk => exact .inl ⟨hk, (Option.some.inj h).symm⟩
  next => exact .inr h

/-- A new root is a root, at the home folder. -/
theorem isRoot_plant (f : Forest) (home : Path) :
    (f.plant home).2.IsRoot (f.plant home).1 ∧
      (f.plant home).2.place (f.plant home).1 = ⟨home, true⟩ := by
  have hnode : (f.plant home).2.node? (f.plant home).1 =
      some { path := home, parent := none, isFolder := true } := node?_grow_self f _
  exact ⟨⟨_, hnode, rfl⟩, place_eq hnode⟩

theorem keeps_plant (f : Forest) (home : Path) : f.Keeps (f.plant home).2 := keeps_grow f _

/-- A new root leaves nodes where they were found. -/
theorem Found.plant (hf : f.Found) (home : Path) : (f.plant home).2.Found where
  parent h hp := by
    rcases node_cases_of_plant h with ⟨-, rfl⟩ | h
    · cases hp
    · obtain ⟨hlt, m, name, hm, hfolder, hpath⟩ := hf.parent h hp
      obtain ⟨m', hm', hpath', -, hfolder', -⟩ := keeps_plant f home _ _ hm
      exact ⟨hlt, m', name, hm', hfolder'.trans hfolder, by rw [hpath', hpath]⟩
  held h hheld hj := by
    rcases node_cases_of_plant h with ⟨-, rfl⟩ | h
    · cases hheld
    · exact (keeps_plant f home).parent? (hf.held h hheld hj)
  parked h hj := by
    rcases node_cases_of_plant h with ⟨-, rfl⟩ | h
    · cases hj
    · exact (keeps_plant f home).parent? (hf.parked h hj)

/-- A new root keeps a forest in order. -/
theorem Tidy.plant (hf : f.Tidy) (hhome : home.Proper) : (f.plant home).2.Tidy where
  proper h := by
    rcases node_cases_of_plant h with ⟨-, rfl⟩ | h
    · exact hhome
    · exact hf.proper h
  parent := (hf.found.plant home).parent
  held := (hf.found.plant home).held
  distinct h hheld := by
    rcases node_cases_of_plant h with ⟨-, rfl⟩ | h
    · cases hheld
    · exact hf.nodup_path (keeps_plant f home) h hheld
  parked := (hf.found.plant home).parked
  live h hlisting := by
    rcases node_cases_of_plant h with ⟨-, rfl⟩ | h
    · exact absurd rfl hlisting
    · exact (keeps_plant f home).live (hf.live h hlisting)

/-- Of a new root nothing is known that the disk could contradict. -/
theorem Coherent.plant {d : Disk} (hc : f.Coherent d) (hf : f.Tidy) (home : Path) :
    (f.plant home).2.Coherent d := by
  intro k n held h hheld
  rcases node_cases_of_plant h with ⟨-, rfl⟩ | h
  · cases hheld
  · rw [(keeps_plant f home).place_eq h, hf.map_place (keeps_plant f home) h hheld]
    exact hc k n held h hheld

/-- A new root leaves what the listings of a tree say. -/
theorem CoherentBelow.plant {d : Disk} {root : NodeId} (hc : f.CoherentBelow d root) (hf : f.Tidy)
    (home : Path) (hr : (f.plant home).2.IsRoot root) :
    (f.plant home).2.CoherentBelow d root := by
  intro k n held hreached h hheld
  have hkeeps := keeps_plant f home
  rcases node_cases_of_plant h with ⟨-, rfl⟩ | h
  · cases hheld
  · obtain ⟨r, hr', hreached'⟩ := hf.live h (by simp [hheld])
    cases (hkeeps.reached hreached').eq_root hreached (hkeeps.isRoot hr') hr
    rw [hkeeps.place_eq h, hf.map_place hkeeps h hheld]
    exact hc k n held hreached' h hheld

/-- A new root is the only new one. -/
theorem isRoot_of_plant {k : NodeId} (h : (f.plant home).2.IsRoot k) :
    k = (f.plant home).1 ∨ f.IsRoot k := by
  obtain ⟨n, hn, hroot⟩ := h
  rcases node_cases_of_plant hn with ⟨hk, -⟩ | hn
  · exact .inl hk
  · exact .inr ⟨n, hn, hroot⟩

end ModuleHints.Forest
