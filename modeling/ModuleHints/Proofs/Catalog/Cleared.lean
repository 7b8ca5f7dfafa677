import Mathlib
import ModuleHints.Proofs.Catalog.Fresh
import ModuleHints.Proofs.Project.Retained

/-!
# When all is said to be out of date

To say that all files are out of date drops all remembered candidates, and the listings of the trees
of which a file was remembered. These trees are then read anew, and so are those of which nothing
was listed. A tree of which something is listed but no file remembered, as it is after a file was not
found in it, keeps its listings.
-/

namespace ModuleHints

namespace Forest

variable {f : Forest} {root k : NodeId}

/-- A folder is without a listing where it was, or where its listing is forgotten. -/
theorem Found.listing?_foldl_refresh (hf : f.Found) {folders : List NodeId}
    (h : k ∈ folders ∨ f.listing? k = none) :
    (folders.foldl Forest.refresh f).listing? k = none := by
  induction folders generalizing f with
  | nil => exact h.resolve_left List.not_mem_nil
  | cons folder rest ih =>
    apply ih (hf.refresh folder)
    rcases h with hmem | hnone
    · rcases List.mem_cons.mp hmem with rfl | hmem
      · exact .inr (hf.listing?_refresh_eq_none (.inl .refl))
      · exact .inl hmem
    · exact .inr (hf.listing?_refresh_eq_none (.inr hnone))

/-- Nodes under a root stay as they are when the listings below other roots are forgotten. -/
theorem Found.node?_foldl_refresh (hf : f.Found) (hr : f.IsRoot root) {folders : List NodeId}
    (hroots : ∀ j ∈ folders, f.IsRoot j) (hnot : root ∉ folders) (hk : f.Under root k) :
    (folders.foldl Forest.refresh f).node? k = f.node? k := by
  induction folders generalizing f with
  | nil => rfl
  | cons folder rest ih =>
    rw [List.mem_cons, not_or] at hnot
    obtain ⟨hother, hrest⟩ := hnot
    have hkept : (f.refresh folder).node? k = f.node? k := by
      have hreaches : f.reaches folder k = false := by
        rw [Bool.eq_false_iff]
        intro h
        have hfolder := hroots folder (List.mem_cons_self ..)
        exact hother (hk.eq_root (hf.reaches_iff.mp h).under hr hfolder)
      rw [node?_refresh, hreaches]
      cases f.node? k <;> rfl
    rw [List.foldl_cons, ← hkept]
    apply ih (hf.refresh folder) (isRoot_refresh.mpr hr) _ hrest (hk.refresh folder)
    exact fun j hj => isRoot_refresh.mpr (hroots j (List.mem_cons_of_mem _ hj))

end Forest

/-- A file that is remembered is the file of an entry. -/
theorem Cache.mem_map_entries_iff {c : Cache} {k : NodeId} :
    k ∈ c.entries.map Prod.fst ↔ ∃ found, c.get? k = some found := by
  rw [← Option.ne_none_iff_exists', Cache.get?, Ne, List.lookup_eq_none_iff, List.mem_map]
  constructor
  · rintro ⟨e, he, rfl⟩ hnone
    exact absurd (hnone e he) (by simp)
  · intro h
    by_contra hnone
    apply h
    intro e he
    simpa using fun hk : k = e.1 => hnone ⟨e, he, hk.symm⟩

namespace Catalog

/-- Something that happens to a catalog and leaves its disk as it is. -/
def Event.KeepsDisk : Event → Prop
  | .changed _ _ => False
  | _ => True

namespace World

variable {s : Settings} {d : Disk} {here : Path} {w : World} {root : NodeId}

/-- To say that all files are out of date clears a tree: one of its files is remembered, or nothing
of it is listed. -/
def Clears (w : World) (root : NodeId) : Prop :=
  (∃ k found, w.memory.cache.get? k = some found ∧ w.memory.forest.rootOf k = root) ∨
    w.memory.forest.listing? root = none

/-- As long as the disk stays as it is, it stays so however long. -/
theorem disk_run {events : List Event} (h : ∀ e ∈ events, e.KeepsDisk) :
    (w.run s here events).disk = w.disk := by
  induction events generalizing w with
  | nil => rfl
  | cons e rest ih =>
    refine (ih fun e he => h e (List.mem_cons_of_mem _ he)).trans ?_
    have hkeeps := h e (List.mem_cons_self ..)
    cases e with
    | planted home => rfl
    | asked p path =>
      rw [World.step]
      split <;> rfl
    | invalidated k => rfl
    | cleared => rfl
    | changed d hd => exact hkeeps.elim

/-- Once all is said to be out of date, nothing is listed of a tree that is cleared. -/
theorem Clears.listing?_eq_none (h : w.Clears root) (hw : w.Sound) (here : Path) :
    (w.step s here .cleared).memory.forest.listing? root = none := by
  rw [World.step, Memory.invalidateAll]
  apply hw.tidy.found.listing?_foldl_refresh
  apply h.imp_left
  rintro ⟨k, found, hfound, hroot⟩
  obtain ⟨e, he, rfl⟩ := List.mem_map.mp (Cache.mem_map_entries_iff.mpr ⟨found, hfound⟩)
  exact List.mem_map.mpr ⟨e, he, hroot⟩

/-- Any other tree is left as it was. -/
theorem Told.node?_cleared (h : w.Told s d fun _ => False) (hr : w.memory.forest.IsRoot root)
    (hnot : ¬w.Clears root) {k : NodeId} (hk : w.memory.forest.Under root k) :
    (w.step s here .cleared).memory.forest.node? k = w.memory.forest.node? k := by
  rw [World.step, Memory.invalidateAll]
  have hentries : ∀ e ∈ w.memory.cache.entries, ∃ found, w.memory.cache.get? e.1 = some found :=
    fun e he => Cache.mem_map_entries_iff.mp (List.mem_map_of_mem he)
  apply h.sound.tidy.found.node?_foldl_refresh hr _ _ hk
  · intro j hj
    obtain ⟨e, he, rfl⟩ := List.mem_map.mp hj
    obtain ⟨found, hfound⟩ := hentries e he
    obtain ⟨other, hother, hunder, -⟩ := h.memory.cache e.1 found hfound
    rwa [hunder.rootOf_eq h.sound.tidy.found hother]
  · intro hmem
    obtain ⟨e, he, hroot⟩ := List.mem_map.mp hmem
    obtain ⟨found, hfound⟩ := hentries e he
    exact hnot (.inl ⟨e.1, found, hfound, hroot⟩)

/-- Once all is said to be out of date, what is kept of the trees that are cleared says what the
disk does. -/
theorem Sound.told_cleared (h : w.Sound) (hhere : here.Proper) :
    (w.step s here .cleared).Told s w.disk w.Clears := by
  have hsound := h.step (s := s) hhere .cleared
  refine ⟨hsound, .refl _, ⟨hsound.tidy, fun r hclears _ => ?_⟩, fun k found hfound => ?_⟩
  · have hnone := hclears.listing?_eq_none (s := s) h here
    intro k n held hreached hn hheld
    cases hreached.eq_of_listing? hnone
    rw [Forest.listing?_eq hn, hheld] at hnone
    cases hnone
  · cases hfound

/-- Whatever has happened, once all files are said to be out of date the catalog answers like a
fresh one as long as the disk stays as it is, for every project whose tree was cleared by that: one
of its files was remembered, or nothing of it was listed. Every other tree is left as it was. -/
theorem candidates_after_cleared (hhere : here.Proper) (hw : w.Reachable s here)
    {after : List Event} (hafter : ∀ e ∈ after, e.KeepsDisk) :
    let w₁ := w.step s here .cleared
    let w' := w₁.run s here after
    (∀ p ∈ w'.projects, w.Clears p.root → ∀ path,
      (candidates s w'.disk here p path w'.memory).1.outcome =
        (fresh s w'.disk here p.home path).outcome) ∧
    ∀ root, w.memory.forest.IsRoot root → ¬w.Clears root → ∀ k, w.memory.forest.Under root k →
      w₁.memory.forest.node? k = w.memory.forest.node? k := by
  intro w₁ w'
  have htold := hw.told hhere
  have hdisk : w'.disk = w.disk := disk_run hafter
  have heases : ∀ e ∈ after, e.Eases w.disk := by
    intro e he
    have hkeeps := hafter e he
    cases e with
    | changed d hd => exact hkeeps.elim
    | _ => trivial
  have hlater : w'.Told s w.disk w.Clears := (htold.sound.told_cleared hhere).run hhere heases
  rw [← hdisk] at hlater
  exact ⟨fun p hp hclears path => hlater.outcome_eq_fresh hp hclears path,
    fun root hr hnot k => htold.node?_cleared hr hnot⟩

/-- A file is made beside a remembered one, and all files are said to be out of date. -/
theorem candidates_after_cleared_beside :
    let s : Settings := {}
    let here := Path.ofString "/w"
    let hd := Disk.wellFormed_empty.write (p := ⟨.root, ["w", "a.js"]⟩) (by decide) .empty
    let hd' := hd.write (p := ⟨.root, ["w", "b.js"]⟩) (by decide) .empty
    let p : Project := ⟨here, 0⟩
    let w := run s here { disk := _, wellFormed := hd } [.planted "/w", .asked p "a.js",
      .changed _ hd']
    let w' := w.step s here .cleared
    here.Proper ∧ w.Reachable s here ∧ p ∈ w'.projects ∧ w.Clears p.root ∧
      (candidates s w'.disk here p "a.js" w'.memory).1.outcome =
        (fresh s w'.disk here p.home "a.js").outcome := by
  intro s here hd hd' p w w'
  have hhere : here.Proper := by decide
  have hreachable : w.Reachable s here := ⟨_, hd, _, rfl⟩
  have hprojects : w.projects = [p] := by
    simp only [w, here, p, s]
    cbv
  have hcached : w.memory.cache.get? 1 = some [] := by
    simp only [w, here, p, s]
    cbv
  have hroot : w.memory.forest.rootOf 1 = p.root := by
    simp only [w, here, p, s]
    cbv
  have hproject : p ∈ w'.projects := by
    change p ∈ w.projects
    rw [hprojects]
    exact List.mem_singleton_self p
  have hclears : w.Clears p.root := .inl ⟨1, [], hcached, hroot⟩
  have hafter : ∀ e ∈ ([] : List Event), e.KeepsDisk := by simp
  exact ⟨hhere, hreachable, hproject, hclears,
    (candidates_after_cleared hhere hreachable hafter).1 p hproject hclears "a.js"⟩

/-- A file is not found, then it is made, and all files are said to be out of date: the file is not
found again, while a fresh catalog finds it. -/
theorem cleared_keeps_unremembered_tree :
    let s : Settings := {}
    let here := Path.ofString "/w"
    let hd := Disk.wellFormed_empty.write (p := ⟨.root, ["w", "b.js"]⟩) (by decide) .empty
    let hd' := hd.write (p := ⟨.root, ["w", "a.js"]⟩) (by decide) .empty
    let p : Project := ⟨here, 0⟩
    let w := run s here { disk := _, wellFormed := hd } [.planted "/w", .asked p "a.js",
      .changed _ hd', .cleared]
    w.projects = [p] ∧ (candidates s w.disk here p "a.js" w.memory).1.outcome = ([], none) ∧
      (fresh s w.disk here p.home "a.js").outcome =
        ([⟨"./b.js", "b.js (in project)", .project⟩], none) := by
  intro s here hd hd' p w
  refine ⟨?_, ?_, ?_⟩
  · simp only [w, here, p, s]
    cbv
  · simp only [w, here, p, s]
    cbv
  · simp only [w, here, p, s]
    cbv

end World

end Catalog

end ModuleHints
