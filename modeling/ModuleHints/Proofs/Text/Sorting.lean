import Mathlib.Data.List.Basic
import Mathlib.Data.List.Pairwise
import Mathlib.Data.String.Basic

/-!
# Sorting by texts

Sorting by texts puts the texts in code point order, and where they differ from each other they go up
at every step. A sort that is stable leaves elements that may all follow each other as they were, and
where repetitions are erased of a sorted list every text of it is left once.
-/

namespace ModuleHints

section Sorted

variable {α : Type} {text : α → String} {l : List α}

/-- Sorting by texts puts the texts in order. -/
theorem pairwise_mergeSort_by (text : α → String) (l : List α) :
    (l.mergeSort fun a b => text a ≤ text b).Pairwise fun a b => text a ≤ text b := by
  have hsorted : (l.mergeSort fun a b => text a ≤ text b).Pairwise
      fun a b => decide (text a ≤ text b) = true := by
    apply List.pairwise_mergeSort
    · intro a b c
      simpa using String.le_trans
    · intro a b
      simpa using String.le_total (text a) (text b)
  exact hsorted.imp of_decide_eq_true

/-- Texts that differ from each other go up once they are sorted. -/
theorem pairwise_lt_mergeSort_by (h : (l.map text).Nodup) :
    (l.mergeSort fun a b => text a ≤ text b).Pairwise fun a b => text a < text b := by
  have hperm := List.mergeSort_perm l fun a b => text a ≤ text b
  have hnodup := List.pairwise_map.mp ((hperm.map text).nodup_iff.mpr h)
  exact (pairwise_mergeSort_by text l).imp₂ (fun _ _ hle hne => lt_of_le_of_ne hle hne) hnodup

/-- What a stable sort leaves of elements that may all follow each other is what was there. -/
theorem filter_mergeSort {le : α → α → Bool}
    (htrans : ∀ a b c, le a b = true → le b c = true → le a c = true)
    (htotal : ∀ a b, (le a b || le b a) = true) {p : α → Bool}
    (hp : ∀ a b, p a = true → p b = true → le a b = true) (l : List α) :
    (l.mergeSort le).filter p = l.filter p := by
  have hsorted : (l.filter p).Pairwise fun a b => le a b = true :=
    List.pairwise_of_forall_mem_list fun a ha b hb =>
      hp a b (List.mem_filter.mp ha).2 (List.mem_filter.mp hb).2
  have hkept : (l.filter p).Sublist (l.mergeSort le) :=
    List.sublist_mergeSort htrans htotal hsorted List.filter_sublist
  have hsub : (l.filter p).Sublist ((l.mergeSort le).filter p) := by
    simpa only [List.filter_filter, Bool.and_self] using hkept.filter p
  exact (hsub.eq_of_length ((List.mergeSort_perm l le).filter p).length_eq.symm).symm

end Sorted

section Repetitions

variable {a b x : String} {l : List String}

/-- Erasing repetitions goes on from what has been kept. -/
theorem eraseReps_loop {α : Type} (r : α → α → Bool) (a : α) (l kept : List α) :
    List.eraseRepsBy.loop r a l kept = kept.reverse ++ List.eraseRepsBy r (a :: l) := by
  induction l generalizing a kept with
  | nil => simp [List.eraseRepsBy, List.eraseRepsBy.loop]
  | cons b l ih =>
    simp only [List.eraseRepsBy, List.eraseRepsBy.loop]
    split
    · exact ih a kept
    · rw [ih b (a :: kept), ih b [a]]
      simp

/-- Of two texts that follow each other both are kept only where they differ. -/
theorem eraseReps_cons_cons (a b : String) (l : List String) :
    (a :: b :: l).eraseReps = if a = b then (a :: l).eraseReps else a :: (b :: l).eraseReps := by
  rw [List.eraseReps, List.eraseRepsBy, List.eraseRepsBy.loop]
  split
  next h =>
    rw [if_pos (beq_iff_eq.mp h)]
    rfl
  next h =>
    rw [if_neg (beq_eq_false_iff_ne.mp h), eraseReps_loop]
    rfl

/-- Where repetitions are erased no text is lost, and none is added. -/
theorem mem_eraseReps : x ∈ (a :: l).eraseReps ↔ x ∈ a :: l := by
  induction l generalizing a with
  | nil => rfl
  | cons b l ih =>
    rw [eraseReps_cons_cons]
    split
    next h =>
      rw [ih, ← h]
      simp
    next => rw [List.mem_cons, ih, ← List.mem_cons]

/-- Without its repetitions a sorted list goes up at every step. -/
theorem pairwise_eraseReps (h : (a :: l).Pairwise (· ≤ ·)) :
    (a :: l).eraseReps.Pairwise (· < ·) := by
  induction l generalizing a with
  | nil => exact List.pairwise_singleton ..
  | cons b l ih =>
    obtain ⟨hfirst, hrest⟩ := List.pairwise_cons.mp h
    rw [eraseReps_cons_cons]
    split
    next heq => exact ih (heq ▸ hrest)
    next hne =>
      refine List.pairwise_cons.mpr ⟨fun x hx => ?_, ih hrest⟩
      have hlt : a < b := lt_of_le_of_ne (hfirst b (List.mem_cons_self ..)) hne
      rcases List.mem_cons.mp (mem_eraseReps.mp hx) with rfl | hx
      · exact hlt
      · exact hlt.trans_le ((List.pairwise_cons.mp hrest).1 x hx)

end Repetitions

end ModuleHints
