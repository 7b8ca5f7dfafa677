import ModuleHints.Unicode.Number
import ModuleHints.Unicode.Alphanumeric
import ModuleHints.Unicode.Blank

/-!
# Classes of characters

A search through ranges in ascending order finds exactly the code points that some range holds. So
one class lies in another as soon as each of its ranges lies in a range of the other, which one walk
along both tables shows.
-/

namespace ModuleHints.Unicode

/-- Whether ranges stand in order from a code point on and do not overlap. -/
def ascendingFrom : Nat → List (Nat × Nat) → Bool
  | _, [] => true
  | least, (lo, hi) :: rest => Nat.ble least lo && Nat.ble lo hi && ascendingFrom (hi + 1) rest

/-- What is left of a class when each range of another takes away the ranges that come first and lie
in it. -/
def leftAfter (outer inner : List (Nat × Nat)) : List (Nat × Nat) :=
  outer.foldl (fun left r => left.dropWhile fun s => Nat.ble r.1 s.1 && Nat.ble s.2 r.2) inner

/-- A code point is found in a range that holds it. -/
theorem mem_of_enclosing? {ranges : List (Nat × Nat)} {n lo : Nat}
    (h : enclosing? ranges n = some lo) : ∃ hi, (lo, hi) ∈ ranges ∧ lo ≤ n ∧ n ≤ hi := by
  induction ranges with
  | nil => cases h
  | cons r rest ih =>
    rw [enclosing?] at h
    split at h
    · cases h
    next hlo =>
      split at h
      next hhi =>
        cases h
        exact ⟨r.2, List.mem_cons_self .., Nat.le_of_not_lt hlo, hhi⟩
      next =>
        obtain ⟨hi, hm, hn⟩ := ih h
        exact ⟨hi, List.mem_cons_of_mem _ hm, hn⟩

/-- A code point that lies in one of several ascending ranges is found. -/
theorem inRanges_of_mem {ranges : List (Nat × Nat)} {least : Nat}
    (ha : ascendingFrom least ranges = true) {lo hi n : Nat} (hr : (lo, hi) ∈ ranges) (hlo : lo ≤ n)
    (hhi : n ≤ hi) : least ≤ n ∧ inRanges ranges n = true := by
  unfold inRanges
  induction ranges generalizing least with
  | nil => cases hr
  | cons r rest ih =>
    simp only [ascendingFrom, Bool.and_eq_true, Nat.ble_eq] at ha
    obtain ⟨⟨hleast, hord⟩, hrest⟩ := ha
    rw [enclosing?]
    rcases List.mem_cons.mp hr with rfl | hr
    · rw [if_neg (Nat.not_lt.mpr hlo), if_pos hhi]
      exact ⟨Nat.le_trans hleast hlo, rfl⟩
    · obtain ⟨hn, hfound⟩ := ih hrest hr
      rw [if_neg (by omega), if_neg (by omega)]
      exact ⟨by omega, hfound⟩

/-- A range that is not left lies in a range of the other class. -/
theorem exists_range_of_not_mem_leftAfter {outer inner : List (Nat × Nat)} {s : Nat × Nat}
    (hs : s ∈ inner) (hleft : s ∉ leftAfter outer inner) : ∃ r ∈ outer, r.1 ≤ s.1 ∧ s.2 ≤ r.2 := by
  unfold leftAfter at hleft
  induction outer generalizing inner with
  | nil => exact absurd hs hleft
  | cons r rest ih =>
    rw [List.foldl_cons] at hleft
    rw [← List.takeWhile_append_dropWhile
      (p := fun s => Nat.ble r.1 s.1 && Nat.ble s.2 r.2) (l := inner), List.mem_append] at hs
    rcases hs with hs | hs
    · have hin := List.all_eq_true.mp List.all_takeWhile s hs
      simp only [Bool.and_eq_true, Nat.ble_eq] at hin
      exact ⟨r, List.mem_cons_self .., hin⟩
    · obtain ⟨t, ht, hin⟩ := ih hs hleft
      exact ⟨t, List.mem_cons_of_mem _ ht, hin⟩

/-- A class lies in another where nothing of it is left. -/
theorem inRanges_of_leftAfter {inner outer : List (Nat × Nat)} (ha : ascendingFrom 0 outer = true)
    (hleft : leftAfter outer inner = []) {n : Nat} (h : inRanges inner n = true) :
    inRanges outer n = true := by
  obtain ⟨lo, hlo⟩ := Option.isSome_iff_exists.mp h
  obtain ⟨hi, hr, hle, hge⟩ := mem_of_enclosing? hlo
  have hnone : (lo, hi) ∉ leftAfter outer inner := by
    rw [hleft]
    exact List.not_mem_nil
  obtain ⟨r, hmem, hfirst, hlast⟩ := exists_range_of_not_mem_leftAfter hr hnone
  exact (inRanges_of_mem ha hmem (Nat.le_trans hfirst hle) (Nat.le_trans hge hlast)).2

theorem ascendingFrom_alphanumericRanges : ascendingFrom 0 alphanumericRanges = true := by
  decide +kernel

theorem isAlphanumeric_of_isDigit {c : Char} (h : isDigit c = true) : isAlphanumeric c = true :=
  inRanges_of_leftAfter ascendingFrom_alphanumericRanges (by decide +kernel) h

theorem ascendingFrom_digitRanges : ascendingFrom 0 digitRanges = true := by decide +kernel

/-- The digits of ASCII stand for digits. -/
theorem isDigit_of_ascii {c : Char} (h : c.isDigit = true) : isDigit c = true := by
  rw [Char.isDigit_iff_toNat] at h
  have hrange : (0x30, 0x39) ∈ digitRanges := by decide
  exact (inRanges_of_mem ascendingFrom_digitRanges hrange h.1 h.2).2

/-- Where the letters and digits of ASCII stand. -/
def asciiRanges : List (Nat × Nat) := [(0x30, 0x39), (0x41, 0x5A), (0x61, 0x7A)]

/-- The letters and digits of ASCII stand in their ranges. -/
theorem inRanges_of_ascii {c : Char} (h : c.isAlphanum = true) :
    inRanges asciiRanges c.toNat = true := by
  have hordered : ascendingFrom 0 asciiRanges = true := by decide
  rcases Bool.or_eq_true_iff.mp h with halpha | hdigit
  · rcases Bool.or_eq_true_iff.mp halpha with hupper | hlower
    · obtain ⟨hlo, hhi⟩ := of_decide_eq_true hupper
      have hrange : (0x41, 0x5A) ∈ asciiRanges := by decide
      exact (inRanges_of_mem hordered hrange (UInt32.le_iff_toNat_le.mp hlo)
        (UInt32.le_iff_toNat_le.mp hhi)).2
    · obtain ⟨hlo, hhi⟩ := Bool.and_eq_true_iff.mp hlower
      have hrange : (0x61, 0x7A) ∈ asciiRanges := by decide
      exact (inRanges_of_mem hordered hrange (UInt32.le_iff_toNat_le.mp (of_decide_eq_true hlo))
        (UInt32.le_iff_toNat_le.mp (of_decide_eq_true hhi))).2
  · obtain ⟨hlo, hhi⟩ := Char.isDigit_iff_toNat.mp hdigit
    have hrange : (0x30, 0x39) ∈ asciiRanges := by decide
    exact (inRanges_of_mem hordered hrange hlo hhi).2

theorem isAlphanumeric_of_ascii {c : Char} (h : c.isAlphanum = true) : isAlphanumeric c = true :=
  inRanges_of_leftAfter ascendingFrom_alphanumericRanges (by decide +kernel) (inRanges_of_ascii h)

/-- Nothing lies in two classes whose ranges do not meet. -/
theorem inRanges_eq_false_of_apart {a b : List (Nat × Nat)} {n : Nat}
    (hapart : ∀ r ∈ a, ∀ s ∈ b, r.2 < s.1 ∨ s.2 < r.1) (h : inRanges a n = true) :
    inRanges b n = false := by
  rw [Bool.eq_false_iff]
  intro hb
  obtain ⟨lo, hlo⟩ := Option.isSome_iff_exists.mp h
  obtain ⟨lo', hlo'⟩ := Option.isSome_iff_exists.mp hb
  obtain ⟨hi, hr, hle, hge⟩ := mem_of_enclosing? hlo
  obtain ⟨hi', hs, hle', hge'⟩ := mem_of_enclosing? hlo'
  have hbeside := hapart _ hr _ hs
  omega

theorem isBlank_of_ascii {c : Char} (h : c.isAlphanum = true) : isBlank c = false :=
  inRanges_eq_false_of_apart (by decide) (inRanges_of_ascii h)

end ModuleHints.Unicode
