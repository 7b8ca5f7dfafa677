import Mathlib
import ModuleHints.Unicode.Lower

/-!
# Dots, digits and case

A character before the letters has no case, and no other character becomes one in lower case. So a
text has a dot in lower case where it has one, although other characters may become longer, and a
sigma at the end of a word is told by what stands around it. The mark of a hexadecimal number is
told as easily: a zero and one of the two letters x.
-/

namespace ModuleHints.Unicode

/-- A case mapping leaves a code point, or moves it as one of the runs that hold it. -/
theorem shiftCase_cases (ranges : List CaseRange) (n : Nat) :
    shiftCase ranges n = n ∨
      ∃ r ∈ ranges, r.lo ≤ n ∧ n ≤ r.hi ∧ shiftCase ranges n = (n + r.shift).toNat := by
  induction ranges with
  | nil => exact .inl rfl
  | cons r rest ih =>
    rw [shiftCase]
    split
    · exact .inl rfl
    next hlo =>
      split
      next hhi =>
        split
        · exact .inr ⟨r, List.mem_cons_self .., Nat.le_of_not_lt hlo, hhi, rfl⟩
        · exact .inl rfl
      next =>
        rcases ih with hleft | ⟨r', hr', hmoved⟩
        · exact .inl hleft
        · exact .inr ⟨r', List.mem_cons_of_mem _ hr', hmoved⟩

/-- Nothing but itself becomes a code point before the letters in lower case. -/
theorem shiftCase_eq_iff_of_lt {m n : Nat} (h : m < 0x41) :
    shiftCase lowerRanges n = m ↔ n = m := by
  have hbehind : ∀ r ∈ lowerRanges, 0x41 ≤ r.lo ∧ 0x41 ≤ (r.lo : Int) + r.shift := by
    decide +kernel
  rcases shiftCase_cases lowerRanges n with hleft | ⟨r, hr, hlo, -, hmoved⟩
  · rw [hleft]
  · have hr := hbehind r hr
    rw [hmoved]
    omega

/-- Only the two letters x become the small one in lower case. -/
theorem shiftCase_eq_x_iff {n : Nat} : shiftCase lowerRanges n = 0x78 ↔ n = 0x78 ∨ n = 0x58 := by
  have hapart : ∀ r ∈ lowerRanges, r.lo = 0x41 ∧ r.hi = 0x5A ∧ r.shift = 32 ∨
      0x78 < r.lo ∧ ((r.hi : Int) + r.shift < 0x78 ∨ 0x78 < (r.lo : Int) + r.shift) := by
    decide +kernel
  constructor
  · intro h
    rcases shiftCase_cases lowerRanges n with hleft | ⟨r, hr, hlo, hhi, hmoved⟩
    · exact .inl (hleft ▸ h)
    · have hr := hapart r hr
      rw [hmoved] at h
      omega
  · rintro (rfl | rfl) <;> decide

/-- The character of a code point, where that is not the null character. -/
theorem ofNat_eq_iff {n : Nat} {c : Char} (hc : 0 < c.toNat) : Char.ofNat n = c ↔ n = c.toNat := by
  constructor
  · rintro rfl
    rw [Char.ofNat] at hc ⊢
    split at hc
    next hvalid =>
      rw [dif_pos hvalid]
      rfl
    next => cases hc
  · rintro rfl
    exact Char.ofNat_toNat c

/-- In lower case a character becomes another one, but for the capital I with a dot above. -/
theorem caseForm_cases (c : Char) :
    caseForm lowerRanges lowerSpecial c = [Char.ofNat (shiftCase lowerRanges c.toNat)] ∨
      c.toNat = 0x130 ∧ caseForm lowerRanges lowerSpecial c = ['i', Char.ofNat 0x307] := by
  rw [caseForm, lowerSpecial, List.lookup_cons]
  by_cases h : c.toNat = 0x130
  · exact .inr ⟨h, by rw [h]; rfl⟩
  · exact .inl (by rw [beq_eq_false_iff_ne.mpr h]; rfl)

theorem caseForm_ne_nil (c : Char) : caseForm lowerRanges lowerSpecial c ≠ [] := by
  rcases caseForm_cases c with hform | ⟨-, hform⟩ <;> rw [hform] <;> exact List.cons_ne_nil _ _

/-- A character before the letters stays one, and nothing else becomes anything with it. -/
theorem mem_caseForm_iff_of_lt {c m : Char} (hpos : 0 < m.toNat) (hm : m.toNat < 0x41) :
    m ∈ caseForm lowerRanges lowerSpecial c ↔ c = m := by
  rcases caseForm_cases c with hform | ⟨hc, hform⟩
  · rw [hform, List.mem_singleton, eq_comm, ofNat_eq_iff hpos, shiftCase_eq_iff_of_lt hm,
      Char.toNat_inj]
  · rw [hform]
    refine iff_of_false ?_ ?_
    · rw [List.mem_pair]
      rintro (rfl | rfl) <;> exact absurd hm (by decide)
    · rintro rfl
      omega

/-- What a character becomes in lower case, between the texts around it. -/
def lowerForm (before : List Char) (c : Char) (rest : List Char) : List Char :=
  if c = 'Σ' then [if meetsCased before && !meetsCased rest then 'ς' else 'σ']
  else caseForm lowerRanges lowerSpecial c

theorem lowerForm_ne_nil (before : List Char) (c : Char) (rest : List Char) :
    lowerForm before c rest ≠ [] := by
  rw [lowerForm]
  split
  · exact List.cons_ne_nil _ _
  · exact caseForm_ne_nil c

/-- A character before the letters stands for itself only. -/
theorem mem_lowerForm_iff_of_lt {before rest : List Char} {c m : Char} (hpos : 0 < m.toNat)
    (hm : m.toNat < 0x41) : m ∈ lowerForm before c rest ↔ c = m := by
  rw [lowerForm]
  split
  next hc =>
    have hsigma : ∀ b, m ≠ if b = true then 'ς' else 'σ' := by
      rintro (- | -) rfl <;> exact absurd hm (by decide)
    rw [List.mem_singleton]
    refine iff_of_false (hsigma _) ?_
    rintro rfl
    rw [hc] at hm
    exact absurd hm (by decide)
  next => exact mem_caseForm_iff_of_lt hpos hm

theorem lowerAfter_cons (before : List Char) (c : Char) (rest : List Char) :
    lowerAfter before (c :: rest) = lowerForm before c rest ++ lowerAfter (c :: before) rest := rfl

variable {before cs : List Char}

/-- Only an empty text is empty in lower case. -/
theorem lowerAfter_eq_nil_iff : lowerAfter before cs = [] ↔ cs = [] := by
  cases cs with
  | nil => exact iff_of_true rfl rfl
  | cons c rest =>
    rw [lowerAfter_cons, List.append_eq_nil_iff]
    exact iff_of_false (fun h => lowerForm_ne_nil before c rest h.1) (List.cons_ne_nil c rest)

/-- A text has a dot in lower case where it has one. -/
theorem dot_mem_lowerAfter_iff : '.' ∈ lowerAfter before cs ↔ '.' ∈ cs := by
  induction cs generalizing before with
  | nil => exact Iff.rfl
  | cons c rest ih =>
    rw [lowerAfter_cons, List.mem_append, mem_lowerForm_iff_of_lt (by decide) (by decide), ih,
      List.mem_cons, eq_comm]

/-- A dot at the beginning stays there. -/
theorem lowerAfter_dot (before rest : List Char) :
    lowerAfter before ('.' :: rest) = '.' :: lowerAfter ('.' :: before) rest := by
  have hform : lowerForm before '.' rest = ['.'] := by
    rw [lowerForm, if_neg (by decide)]
    decide
  rw [lowerAfter_cons, hform]
  rfl

/-- A text begins with a dot where it does so in lower case. -/
theorem exists_eq_dot_cons {more : List Char} (h : lowerAfter before cs = '.' :: more) :
    ∃ rest, cs = '.' :: rest ∧ lowerAfter ('.' :: before) rest = more := by
  cases cs with
  | nil => cases h
  | cons c rest =>
    obtain ⟨d, form, hform⟩ := List.exists_cons_of_ne_nil (lowerForm_ne_nil before c rest)
    have hcons := h
    rw [lowerAfter_cons, hform] at hcons
    obtain ⟨rfl, -⟩ := List.cons.inj hcons
    obtain rfl : c = '.' :=
      (mem_lowerForm_iff_of_lt (by decide) (by decide)).mp (hform ▸ List.mem_cons_self ..)
    rw [lowerAfter_dot] at h
    exact ⟨rest, rfl, (List.cons.inj h).2⟩

/-- Only the two letters x stand for the small one alone. -/
theorem lowerForm_eq_x_iff {before rest : List Char} {c : Char} :
    lowerForm before c rest = ['x'] ↔ c = 'x' ∨ c = 'X' := by
  constructor
  · intro h
    rw [lowerForm] at h
    split at h
    · have hsigma : ∀ b, [if b = true then 'ς' else 'σ'] ≠ ['x'] := by decide
      exact absurd h (hsigma _)
    · rcases caseForm_cases c with hform | ⟨-, hform⟩
      · rw [hform, List.singleton_inj, ofNat_eq_iff (by decide)] at h
        rcases shiftCase_eq_x_iff.mp h with h | h
        · exact .inl (Char.toNat_inj.mp h)
        · exact .inr (Char.toNat_inj.mp h)
      · rw [hform] at h
        cases h
  · rintro (rfl | rfl) <;> rw [lowerForm, if_neg (by decide)] <;> decide

/-- Two characters open a hexadecimal number in lower case where they are a zero and an x. -/
theorem lowerCase_eq_hexadecimal_iff {c d : Char} :
    lowerCase (String.ofList [c, d]) = "0x" ↔ c = '0' ∧ (d = 'x' ∨ d = 'X') := by
  have hzero (rest : List Char) : lowerForm [] '0' rest = ['0'] := by
    rw [lowerForm, if_neg (by decide)]
    decide
  have hlower : lowerCase (String.ofList [c, d]) = "0x" ↔
      lowerForm [] c [d] ++ (lowerForm [c] d [] ++ []) = ['0', 'x'] := by
    rw [lowerCase, String.toList_ofList, ← String.toList_inj, String.toList_ofList,
      lowerAfter_cons, lowerAfter_cons]
    exact Iff.rfl
  rw [hlower, List.append_nil]
  constructor
  · intro h
    obtain ⟨e, form, hform⟩ := List.exists_cons_of_ne_nil (lowerForm_ne_nil [] c [d])
    have hcons := h
    rw [hform] at hcons
    obtain ⟨rfl, -⟩ := List.cons.inj hcons
    obtain rfl : c = '0' :=
      (mem_lowerForm_iff_of_lt (by decide) (by decide)).mp (hform ▸ List.mem_cons_self ..)
    rw [hzero] at h
    exact ⟨rfl, lowerForm_eq_x_iff.mp (List.cons.inj h).2⟩
  · rintro ⟨rfl, hd⟩
    rw [hzero, lowerForm_eq_x_iff.mpr hd]
    rfl

end ModuleHints.Unicode
