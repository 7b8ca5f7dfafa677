import Mathlib.Data.List.Infix
import ModuleHints.Source.Lexer

/-!
# The longest operator

The table of operators is closed under cutting an operator short, and no operator begins one that
stands after it. So the first operator of the table that a text begins with is the longest one, and
a text that is cut inside it begins with what is left of it.
-/

namespace ModuleHints.Lexer

/-- No operator begins an operator that stands after it in the table. -/
theorem operators_pairwise : operators.Pairwise fun a b => ¬a.toList <+: b.toList := by
  decide +kernel

/-- What is left of an operator that is cut short is an operator. -/
theorem take_mem_operators :
    ∀ op ∈ operators, ∀ n < op.length, n ≠ 0 → String.ofList (op.toList.take n) ∈ operators := by
  decide +kernel

theorem length_pos_of_mem_operators : ∀ op ∈ operators, 0 < op.length := by decide

/-- In a table where nothing begins a later entry, the first entry that begins a text is the longest
one that does. -/
private theorem find?_eq_some_of_longest {table : List String} {cs : List Char} {op : String}
    (hp : table.Pairwise fun a b => ¬a.toList <+: b.toList) (hm : op ∈ table)
    (hop : op.toList <+: cs)
    (hl : ∀ other ∈ table, other.toList <+: cs → other.length ≤ op.length) :
    table.find? (fun other => other.toList.isPrefixOf cs) = some op := by
  induction table with
  | nil => cases hm
  | cons first rest ih =>
    obtain ⟨hfirst, hrest⟩ := List.pairwise_cons.mp hp
    rcases List.mem_cons.mp hm with rfl | hm
    · exact List.find?_cons_of_pos (List.isPrefixOf_iff_prefix.mpr hop)
    · have hno : ¬first.toList <+: cs := by
        intro hf
        have hle := hl first (List.mem_cons_self ..) hf
        exact hfirst op hm (List.prefix_of_prefix_length_le hf hop hle)
      rw [List.find?_cons_of_neg (by simpa [List.isPrefixOf_iff_prefix] using hno)]
      exact ih hrest hm fun other ho => hl other (List.mem_cons_of_mem _ ho)

/-- An operator stands at the beginning of a text exactly where it is the longest that does. -/
theorem operatorAt?_eq_some_iff {cs : List Char} {op : String} :
    operatorAt? cs = some op ↔ op ∈ operators ∧ op.toList <+: cs ∧
      ∀ other ∈ operators, other.toList <+: cs → other.length ≤ op.length := by
  constructor
  · intro h
    have hfound := List.find?_some h
    have hop : op.toList <+: cs := List.isPrefixOf_iff_prefix.mp hfound
    refine ⟨List.mem_of_find?_eq_some h, hop, ?_⟩
    intro other ho hpre
    by_contra hlt
    have hlong : op.toList <+: other.toList :=
      List.prefix_of_prefix_length_le hop hpre (Nat.le_of_lt (Nat.lt_of_not_le hlt))
    obtain ⟨-, before, after, hsplit, hbefore⟩ := List.find?_eq_some_iff_append.mp h
    have hp := operators_pairwise
    rw [hsplit] at ho hp
    rcases List.mem_append.mp ho with ho | ho
    · have hnot : other.toList.isPrefixOf cs = false := by simpa using hbefore other ho
      rw [List.isPrefixOf_iff_prefix.mpr hpre] at hnot
      cases hnot
    · rcases List.mem_cons.mp ho with rfl | ho
      · exact hlt le_rfl
      · exact (List.pairwise_cons.mp (List.pairwise_append.mp hp).2.1).1 other ho hlong
  · rintro ⟨hm, hop, hl⟩
    exact find?_eq_some_of_longest operators_pairwise hm hop hl

theorem operatorAt?_eq_none_iff {cs : List Char} :
    operatorAt? cs = none ↔ ∀ op ∈ operators, ¬op.toList <+: cs := by
  simp [operatorAt?, List.find?_eq_none, List.isPrefixOf_iff_prefix]

/-- The operator at the beginning of a text is made of its first characters. -/
theorem cons_take_of_operatorAt? {c : Char} {rest : List Char} {op : String}
    (h : operatorAt? (c :: rest) = some op) : c :: rest.take (op.length - 1) = op.toList := by
  obtain ⟨hmem, hpre, -⟩ := operatorAt?_eq_some_iff.mp h
  have hpos := length_pos_of_mem_operators op hmem
  rw [← List.take_succ_cons, Nat.sub_add_cancel hpos, ← String.length_toList]
  exact (List.prefix_iff_eq_take.mp hpre).symm

theorem operatorAt?_take_of_le {cs : List Char} {op : String} {n : Nat}
    (h : operatorAt? cs = some op) (hn : op.length ≤ n) : operatorAt? (cs.take n) = some op := by
  obtain ⟨hm, hop, hl⟩ := operatorAt?_eq_some_iff.mp h
  refine operatorAt?_eq_some_iff.mpr ⟨hm, ?_, ?_⟩
  · exact List.prefix_take_iff.mpr ⟨hop, hn⟩
  · intro other ho hpre
    exact hl other ho (hpre.trans (List.take_prefix ..))

/-- A text that is cut inside its operator begins with what is left of it. -/
theorem operatorAt?_take_of_lt {cs : List Char} {op : String} {n : Nat}
    (h : operatorAt? cs = some op) (hn : n < op.length) (hpos : n ≠ 0) :
    operatorAt? (cs.take n) = some (String.ofList (op.toList.take n)) := by
  obtain ⟨hm, hop, -⟩ := operatorAt?_eq_some_iff.mp h
  have hlen : (op.toList.take n).length = n := by
    rw [List.length_take, String.length_toList]
    omega
  refine operatorAt?_eq_some_iff.mpr ⟨take_mem_operators op hm n hn hpos, ?_, ?_⟩
  · rw [String.toList_ofList]
    exact List.prefix_take_iff.mpr ⟨(List.take_prefix ..).trans hop, hlen.le⟩
  · intro other _ hpre
    rw [String.length_ofList, hlen]
    have hle := hpre.length_le
    rw [String.length_toList, List.length_take] at hle
    omega

/-- A text that begins with no operator begins with none when it is cut. -/
theorem operatorAt?_take_eq_none {cs : List Char} (h : operatorAt? cs = none) (n : Nat) :
    operatorAt? (cs.take n) = none :=
  operatorAt?_eq_none_iff.mpr fun op ho hpre =>
    operatorAt?_eq_none_iff.mp h op ho (hpre.trans (List.take_prefix ..))

/-- Whether any operator stands at the beginning of a text shows in its first character. -/
theorem operatorAt?_eq_none_of_head {c : Char} {rest : List Char}
    (h : operatorAt? (c :: rest) = none) (rest' : List Char) : operatorAt? (c :: rest') = none := by
  have hone : operatorAt? [c] = none := operatorAt?_take_eq_none h 1
  cases hop : operatorAt? (c :: rest') with
  | none => rfl
  | some op =>
    rcases Nat.lt_or_ge 1 op.length with hlt | hle
    · exact absurd (operatorAt?_take_of_lt hop hlt Nat.one_ne_zero) (by simp [hone])
    · exact absurd (operatorAt?_take_of_le hop hle) (by simp [hone])

end ModuleHints.Lexer
