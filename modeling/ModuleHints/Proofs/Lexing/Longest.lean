import ModuleHints.Proofs.Lexing.Munch

/-!
# Tokens are as long as they may be

Every word, number and operator takes in as much of the range as its kind admits: no character that
could go on with it stands behind it, and no longer operator stands in its place. So two words never
touch. What can be no operator, not even a shorter one, is an error of one character.
-/

namespace ModuleHints

/-- Words are written in ASCII. -/
theorem toNat_lt_of_isIdentChar {c : Char} (h : isIdentChar c = true) : c.toNat < 128 := by
  rcases isIdentChar_iff.mp h with h | rfl | rfl
  · obtain ⟨lo, hlo⟩ := Option.isSome_iff_exists.mp (Unicode.inRanges_of_ascii h)
    obtain ⟨hi, hrange, -, hle⟩ := Unicode.mem_of_enclosing? hlo
    have hbound : ∀ r ∈ Unicode.asciiRanges, r.2 < 128 := by decide
    exact hle.trans_lt (hbound _ hrange)
  · decide
  · decide

namespace Lexer

open Unicode

section Tokens

variable {source : List Char} {start stop : Nat} {t : Token}

/-- Behind a word of a range stands no character of a word. -/
theorem next_of_word (h : t ∈ tokens source start stop) (hcan : t.canComplete = true) {next : Char}
    (hnext : (source.take stop)[t.stop]? = some next) : isIdentChar next = false := by
  have hstart := (le_start_of_mem h).trans (start_lt_stop_of_mem h).le
  apply next_of_canComplete h hcan
  rw [List.getElem?_drop, Nat.add_sub_cancel' hstart, hnext]

/-- Behind a number of a range stands no letter, digit, point or underscore. -/
theorem next_of_number (h : t ∈ tokens source start stop) (hkind : t.kind = .number) {next : Char}
    (hnext : (source.take stop)[t.stop]? = some next) :
    isAlphanumeric next = false ∧ next ≠ '.' ∧ next ≠ '_' := by
  obtain ⟨regexp, c, rest, n, hshape, hdrop, -, hstop⟩ := exists_shape_of_mem h
  rw [hstop, ← List.getElem?_drop, hdrop, List.getElem?_cons_succ] at hnext
  rw [hkind] at hshape
  cases hshape with
  | number => exact next_numberTail hnext

/-- Punctuation that is an operator is the one that stands in its place. -/
theorem operatorAt?_of_operator (h : t ∈ tokens source start stop) (hkind : t.kind = .operator) :
    operatorAt? ((source.take stop).drop t.start) = some t.text := by
  obtain ⟨regexp, c, rest, n, hshape, hdrop, htext, -⟩ := exists_shape_of_mem h
  rw [hkind] at hshape
  cases hshape with
  | operator op _ hop =>
    rw [cons_take_of_operatorAt? hop] at htext
    rw [hdrop, hop, String.toList_inj.mp htext]

/-- In the place of an error stands no operator, wherever the range ends. -/
theorem operatorAt?_of_error (h : t ∈ tokens source start stop) (hkind : t.kind = .error) :
    t.text.length = 1 ∧ operatorAt? (source.drop t.start) = none := by
  obtain ⟨regexp, c, rest, n, hshape, hdrop, htext, -⟩ := exists_shape_of_mem h
  rw [hkind] at hshape
  cases hshape with
  | error _ hnone =>
    constructor
    · rw [← String.length_toList, htext, List.take_zero, List.length_singleton]
    · obtain ⟨more, hmore⟩ : c :: rest <+: source.drop t.start := by
        rw [← hdrop, List.drop_take]
        exact List.take_prefix ..
      rw [← hmore, List.cons_append]
      exact operatorAt?_eq_none_of_head hnone _

end Tokens

/-- Tokens of a source that is read up to a place are as long as they may be. -/
structure MaximalMunch (source : List Char) (beyond : Nat) (tokens : List Token) : Prop where
  /-- A token is a word exactly if it begins like one. -/
  word_iff : ∀ t ∈ tokens,
    t.canComplete = true ↔ ∃ c ∈ t.text.toList.head?, isIdentStart c = true
  /-- A word is made of characters of words, which are ASCII, and none of them stands behind it. -/
  word : ∀ t ∈ tokens, t.canComplete = true →
    (∀ c ∈ t.text.toList, isIdentChar c = true ∧ c.toNat < 128) ∧
      ∀ next ∈ (source.take beyond)[t.stop]?, isIdentChar next = false
  /-- A token is a reserved word exactly if its text is one. -/
  keyword_iff : ∀ t ∈ tokens, t.kind = .keyword ↔ t.text ∈ keywords
  /-- Behind a number stands no letter, digit, point or underscore. -/
  number : ∀ t ∈ tokens, t.kind = .number → ∀ next ∈ (source.take beyond)[t.stop]?,
    isAlphanumeric next = false ∧ next ≠ '.' ∧ next ≠ '_'
  /-- An operator is one of the table, and no longer one stands in its place. -/
  operator : ∀ t ∈ tokens, t.kind = .operator → t.text ∈ operators ∧
    ∀ op ∈ operators, op.toList <+: (source.take beyond).drop t.start → op.length ≤ t.text.length
  /-- An error is one character, in the place of which no operator stands. -/
  error : ∀ t ∈ tokens, t.kind = .error → t.text.length = 1 ∧
    ∀ op ∈ operators, ¬op.toList <+: source.drop t.start
  /-- Between two words there is a character that belongs to neither. -/
  apart : tokens.Pairwise fun t u =>
    t.canComplete = true → u.canComplete = true → t.stop < u.start

/-- The tokens of a range are as long as they may be in it, and two words never touch. -/
theorem tokenize_maximalMunch (source : List Char) (start : Int) (stop : Option Int) :
    MaximalMunch source (stop.getD source.length).toNat (tokenize source start stop) := by
  rw [tokenize]
  generalize start.toNat = start
  generalize (stop.getD source.length).toNat = stop
  constructor
  case word_iff =>
    intro t ht
    obtain ⟨c, rest, hfirst, hcan⟩ := (isLexeme_of_mem ht).exists_first
    rw [hcan, hfirst]
    simp
  case word =>
    intro t ht hcan
    refine ⟨fun c hc => ?_, fun next hnext => next_of_word ht hcan hnext⟩
    have hword := (isLexeme_of_mem ht).isIdentChar_of_mem hcan hc
    exact ⟨hword, toNat_lt_of_isIdentChar hword⟩
  case keyword_iff => exact fun t ht => (isLexeme_of_mem ht).kind_eq_keyword_iff
  case number => exact fun t ht hkind next hnext => next_of_number ht hkind hnext
  case operator =>
    intro t ht hkind
    obtain ⟨hmem, -, hlongest⟩ := operatorAt?_eq_some_iff.mp (operatorAt?_of_operator ht hkind)
    exact ⟨hmem, hlongest⟩
  case error =>
    intro t ht hkind
    obtain ⟨hlength, hnone⟩ := operatorAt?_of_error ht hkind
    exact ⟨hlength, operatorAt?_eq_none_iff.mp hnone⟩
  case apart => exact pairwise_canComplete ..

/-- An operator that the end of the range cuts short is the longest one that is left. -/
example : tokenize "a>>>=1".toList 0 (some 4) =
    [⟨.identifier, "a", 0⟩, ⟨.operator, ">>>", 1⟩] := by
  cbv

end Lexer

end ModuleHints
