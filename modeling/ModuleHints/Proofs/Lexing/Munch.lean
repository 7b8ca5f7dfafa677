import ModuleHints.Proofs.Lexing.Tiling
import ModuleHints.Proofs.Lexing.Shapes

/-!
# Where a token ends

A reader goes on as long as it may. So each kind of token ends at the end of the text, before a
character that it cannot have, or with a mark that closes it. In no case does a token part a word:
behind a word stands no character of a word, and a token that ends with a character of a word has no
letter or digit behind it.
-/

namespace ModuleHints

open Unicode

/-- A character of a word is not blank. -/
theorem isBlank_of_isIdentChar {c : Char} (h : isIdentChar c = true) : isBlank c = false := by
  rcases isIdentChar_iff.mp h with h | rfl | rfl
  · exact isBlank_of_ascii h
  · decide +kernel
  · decide +kernel

namespace Lexer

section Readers

variable {c next : Char}

/-- Characters that have a property are read up to one that has not. -/
theorem next_takeWhile {p : Char → Bool} {cs : List Char}
    (h : cs[(cs.takeWhile p).length]? = some next) : p next = false := by
  induction cs with
  | nil => cases h
  | cons c rest ih =>
    rw [List.takeWhile_cons] at h
    split at h
    · exact ih h
    next hc =>
      cases h
      simpa using hc

/-- A number is read up to a character that is no letter, digit, point or underscore. -/
theorem next_numberTail {hexadecimal : Bool} {prev : Char} {cs : List Char}
    (h : cs[numberTail hexadecimal prev cs]? = some next) :
    isAlphanumeric next = false ∧ next ≠ '.' ∧ next ≠ '_' := by
  fun_induction numberTail hexadecimal prev cs with
  | case1 => cases h
  | case2 prev c rest hc ih => exact ih h
  | case3 prev c rest hc hsign ih => exact ih h
  | case4 prev c rest hc =>
    cases h
    simpa [and_assoc] using hc

/-- A string ends before a line feed or with its quotation mark. -/
theorem next_stringTail {quote : Char} {cs : List Char}
    (h : cs[stringTail quote cs]? = some next) :
    next = '\n' ∨ (cs.take (stringTail quote cs)).getLast? = some quote := by
  induction cs using escape_induction with
  | nil => cases h
  | lone => cases h
  | pair c rest ih =>
    rw [stringTail] at h ⊢
    refine (ih h).imp_right fun hlast => ?_
    simp [List.getLast?_cons, hlast]
  | plain c rest hc ih =>
    rw [stringTail_cons _ _ hc] at h ⊢
    split at h
    next hfeed =>
      cases h
      exact .inl hfeed
    next hfeed =>
      rw [if_neg hfeed]
      split at h
      next hquote =>
        rw [if_pos hquote, hquote]
        exact .inr rfl
      next hquote =>
        rw [if_neg hquote]
        refine (ih h).imp_right fun hlast => ?_
        simp [List.getLast?_cons, hlast]

/-- A template ends with its backtick. -/
theorem next_templateTail {cs : List Char} (h : cs[templateTail cs]? = some next) :
    (cs.take (templateTail cs)).getLast? = some '\x60' := by
  induction cs using escape_induction with
  | nil => cases h
  | lone => cases h
  | pair c rest ih =>
    rw [templateTail] at h ⊢
    simp [List.getLast?_cons, ih h]
  | plain c rest hc ih =>
    rw [templateTail_cons _ hc] at h ⊢
    split at h
    next hquote =>
      rw [if_pos hquote, hquote]
      rfl
    next hquote =>
      rw [if_neg hquote]
      simp [List.getLast?_cons, ih h]

/-- A block comment ends with its slash. -/
theorem next_blockTail {cs : List Char} (h : cs[blockTail cs]? = some next) :
    (cs.take (blockTail cs)).getLast? = some '/' := by
  fun_induction blockTail cs with
  | case1 => cases h
  | case2 => rfl
  | case3 c rest _ ih => simp [List.getLast?_cons, ih h]

/-- A regular expression is read up to a character that no word has. -/
theorem next_regexpTail {inClass : Bool} {cs : List Char}
    (h : cs[regexpTail inClass cs]? = some next) : isIdentChar next = false := by
  induction cs using escape_induction generalizing inClass with
  | nil => cases h
  | lone => cases h
  | pair c rest ih =>
    rw [regexpTail] at h
    exact ih h
  | plain c rest hc ih =>
    rw [regexpTail_cons _ _ hc] at h
    split at h
    next hfeed =>
      cases h
      rw [hfeed]
      decide
    next =>
      split at h
      · exact ih h
      · split at h
        · exact ih h
        · split at h
          · exact next_takeWhile h
          · exact ih h

end Readers

/-- No operator ends with a character of a word. -/
theorem getLast?_of_mem_operators :
    ∀ op ∈ operators, op.toList.getLast?.map isIdentChar = some false := by
  decide +kernel

/-- Whether no letter or digit comes after so many characters behind `c`, if these end with a
character of a word. -/
def PartsNoWord (c : Char) (rest : List Char) (n : Nat) : Prop :=
  ∀ next ∈ rest[n]?, next.isAlphanum = true →
    ∀ last ∈ (c :: rest.take n).getLast?, isIdentChar last = false

section Lexemes

variable {regexp : Bool} {c next : Char} {rest : List Char} {n : Nat}

/-- A word is read up to a character that no word has. -/
theorem next_word (hc : isIdentStart c = true)
    (hnext : rest[(lexeme regexp c rest).2]? = some next) : isIdentChar next = false := by
  rw [lexeme, if_pos hc] at hnext
  exact next_takeWhile hnext

/-- No word is parted before a character that no word has. -/
theorem partsNoWord_of_next (h : ∀ next ∈ rest[n]?, isIdentChar next = false) :
    PartsNoWord c rest n := by
  intro next hnext hword
  have hident : isIdentChar next = true := by
    simp [isIdentChar, hword]
  rw [h next hnext] at hident
  cases hident

/-- No word is parted behind a character that no word has. -/
theorem partsNoWord_of_last {mark : Char}
    (h : ∀ next ∈ rest[n]?, (rest.take n).getLast? = some mark)
    (hmark : isIdentChar mark = false) : PartsNoWord c rest n := by
  intro next hnext _ last hlast
  rw [List.getLast?_cons, h next hnext] at hlast
  cases hlast
  exact hmark

/-- A number parts no word. -/
theorem partsNoWord_number (hexadecimal : Bool) (prev c : Char) (rest : List Char) :
    PartsNoWord c rest (numberTail hexadecimal prev rest) := by
  intro next hnext hword
  have hother := (next_numberTail hnext).1
  rw [isAlphanumeric_of_ascii hword] at hother
  cases hother

/-- A string parts no word. -/
theorem partsNoWord_string {quote : Char} (h : isIdentChar quote = false) (c : Char)
    (rest : List Char) : PartsNoWord c rest (stringTail quote rest) := by
  intro next hnext hword last hlast
  rcases next_stringTail hnext with rfl | hclose
  · exact absurd hword (by decide)
  · rw [List.getLast?_cons, hclose] at hlast
    cases hlast
    exact h

/-- An operator parts no word. -/
theorem partsNoWord_operator {op : String} (h : operatorAt? (c :: rest) = some op) :
    PartsNoWord c rest (op.length - 1) := by
  intro next _ _ last hlast
  have hmark := getLast?_of_mem_operators op (operatorAt?_eq_some_iff.mp h).1
  rw [← cons_take_of_operatorAt? h, hlast] at hmark
  exact Option.some.inj hmark

/-- A line comment is read up to a line feed. -/
theorem partsNoWord_lineComment (c : Char) (rest : List Char) :
    PartsNoWord c rest (rest.takeWhile (· != '\n')).length := by
  apply partsNoWord_of_next
  intro next hnext
  have hfeed := next_takeWhile hnext
  rw [bne_eq_false_iff_eq] at hfeed
  rw [hfeed]
  decide

/-- A block comment ends with a slash. -/
theorem partsNoWord_blockComment (c : Char) (more : List Char) :
    PartsNoWord c ('*' :: more) (blockTail more + 1) := by
  have hmark : isIdentChar '/' = false := by decide
  refine partsNoWord_of_last (fun next hnext => ?_) hmark
  simp [List.getLast?_cons, next_blockTail hnext]

/-- No token parts a word. -/
theorem partsNoWord_lexeme (regexp : Bool) (c : Char) (rest : List Char) :
    PartsNoWord c rest (lexeme regexp c rest).2 := by
  have hshape := shape_lexeme regexp rest c
  generalize (lexeme regexp c rest).1 = kind at hshape
  generalize (lexeme regexp c rest).2 = n at hshape ⊢
  cases hshape with
  | keyword => exact partsNoWord_of_next fun next hnext => next_takeWhile hnext
  | identifier => exact partsNoWord_of_next fun next hnext => next_takeWhile hnext
  | number => exact partsNoWord_number _ c c rest
  | string q hquote =>
    refine partsNoWord_string ?_ c rest
    rw [hquote]
    cases q <;> decide
  | template => exact partsNoWord_of_last (fun next hnext => next_templateTail hnext) (by decide)
  | lineComment => exact partsNoWord_lineComment c rest
  | blockComment more _ hrest =>
    rw [hrest]
    exact partsNoWord_blockComment c more
  | regexp => exact partsNoWord_of_next fun next hnext => next_regexpTail hnext
  | operator op _ hop => exact partsNoWord_operator hop
  | error hc =>
    intro next _ _ last hlast
    cases hlast
    exact hc

end Lexemes

section Tokens

variable {last : Option Token} {offset : Nat} {cs : List Char} {t u : Token}

/-- Of two tokens the one that begins first ends before the other begins. -/
theorem stop_le_start_of_mem (ht : t ∈ tokensFrom last offset cs)
    (hu : u ∈ tokensFrom last offset cs) (h : t.start < u.start) : t.stop ≤ u.start := by
  obtain ⟨earlier, later, hsplit⟩ := List.append_of_mem ht
  have hbetween := isBetween_of_split hsplit
  rw [hsplit] at hu
  rcases List.mem_append.mp hu with hu | hu
  · have hbefore := hbetween.earlier_stop_le u hu
    omega
  · rcases List.mem_cons.mp hu with rfl | hu
    · exact absurd h (Nat.lt_irrefl _)
    · exact (hbetween.stop_le_later u hu).1

/-- Behind a word stands no character of a word. -/
theorem next_of_canComplete (h : t ∈ tokensFrom last offset cs) (hcan : t.canComplete = true)
    {next : Char} (hnext : cs[t.stop - offset]? = some next) : isIdentChar next = false := by
  obtain ⟨regexp, c, rest, hdrop, hlex⟩ := exists_drop_eq_of_mem h
  have hle := le_start_of_mem h
  have hstop : t.stop - offset = t.start - offset + ((lexeme regexp c rest).2 + 1) := by
    rw [hlex, stop_tokenAt, start_tokenAt]
    omega
  rw [hstop, ← List.getElem?_drop, hdrop, List.getElem?_cons_succ] at hnext
  rw [hlex, canComplete_tokenAt] at hcan
  exact next_word hcan hnext

/-- Two words do not touch. -/
theorem pairwise_canComplete (last : Option Token) (offset : Nat) (cs : List Char) :
    (tokensFrom last offset cs).Pairwise fun t u =>
      t.canComplete = true → u.canComplete = true → t.stop < u.start := by
  refine (pairwise_tokensFrom last offset cs).imp_of_mem fun {t u} ht hu hle hct hcu => ?_
  refine Nat.lt_of_le_of_ne hle fun htouch => ?_
  obtain ⟨regexp, c, rest, hdrop, hlex⟩ := exists_drop_eq_of_mem hu
  have hfirst : cs[u.start - offset]? = some c := by
    rw [← List.head?_drop, hdrop, List.head?_cons]
  rw [← htouch] at hfirst
  rw [hlex, canComplete_tokenAt] at hcu
  have hword := isIdentChar_of_isIdentStart hcu
  rw [next_of_canComplete ht hct hfirst] at hword
  cases hword

/-- Before a token that begins with a letter or a digit stands no character of a word. -/
theorem isIdentChar_before (ht : t ∈ tokensFrom last offset cs) {c prev : Char} {i : Nat}
    (hi : offset + i + 1 = t.start) (hprev : cs[i]? = some prev)
    (hfirst : t.text.toList.head? = some c) (hc : c.isAlphanum = true) :
    isIdentChar prev = false := by
  rw [Bool.eq_false_iff]
  intro hword
  obtain ⟨u, hu, hle, hlt⟩ := exists_has_of_not_blank hprev
    (isBlank_of_isIdentChar hword)
  have hend := stop_le_start_of_mem hu ht (by omega)
  obtain ⟨regexp, d, rest, hdrop, hlex⟩ := exists_drop_eq_of_mem hu
  obtain ⟨regexp', c', rest', hdrop', hlex'⟩ := exists_drop_eq_of_mem ht
  have hstop := stop_tokenAt regexp u.start d rest
  have hstart := le_start_of_mem hu
  rw [← hlex] at hstop
  rw [hlex', toList_text_tokenAt, List.head?_cons, Option.some.injEq] at hfirst
  have hnext : rest[(lexeme regexp d rest).2]? = some c := by
    have hplace : t.start - offset = u.start - offset + ((lexeme regexp d rest).2 + 1) := by omega
    rw [← List.getElem?_cons_succ, ← hdrop, List.getElem?_drop, ← hplace, ← List.head?_drop, hdrop',
      hfirst, List.head?_cons]
  have hlast : (d :: rest.take (lexeme regexp d rest).2).getLast? = some prev := by
    have hplace : i = u.start - offset + (lexeme regexp d rest).2 := by omega
    rw [hplace, ← List.getElem?_drop, hdrop] at hprev
    rw [← List.take_succ_cons, List.getLast?_take]
    simp [hprev]
  rw [partsNoWord_lexeme regexp d rest c hnext hc prev hlast] at hword
  cases hword

end Tokens

end Lexer

end ModuleHints
