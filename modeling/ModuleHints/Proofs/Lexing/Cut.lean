import Mathlib.Tactic.Common
import ModuleHints.Proofs.Unicode.Classes
import ModuleHints.Proofs.Lexing.Escapes
import ModuleHints.Proofs.Lexing.Operators

/-!
# Lexemes of a text that is cut short

Cutting the text after the first character of a token cuts the token and does nothing else: as many
characters follow its first one as are left, and where the cut comes after the token, its kind stays
too. Every reader of a token's tail satisfies this by itself.
-/

namespace ModuleHints.Lexer

open Unicode

theorem length_takeWhile_take (p : Char → Bool) (cs : List Char) (n : Nat) :
    ((cs.take n).takeWhile p).length = min n (cs.takeWhile p).length := by
  rw [← List.take_takeWhile, List.length_take]

/-- A number is cut where the text is. -/
theorem numberTail_take (hexadecimal : Bool) (prev : Char) (cs : List Char) (n : Nat) :
    numberTail hexadecimal prev (cs.take n) = min n (numberTail hexadecimal prev cs) := by
  induction cs generalizing prev n with
  | nil => simp [numberTail]
  | cons c rest ih =>
    cases n with
    | zero => simp [numberTail]
    | succ n =>
      rw [List.take_succ_cons, numberTail, numberTail]
      split
      · rw [ih, Nat.succ_min_succ]
      · split
        · rw [ih, Nat.succ_min_succ]
        · rw [Nat.min_zero]

/-- A string is cut where the text is, also between a backslash and what it takes along. -/
theorem stringTail_take (quote : Char) (cs : List Char) (n : Nat) :
    stringTail quote (cs.take n) = min n (stringTail quote cs) := by
  induction cs using escape_induction generalizing n with
  | nil => simp [stringTail]
  | lone => cases n <;> simp [stringTail]
  | pair c rest ih =>
    obtain _ | _ | n := n
    · simp [stringTail]
    · simp [stringTail]
    · rw [List.take_succ_cons, List.take_succ_cons, stringTail, stringTail, ih]
      omega
  | plain c rest h ih =>
    cases n with
    | zero => simp [stringTail]
    | succ n =>
      rw [List.take_succ_cons, stringTail_cons _ _ h, stringTail_cons _ _ h, ih]
      split_ifs <;> omega

/-- A template is cut where the text is. -/
theorem templateTail_take (cs : List Char) (n : Nat) :
    templateTail (cs.take n) = min n (templateTail cs) := by
  induction cs using escape_induction generalizing n with
  | nil => simp [templateTail]
  | lone => cases n <;> simp [templateTail]
  | pair c rest ih =>
    obtain _ | _ | n := n
    · simp [templateTail]
    · simp [templateTail]
    · rw [List.take_succ_cons, List.take_succ_cons, templateTail, templateTail, ih]
      omega
  | plain c rest h ih =>
    cases n with
    | zero => simp [templateTail]
    | succ n =>
      rw [List.take_succ_cons, templateTail_cons _ h, templateTail_cons _ h, ih]
      split_ifs <;> omega

/-- A regular expression is cut where the text is, flags included. -/
theorem regexpTail_take (inClass : Bool) (cs : List Char) (n : Nat) :
    regexpTail inClass (cs.take n) = min n (regexpTail inClass cs) := by
  induction cs using escape_induction generalizing inClass n with
  | nil => simp [regexpTail]
  | lone => cases n <;> simp [regexpTail]
  | pair c rest ih =>
    obtain _ | _ | n := n
    · simp [regexpTail]
    · simp [regexpTail]
    · rw [List.take_succ_cons, List.take_succ_cons, regexpTail, regexpTail, ih]
      omega
  | plain c rest h ih =>
    cases n with
    | zero => simp [regexpTail]
    | succ n =>
      rw [List.take_succ_cons, regexpTail_cons _ _ h, regexpTail_cons _ _ h, ih, ih, ih,
        length_takeWhile_take]
      split_ifs <;> omega

/-- A block comment is cut where the text is, also between the star and the slash that close it. -/
theorem blockTail_take (cs : List Char) (n : Nat) :
    blockTail (cs.take n) = min n (blockTail cs) := by
  fun_induction blockTail cs generalizing n with
  | case1 => simp [blockTail]
  | case2 rest =>
    obtain _ | _ | n := n <;> simp [blockTail]
  | case3 c rest h ih =>
    cases n with
    | zero => simp [blockTail]
    | succ n =>
      rw [List.take_succ_cons, blockTail, ih]
      · omega
      · intro more hc hmore
        have hrest : '/' :: (more ++ rest.drop n) = rest := by
          rw [← List.cons_append, ← hmore, List.take_append_drop]
        exact h _ hc hrest.symm

/-- What is left of a lexeme when all but `n` characters after the first one are cut off: the tail
is as long as it can be, and the kind is the same unless something was lost. -/
structure IsCut (n : Nat) (whole left : TokenKind × Nat) : Prop where
  /-- The tail ends where it did, or at the cut. -/
  length_eq : left.2 = min n whole.2
  /-- A lexeme that ends before the cut keeps its kind. -/
  kind_eq : whole.2 ≤ n → left.1 = whole.1

/-- A lexeme of a kind that only its first character decides. -/
theorem IsCut.of_kind {n : Nat} {kind : TokenKind} {whole left : Nat} (h : left = min n whole) :
    IsCut n (kind, whole) (kind, left) :=
  ⟨h, fun _ => rfl⟩

/-- Nothing is left after a first character whose lexeme is longer. -/
theorem IsCut.of_pos {whole left : TokenKind × Nat} (hw : 0 < whole.2) (hl : left.2 = 0) :
    IsCut 0 whole left :=
  ⟨by rw [hl, Nat.zero_min], fun h => absurd hw (Nat.not_lt.mpr h)⟩

/-- Punctuation is cut where the text is, and what is left of an operator is an operator. -/
theorem punctuation_take (c : Char) (rest : List Char) (n : Nat) :
    IsCut n (punctuation c rest) (punctuation c (rest.take n)) := by
  unfold punctuation
  rw [← List.take_succ_cons]
  cases h : operatorAt? (c :: rest) with
  | none =>
    rw [operatorAt?_take_eq_none h]
    exact .of_kind (Nat.min_zero n).symm
  | some op =>
    rcases Nat.lt_or_ge (n + 1) op.length with hn | hn
    · rw [operatorAt?_take_of_lt h hn (Nat.succ_ne_zero n)]
      refine .of_kind ?_
      rw [String.length_ofList, List.length_take, String.length_toList]
      omega
    · rw [operatorAt?_take_of_le h hn]
      exact .of_kind (by omega)

/-- A slash that no second slash and no star follows begins no comment. -/
theorem slash_of_head? (regexp : Bool) {rest : List Char} (hs : rest.head? ≠ some '/')
    (hstar : rest.head? ≠ some '*') :
    slash regexp rest =
      if regexp then (.regexp, regexpTail false rest) else punctuation '/' rest := by
  unfold slash
  split
  next => exact absurd rfl hs
  next => exact absurd rfl hstar
  next => rfl

/-- Whatever begins with a slash is cut where the text is. -/
theorem slash_take (regexp : Bool) (rest : List Char) (n : Nat) :
    IsCut n (slash regexp rest) (slash regexp (rest.take n)) := by
  by_cases hs : rest.head? = some '/'
  · obtain ⟨more, rfl⟩ := List.head?_eq_some_iff.mp hs
    cases n with
    | zero => exact .of_pos (by simp [slash]) (Nat.le_zero.mp (slash_le regexp []))
    | succ n => exact .of_kind (length_takeWhile_take _ ('/' :: more) (n + 1))
  · by_cases hstar : rest.head? = some '*'
    · obtain ⟨more, rfl⟩ := List.head?_eq_some_iff.mp hstar
      cases n with
      | zero => exact .of_pos (Nat.succ_pos _) (Nat.le_zero.mp (slash_le regexp []))
      | succ n =>
        refine .of_kind ?_
        rw [blockTail_take, Nat.succ_min_succ]
    · have hkept : ∀ c, rest.head? ≠ some c → (rest.take n).head? ≠ some c := by
        intro c hc hk
        rw [List.head?_take] at hk
        split at hk
        · cases hk
        · exact hc hk
      rw [slash_of_head? regexp hs hstar, slash_of_head? regexp (hkept _ hs) (hkept _ hstar)]
      cases regexp with
      | true => exact .of_kind (regexpTail_take ..)
      | false => exact punctuation_take ..

/-- A number does not end before the digit after its first character. -/
theorem numberTail_pos {hexadecimal : Bool} {prev : Char} {rest : List Char}
    (h : digitNext rest = true) : 0 < numberTail hexadecimal prev rest := by
  cases rest with
  | nil => cases h
  | cons c rest =>
    have hc : isAlphanumeric c = true := isAlphanumeric_of_isDigit h
    rw [numberTail, if_pos (by simp [hc])]
    exact Nat.succ_pos _

/-- A number is cut where the text is: whether it is hexadecimal shows in the characters that are
left, unless it ends before the cut matters. -/
theorem numberTail_opensHexadecimal_take (c : Char) (rest : List Char) (n : Nat) :
    numberTail (opensHexadecimal c (rest.take n)) c (rest.take n) =
      min n (numberTail (opensHexadecimal c rest) c rest) := by
  cases n with
  | zero => simp [numberTail]
  | succ n =>
    have hhex : opensHexadecimal c (rest.take (n + 1)) = opensHexadecimal c rest := by
      cases rest <;> rfl
    rw [hhex, numberTail_take]

/-- A point before a digit opens a number, which the digit belongs to. -/
theorem lexeme_point (regexp : Bool) {rest : List Char} (h : digitNext rest = true) :
    lexeme regexp '.' rest = (.number, numberTail (opensHexadecimal '.' rest) '.' rest) := by
  have hstart : isIdentStart '.' = false := by decide
  simp [lexeme, hstart, h]

/-- Cutting the text after the first character of a token cuts the token and does nothing else. -/
theorem lexeme_take (regexp : Bool) (c : Char) (rest : List Char) (n : Nat) :
    IsCut n (lexeme regexp c rest) (lexeme regexp c (rest.take n)) := by
  by_cases hpoint : c = '.' ∧ digitNext rest = true ∧ n = 0
  · obtain ⟨rfl, hd, rfl⟩ := hpoint
    refine .of_pos ?_ (Nat.le_zero.mp (lexeme_le regexp '.' []))
    rw [lexeme_point regexp hd]
    exact numberTail_pos hd
  · have hnumber : (isDigit c || (c == '.' && digitNext (rest.take n))) =
        (isDigit c || (c == '.' && digitNext rest)) := by
      cases n with
      | zero => simp_all [digitNext]
      | succ n => cases rest <;> rfl
    unfold lexeme
    rw [hnumber]
    split
    · refine ⟨length_takeWhile_take .., ?_⟩
      intro hle
      have hword : (rest.take n).takeWhile isIdentChar = rest.takeWhile isIdentChar := by
        rw [← List.take_takeWhile, List.take_of_length_le hle]
      rw [hword]
    · split
      · exact .of_kind (numberTail_opensHexadecimal_take ..)
      · split
        · exact .of_kind (stringTail_take ..)
        · split
          · exact .of_kind (templateTail_take ..)
          · split
            · exact slash_take ..
            · exact punctuation_take ..

theorem lexeme_take_of_le {regexp : Bool} {c : Char} {rest : List Char} {n : Nat}
    (h : (lexeme regexp c rest).2 ≤ n) : lexeme regexp c (rest.take n) = lexeme regexp c rest := by
  have hcut := lexeme_take regexp c rest n
  exact Prod.ext (hcut.kind_eq h) (by rw [hcut.length_eq, Nat.min_eq_right h])

end ModuleHints.Lexer
