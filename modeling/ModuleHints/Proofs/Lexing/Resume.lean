import Mathlib
import ModuleHints.Proofs.Lexing.Tiling

/-!
# Lexing from the middle

Of what it has read the lexer keeps one thing in mind: whether a slash may begin a regular expression.
Started anew at one of its tokens it therefore finds that token again and all that follow, unless the
token is a division, in the place of which it reads a regular expression. What stands outside of its
range it does not see at all, and where the range lies shows only in the offsets.
-/

namespace ModuleHints

/-- Whether a token is punctuation that begins with a slash. -/
def Token.IsDivision (t : Token) : Prop := t.kind = .operator ∧ t.text.toList.head? = some '/'

instance (t : Token) : Decidable t.IsDivision := inferInstanceAs (Decidable (_ ∧ _))

namespace Lexer

open Unicode

/-- What begins with anything but a slash is read without a look at what came before. -/
theorem lexeme_congr {c : Char} (hc : c ≠ '/') (regexp regexp' : Bool) (rest : List Char) :
    lexeme regexp c rest = lexeme regexp' c rest := by
  rw [lexeme, lexeme, if_neg hc, if_neg hc]

/-- A slash that begins nothing else is punctuation. -/
theorem kind_punctuation_slash (rest : List Char) : (punctuation '/' rest).1 = .operator := by
  rw [punctuation]
  split
  next => rfl
  next hnone =>
    have hslash := operatorAt?_eq_none_iff.mp hnone "/" (by decide)
    exact absurd (List.prefix_append ['/'] rest) hslash

/-- A slash is read as one that may begin a regular expression, unless it divides. -/
theorem slash_eq_iff (regexp : Bool) (rest : List Char) :
    slash true rest = slash regexp rest ↔ (slash regexp rest).1 ≠ .operator := by
  rw [slash.eq_def, slash.eq_def]
  split
  next => simp
  next => simp
  next =>
    cases regexp with
    | true => simp
    | false =>
      have hkind := kind_punctuation_slash rest
      refine iff_of_false (fun hsame => ?_) (not_not_intro hkind)
      have hkinds := congrArg Prod.fst hsame
      rw [if_pos rfl] at hkinds
      cases hkinds.trans hkind

/-- What comes before a token counts for a division alone. -/
theorem lexeme_eq_iff (regexp : Bool) (offset : Nat) (c : Char) (rest : List Char) :
    lexeme true c rest = lexeme regexp c rest ↔ ¬(tokenAt regexp offset c rest).IsDivision := by
  rw [Token.IsDivision, toList_text_tokenAt, List.head?_cons, Option.some.injEq, tokenAt]
  by_cases hc : c = '/'
  · have hslash : ∀ regexp, lexeme regexp '/' rest = slash regexp rest := fun _ => rfl
    rw [hc, hslash, hslash, slash_eq_iff]
    simp
  · exact iff_of_true (lexeme_congr hc ..) fun hdivision => hc hdivision.2

variable {last : Option Token} {offset : Nat}

/-- The tokens from one of them on are those of the rest of the text, read with the token before it
in mind. -/
theorem tokensFrom_drop {cs : List Char} {earlier later : List Token} {t : Token}
    (h : tokensFrom last offset cs = earlier ++ t :: later) :
    tokensFrom (lastAfter last earlier) t.start (cs.drop (t.start - offset)) = t :: later := by
  have ht : t ∈ tokensFrom last offset cs := h ▸ List.mem_append_right _ (List.mem_cons_self ..)
  have hstart := le_start_of_mem ht
  have hpos := start_lt_stop_of_mem ht
  have hstop := stop_le_of_mem ht
  have hlength : (cs.take (t.start - offset)).length = t.start - offset :=
    List.length_take_of_le (by omega)
  have hplace : offset + (cs.take (t.start - offset)).length = t.start := by omega
  have hparts := List.take_append_drop (t.start - offset) cs
  have hcross : ∀ u ∈ tokensFrom last offset
      (cs.take (t.start - offset) ++ cs.drop (t.start - offset)),
      ¬u.Crosses (offset + (cs.take (t.start - offset)).length) := by
    rw [hparts, hplace]
    exact not_crosses_start h
  have hsplit := tokensFrom_append hcross
  rw [hparts, hplace, tokensFrom_take_start h, h] at hsplit
  exact (List.append_cancel_left hsplit).symm

/-- Where a text begins with a token, the lexer finds that and all that follow whatever came before,
unless the token is a division. -/
theorem tokensFrom_first_iff {cs : List Char} {later : List Token} {t : Token}
    (h : tokensFrom last offset cs = t :: later) (hstart : t.start = offset) :
    tokensFrom none offset cs = t :: later ↔ ¬t.IsDivision := by
  cases cs with
  | nil => simp at h
  | cons c rest =>
    cases hb : isBlank c with
    | true =>
      rw [tokensFrom_blank hb] at h
      have hle : offset + 1 ≤ t.start := le_start_of_mem (h ▸ List.mem_cons_self ..)
      omega
    | false =>
      rw [tokensFrom_token hb] at h
      obtain ⟨rfl, rfl⟩ := List.cons.inj h
      rw [tokensFrom_token hb]
      constructor
      · intro hsame
        rw [← (List.cons.inj hsame).1]
        exact (lexeme_eq_iff true offset c rest).mp rfl
      · intro hdivision
        have hlexeme : lexeme (regexpAllowed none) c rest = lexeme (regexpAllowed last) c rest :=
          (lexeme_eq_iff ..).mpr hdivision
        have htoken : tokenAt (regexpAllowed none) offset c rest =
            tokenAt (regexpAllowed last) offset c rest := by
          rw [tokenAt, tokenAt, hlexeme]
        rw [htoken, hlexeme]

/-- Lexing may be started anew at each token but a division, and gives that token and those after
it. A range is lexed like the text that it holds, and its tokens lie as far to the right as it
does. -/
theorem tokenize_restart (source : List Char) (a b : Nat) :
    (∀ earlier t later, tokenize source a (some b) = earlier ++ t :: later →
      (tokenize source t.start (some b) = t :: later ↔ ¬t.IsDivision)) ∧
    tokenize source a (some b) = (tokenize ((source.take b).drop a) 0 none).map (·.shift a) := by
  have hrange : ∀ start : Nat, tokenize source start (some b) =
      tokensFrom none start ((source.take b).drop start) := fun start => by
    simp [tokenize, tokens]
  have hwhole : ∀ cs : List Char, tokenize cs 0 none = tokensFrom none 0 cs := fun cs => by
    simp [tokenize, tokens]
  constructor
  · intro earlier t later h
    rw [hrange] at h ⊢
    have hstart : a ≤ t.start :=
      le_start_of_mem (h ▸ List.mem_append_right _ (List.mem_cons_self ..))
    have hrest := tokensFrom_drop h
    rw [List.drop_drop, Nat.add_sub_cancel' hstart] at hrest
    exact tokensFrom_first_iff hrest rfl
  · have hshift := tokensFrom_shift a none 0 ((source.take b).drop a)
    rw [Option.map_none, Nat.zero_add] at hshift
    rw [hrange, hwhole, hshift]

/-- At a regular expression that a division follows, lexing may be started anew. -/
theorem tokenize_restart_at_regexp :
    let source := "x = /[/]/g / y".toList
    let literal : Token := ⟨.regexp, "/[/]/g", 4⟩
    let later : List Token := [⟨.operator, "/", 11⟩, ⟨.identifier, "y", 13⟩]
    tokenize source 0 (some 14) = [⟨.identifier, "x", 0⟩, ⟨.operator, "=", 2⟩] ++ literal :: later ∧
      ¬literal.IsDivision ∧ tokenize source literal.start (some 14) = literal :: later := by
  intro source literal later
  have htokens : tokenize source 0 (some 14) =
      [⟨.identifier, "x", 0⟩, ⟨.operator, "=", 2⟩] ++ literal :: later := by
    simp only [source, literal, later]
    cbv
  have hdivision : ¬literal.IsDivision := by decide
  exact ⟨htokens, hdivision, ((tokenize_restart source 0 14).1 _ _ _ htokens).mpr hdivision⟩

/-- At the division a new run reads a regular expression. -/
example : tokenize "x = /[/]/g / y".toList 11 (some 14) = [⟨.regexp, "/ y", 11⟩] := by
  cbv

end Lexer

end ModuleHints
