import Mathlib.Data.List.Forall2
import ModuleHints.Proofs.Lexing.Cut

/-!
# The tokens of a text

Tokens stand in order inside the text, each at a place where its lexeme does, and what follows a
token is what the lexer makes of the rest of the text. The lexer remembers nothing but whether a
slash may begin a regular expression, and it never looks further than one character past the token
it reads.
-/

namespace ModuleHints.Lexer

open Unicode

/-- The token that begins with `c` at an offset. -/
def tokenAt (regexp : Bool) (offset : Nat) (c : Char) (rest : List Char) : Token :=
  ⟨(lexeme regexp c rest).1, String.ofList (c :: rest.take (lexeme regexp c rest).2), offset⟩

section TokenAt

variable (regexp : Bool) (offset : Nat) (c : Char) (rest : List Char)

@[simp] theorem start_tokenAt : (tokenAt regexp offset c rest).start = offset := rfl

@[simp] theorem toList_text_tokenAt :
    (tokenAt regexp offset c rest).text.toList = c :: rest.take (lexeme regexp c rest).2 :=
  String.toList_ofList

/-- A token stops after its first character and its tail. -/
theorem stop_tokenAt :
    (tokenAt regexp offset c rest).stop = offset + 1 + (lexeme regexp c rest).2 := by
  have hle := lexeme_le regexp c rest
  rw [Token.stop, ← String.length_toList, toList_text_tokenAt, List.length_cons, List.length_take,
    Nat.min_eq_left hle, start_tokenAt]
  omega

end TokenAt

variable {last : Option Token} {offset : Nat}

@[simp] theorem tokensFrom_nil : tokensFrom last offset [] = [] := by
  rw [tokensFrom]

theorem tokensFrom_blank {c : Char} (h : isBlank c = true) (rest : List Char) :
    tokensFrom last offset (c :: rest) = tokensFrom last (offset + 1) rest := by
  rw [tokensFrom, if_pos h]

/-- A character that is not blank begins a token, and the lexer goes on after that. -/
theorem tokensFrom_token {c : Char} (h : isBlank c = false) (rest : List Char) :
    tokensFrom last offset (c :: rest) =
      tokenAt (regexpAllowed last) offset c rest ::
        tokensFrom (some (tokenAt (regexpAllowed last) offset c rest))
          (tokenAt (regexpAllowed last) offset c rest).stop
          (rest.drop (lexeme (regexpAllowed last) c rest).2) := by
  rw [tokensFrom, if_neg (by simp [h])]
  simp only [stop_tokenAt]
  rfl

/-- A property of what the lexer does with a text holds if it holds of the empty text, and passes
over a blank character and over a token. -/
@[elab_as_elim] theorem tokens_induction {motive : Option Token → Nat → List Char → Prop}
    (nil : ∀ last offset, motive last offset [])
    (blank : ∀ last offset c rest, isBlank c = true → motive last (offset + 1) rest →
      motive last offset (c :: rest))
    (token : ∀ last offset c rest, isBlank c = false →
      motive (some (tokenAt (regexpAllowed last) offset c rest))
        (tokenAt (regexpAllowed last) offset c rest).stop
        (rest.drop (lexeme (regexpAllowed last) c rest).2) →
      motive last offset (c :: rest))
    (last : Option Token) (offset : Nat) (cs : List Char) : motive last offset cs := by
  induction last, offset, cs using tokensFrom.induct with
  | case1 last offset => exact nil last offset
  | case2 last offset c rest h ih => exact blank last offset c rest h ih
  | case3 last offset c rest h kind more hl t ih =>
    refine token last offset c rest (by simpa using h) ?_
    have ht : tokenAt (regexpAllowed last) offset c rest = t := by
      rw [tokenAt, hl]
    rw [stop_tokenAt, ht, hl]
    exact ih

/-- No token begins before the text. -/
theorem le_start_of_mem {cs : List Char} {t : Token} (h : t ∈ tokensFrom last offset cs) :
    offset ≤ t.start := by
  induction last, offset, cs using tokens_induction with
  | nil => simp at h
  | blank last offset c rest hb ih =>
    rw [tokensFrom_blank hb] at h
    exact Nat.le_of_succ_le (ih h)
  | token last offset c rest hb ih =>
    rw [tokensFrom_token hb] at h
    rcases List.mem_cons.mp h with rfl | h
    · exact le_rfl
    · have hle := ih h
      rw [stop_tokenAt] at hle
      omega

/-- Each token is what stands at its place. -/
theorem exists_tokenAt_of_mem {cs : List Char} {t : Token} (h : t ∈ tokensFrom last offset cs) :
    ∃ regexp before c rest, cs = before ++ c :: rest ∧ isBlank c = false ∧
      t = tokenAt regexp (offset + before.length) c rest := by
  induction last, offset, cs using tokens_induction with
  | nil => simp at h
  | blank last offset c rest hb ih =>
    rw [tokensFrom_blank hb] at h
    obtain ⟨regexp, before, d, after, rfl, hd, rfl⟩ := ih h
    exact ⟨regexp, c :: before, d, after, rfl, hd, by rw [List.length_cons]; congr 1; omega⟩
  | token last offset c rest hb ih =>
    rw [tokensFrom_token hb] at h
    rcases List.mem_cons.mp h with rfl | h
    · exact ⟨_, [], c, rest, rfl, hb, rfl⟩
    · obtain ⟨regexp, before, d, after, hsplit, hd, rfl⟩ := ih h
      have hle := lexeme_le (regexpAllowed last) c rest
      refine ⟨regexp, c :: rest.take (lexeme (regexpAllowed last) c rest).2 ++ before, d, after,
        ?_, hd, ?_⟩
      · rw [List.append_assoc, ← hsplit, List.cons_append, List.take_append_drop]
      · rw [stop_tokenAt, List.length_append, List.length_cons, List.length_take,
          Nat.min_eq_left hle]
        congr 1
        omega

theorem start_lt_stop_of_mem {cs : List Char} {t : Token} (h : t ∈ tokensFrom last offset cs) :
    t.start < t.stop := by
  obtain ⟨regexp, before, c, rest, -, -, rfl⟩ := exists_tokenAt_of_mem h
  rw [stop_tokenAt, start_tokenAt]
  omega

theorem stop_le_of_mem {cs : List Char} {t : Token} (h : t ∈ tokensFrom last offset cs) :
    t.stop ≤ offset + cs.length := by
  obtain ⟨regexp, before, c, rest, rfl, -, rfl⟩ := exists_tokenAt_of_mem h
  have hle := lexeme_le regexp c rest
  rw [stop_tokenAt, List.length_append, List.length_cons]
  omega

/-- A token is made of the characters from its start to its stop. -/
theorem text_of_mem {cs : List Char} {t : Token} (h : t ∈ tokensFrom last offset cs) :
    t.text.toList = (cs.drop (t.start - offset)).take (t.stop - t.start) := by
  obtain ⟨regexp, before, c, rest, rfl, -, rfl⟩ := exists_tokenAt_of_mem h
  have hlen : (tokenAt regexp (offset + before.length) c rest).stop - (offset + before.length) =
      (lexeme regexp c rest).2 + 1 := by
    rw [stop_tokenAt]
    omega
  rw [start_tokenAt, hlen, Nat.add_sub_cancel_left, List.drop_left, List.take_succ_cons,
    toList_text_tokenAt]

/-- Each token ends before the next one begins. -/
theorem pairwise_tokensFrom (last : Option Token) (offset : Nat) (cs : List Char) :
    (tokensFrom last offset cs).Pairwise fun t u => t.stop ≤ u.start := by
  induction last, offset, cs using tokens_induction with
  | nil => simp
  | blank last offset c rest hb ih => rwa [tokensFrom_blank hb]
  | token last offset c rest hb ih =>
    rw [tokensFrom_token hb]
    exact List.pairwise_cons.mpr ⟨fun u hu => le_start_of_mem hu, ih⟩

/-- The token that the lexer has in mind after reading some tokens. -/
def lastAfter (last : Option Token) (tokens : List Token) : Option Token := tokens.getLast?.or last

theorem lastAfter_nil (last : Option Token) : lastAfter last [] = last := rfl

@[simp] theorem lastAfter_cons (last : Option Token) (t : Token) (tokens : List Token) :
    lastAfter last (t :: tokens) = lastAfter (some t) tokens := by
  rw [lastAfter, lastAfter, List.getLast?_cons]
  cases tokens.getLast? <;> rfl

/-- Where a token stands does not count for a slash behind it. -/
theorem regexpAllowed_map_shift (last : Option Token) (n : Nat) :
    regexpAllowed (last.map (·.shift n)) = regexpAllowed last := by
  cases last <;> rfl

/-- A text further to the right has the same tokens, moved as far. -/
theorem tokensFrom_shift (n : Nat) (last : Option Token) (offset : Nat) (cs : List Char) :
    tokensFrom (last.map (·.shift n)) (offset + n) cs =
      (tokensFrom last offset cs).map (·.shift n) := by
  induction last, offset, cs using tokens_induction with
  | nil => rw [tokensFrom_nil, tokensFrom_nil, List.map_nil]
  | blank last offset c rest hb ih =>
    rw [tokensFrom_blank hb, tokensFrom_blank hb, ← ih, Nat.add_right_comm]
  | token last offset c rest hb ih =>
    have hplace : (tokenAt (regexpAllowed last) (offset + n) c rest).stop =
        (tokenAt (regexpAllowed last) offset c rest).stop + n := by
      rw [stop_tokenAt, stop_tokenAt]
      omega
    rw [tokensFrom_token hb, tokensFrom_token hb, regexpAllowed_map_shift, hplace, List.map_cons,
      ← ih]
    rfl

end ModuleHints.Lexer
