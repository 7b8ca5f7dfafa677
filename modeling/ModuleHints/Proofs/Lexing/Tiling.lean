import ModuleHints.Proofs.Lexing.Truncation

/-!
# Tokens tile their range

The lexer loses nothing and invents nothing: its tokens stand one after another in the range it was
given, each showing the characters of its place, and what is left between them is blank. It takes at
least one character at a time, so a range is done after as many steps as it has characters.
-/

namespace ModuleHints

/-- Whether a token has the character at a place. -/
def Token.Has (t : Token) (place : Nat) : Prop := t.start ≤ place ∧ place < t.stop

namespace Lexer

open Unicode

variable {last : Option Token} {offset : Nat}

/-- A character that is not blank belongs to a token. -/
theorem exists_has_of_not_blank {cs : List Char} {i : Nat} {c : Char} (hi : cs[i]? = some c)
    (hc : isBlank c = false) : ∃ t ∈ tokensFrom last offset cs, t.Has (offset + i) := by
  induction last, offset, cs using tokens_induction generalizing i with
  | nil => simp at hi
  | blank last offset d rest hd ih =>
    rw [tokensFrom_blank hd]
    cases i with
    | zero =>
      rw [List.getElem?_cons_zero, Option.some.injEq] at hi
      rw [hi, hc] at hd
      contradiction
    | succ i =>
      rw [List.getElem?_cons_succ] at hi
      have hplace : offset + (i + 1) = offset + 1 + i := by omega
      rw [hplace]
      exact ih hi
  | token last offset d rest hd ih =>
    rw [tokensFrom_token hd]
    have hstop := stop_tokenAt (regexpAllowed last) offset d rest
    rcases Nat.lt_or_ge (offset + i) (tokenAt (regexpAllowed last) offset d rest).stop with
      hlt | hge
    · exact ⟨_, List.mem_cons_self .., Nat.le_add_right .., hlt⟩
    · obtain ⟨j, rfl⟩ : ∃ j, i = (lexeme (regexpAllowed last) d rest).2 + j + 1 :=
        ⟨i - (lexeme (regexpAllowed last) d rest).2 - 1, by omega⟩
      rw [List.getElem?_cons_succ, ← List.getElem?_drop] at hi
      obtain ⟨t, ht, hhas⟩ := ih hi
      have hplace : offset + ((lexeme (regexpAllowed last) d rest).2 + j + 1) =
          (tokenAt (regexpAllowed last) offset d rest).stop + j := by
        omega
      rw [hplace]
      exact ⟨t, List.mem_cons_of_mem _ ht, hhas⟩

/-- A token holds the characters at its places. -/
theorem mem_text_of_has {cs : List Char} {t : Token} (ht : t ∈ tokensFrom last offset cs) {i : Nat}
    {c : Char} (hi : cs[i]? = some c) (hhas : t.Has (offset + i)) : c ∈ t.text.toList := by
  have hstart := le_start_of_mem ht
  obtain ⟨hle, hlt⟩ := hhas
  obtain ⟨j, hj⟩ := Nat.exists_eq_add_of_le hle
  rw [text_of_mem ht]
  refine List.mem_of_getElem? (i := j) ?_
  rw [List.getElem?_take, if_pos (by omega), List.getElem?_drop, ← hi]
  congr 1
  omega

/-- There are no more tokens than characters. -/
theorem length_tokensFrom_le (last : Option Token) (offset : Nat) (cs : List Char) :
    (tokensFrom last offset cs).length ≤ cs.length := by
  induction last, offset, cs using tokens_induction with
  | nil => simp
  | blank last offset c rest hb ih =>
    rw [tokensFrom_blank hb, List.length_cons]
    exact Nat.le_succ_of_le ih
  | token last offset c rest hb ih =>
    rw [List.length_drop] at ih
    rw [tokensFrom_token hb, List.length_cons, List.length_cons]
    omega

theorem exists_text_eq_cons_of_mem {cs : List Char} {t : Token}
    (h : t ∈ tokensFrom last offset cs) :
    ∃ c rest, t.text.toList = c :: rest ∧ isBlank c = false := by
  obtain ⟨regexp, before, c, rest, -, hc, rfl⟩ := exists_tokenAt_of_mem h
  exact ⟨c, _, toList_text_tokenAt .., hc⟩

/-- A text without tokens is blank. -/
theorem all_isBlank_of_tokensFrom_eq_nil {cs : List Char} (h : tokensFrom last offset cs = []) :
    cs.all isBlank = true := by
  rw [List.all_eq_true]
  intro c hc
  by_contra hblank
  obtain ⟨i, hi⟩ := List.mem_iff_getElem?.mp hc
  obtain ⟨t, ht, -⟩ := exists_has_of_not_blank hi
    (Bool.eq_false_iff.mpr hblank)
  rw [h] at ht
  cases ht

/-- Behind the last token of a text stand only blank characters. -/
theorem exists_append_of_tokensFrom_concat {cs : List Char} {earlier : List Token} {t : Token}
    (h : tokensFrom last offset cs = earlier ++ [t]) :
    ∃ blanks, cs = cs.take (t.start - offset) ++ t.text.toList ++ blanks ∧
      blanks.all isBlank = true := by
  have ht : t ∈ tokensFrom last offset cs := h ▸ List.mem_append_right _ (List.mem_singleton_self t)
  have hstart := le_start_of_mem ht
  have hpos := start_lt_stop_of_mem ht
  refine ⟨cs.drop (t.stop - offset), ?_, ?_⟩
  · have hplace : t.stop - offset = t.start - offset + (t.stop - t.start) := by omega
    rw [text_of_mem ht, hplace, ← List.drop_drop, List.append_assoc, List.take_append_drop,
      List.take_append_drop]
  · rw [List.all_eq_true]
    intro c hc
    by_contra hblank
    obtain ⟨i, hi⟩ := List.mem_iff_getElem?.mp hc
    rw [List.getElem?_drop] at hi
    obtain ⟨u, hu, hle, hlt⟩ := exists_has_of_not_blank hi
      (Bool.eq_false_iff.mpr hblank)
    rw [h] at hu
    rcases List.mem_append.mp hu with hu | hu
    · have hbefore := (isBetween_of_split h).earlier_stop_le u hu
      omega
    · cases List.mem_singleton.mp hu
      omega

/-- The tokens stand in the source between two places, in order and apart, and all that they leave
out is blank. -/
structure Tiles (source : List Char) (first beyond : Int) (tokens : List Token) : Prop where
  /-- No token is empty. -/
  start_lt_stop : ∀ t ∈ tokens, t.start < t.stop
  /-- A token begins after the ones before it begin, and not before they end. -/
  in_order : tokens.Pairwise fun t u => t.start < u.start ∧ t.stop ≤ u.start
  /-- Every token is between the places. -/
  inside : ∀ t ∈ tokens, first ≤ t.start ∧ t.stop ≤ beyond
  /-- A token is made of the characters from its start to its stop. -/
  text_eq : ∀ t ∈ tokens, t.text.toList = (source.take t.stop).drop t.start
  /-- A token does not begin with a blank character. -/
  begins : ∀ t ∈ tokens, ∃ c rest, t.text.toList = c :: rest ∧ isBlank c = false
  /-- A character between the places that no token has is blank. -/
  blank : ∀ (place : Nat) (c : Char), first ≤ place → place < beyond → source[place]? = some c →
    (∀ t ∈ tokens, ¬t.Has place) → isBlank c = true
  /-- There are no more tokens than characters between the places. -/
  length_le : tokens.length ≤ (beyond - first).toNat

/-- The tokens of a range tile it, whatever integers its ends are: a beginning before the source
means that of the source, and so does an end after it. -/
theorem tokenize_tiles (source : List Char) (start : Int) (stop : Option Int) :
    Tiles source (max 0 start) (min (stop.getD source.length) source.length)
      (tokenize source start stop) := by
  rw [tokenize]
  generalize stop.getD source.length = stop
  have hlength : ((source.take stop.toNat).drop start.toNat).length =
      min stop.toNat source.length - start.toNat := by
    rw [List.length_drop, List.length_take]
  refine ⟨fun t ht => start_lt_stop_of_mem ht, ?_, fun t ht => ?_,
    fun t ht => (mem_tokens ht).2.2, fun t ht => exists_text_eq_cons_of_mem ht, ?_, ?_⟩
  · refine (pairwise_tokensFrom ..).imp_of_mem fun ht _ hle => ⟨?_, hle⟩
    exact (start_lt_stop_of_mem ht).trans_le hle
  · obtain ⟨hstart, hstop, -⟩ := mem_tokens ht
    have hpos := start_lt_stop_of_mem ht
    omega
  · intro place c hfirst hbeyond hchar hnone
    by_contra hc
    obtain ⟨i, rfl⟩ : ∃ i, place = start.toNat + i := ⟨place - start.toNat, by omega⟩
    have hrange : ((source.take stop.toNat).drop start.toNat)[i]? = some c := by
      rw [List.getElem?_drop, List.getElem?_take, if_pos (by omega), hchar]
    obtain ⟨t, ht, hhas⟩ : ∃ t ∈ tokens source start.toNat stop.toNat, t.Has (start.toNat + i) :=
      exists_has_of_not_blank hrange (by simpa using hc)
    exact hnone t ht hhas
  · have hle := length_tokensFrom_le none start.toNat ((source.take stop.toNat).drop start.toNat)
    rw [tokens]
    omega

/-- A range that begins before the source, and ends in the middle of a comment. -/
example : tokenize "a /* b".toList (-3) (some 5) =
    [⟨.identifier, "a", 0⟩, ⟨.comment, "/* ", 2⟩] := by
  cbv

end Lexer

end ModuleHints
