import Mathlib
import ModuleHints.Proofs.Lexing.Resume
import ModuleHints.Proofs.Source.Walk

/-!
# Lexing line by line

A scan lexes each line by itself, and so forgets at each line feed what came before it. Lexed in one
piece, a text has the same tokens where no token reaches over a line feed and no line begins with a
slash: the last token of a line counts only for a slash, and only for one that comes next.
-/

namespace ModuleHints

open Unicode

/-- The first character of a line that is not blank. -/
def firstMark? (line : List Char) : Option Char := line.find? fun c => !isBlank c

namespace Lexer

variable {last : Option Token} {offset : Nat}

/-- A text that does not begin with a slash has the same tokens whatever came before. -/
theorem tokensFrom_congr {cs : List Char} (h : firstMark? cs ≠ some '/') (last last' : Option Token)
    (offset : Nat) : tokensFrom last offset cs = tokensFrom last' offset cs := by
  induction cs generalizing offset with
  | nil => rw [tokensFrom_nil, tokensFrom_nil]
  | cons c rest ih =>
    cases hb : isBlank c with
    | true =>
      have hrest : firstMark? (c :: rest) = firstMark? rest := by simp [firstMark?, hb]
      rw [tokensFrom_blank hb, tokensFrom_blank hb, ih (hrest ▸ h)]
    | false =>
      have hmark : firstMark? (c :: rest) = some c := by simp [firstMark?, hb]
      have hc : c ≠ '/' := fun hc => h (hc ▸ hmark)
      have hsame := lexeme_congr hc (regexpAllowed last) (regexpAllowed last') rest
      have htoken : tokenAt (regexpAllowed last) offset c rest =
          tokenAt (regexpAllowed last') offset c rest := by
        rw [tokenAt, tokenAt, hsame]
      rw [tokensFrom_token hb, tokensFrom_token hb, htoken, hsame]

/-- A line feed that no token holds parts the text: the line before it is lexed by itself, and what
comes after it with the last token of the line in mind. -/
theorem tokensFrom_feed {line rest : List Char}
    (h : ∀ t ∈ tokensFrom last offset (line ++ '\n' :: rest), '\n' ∉ t.text.toList) :
    tokensFrom last offset (line ++ '\n' :: rest) =
      tokensFrom last offset line ++
        tokensFrom (lastAfter last (tokensFrom last offset line)) (offset + line.length + 1)
          rest := by
  have hfeed : (line ++ '\n' :: rest)[line.length]? = some '\n' := by simp
  rw [tokensFrom_append, tokensFrom_blank (by decide)]
  rintro t ht ⟨hlt, hgt⟩
  exact h t ht (mem_text_of_has ht hfeed ⟨hlt.le, hgt⟩)

/-- A text is lexed line by line as it is in one piece, where no token holds a line feed and no line
begins with a slash; the first line may, if nothing comes before it. -/
theorem tokensFrom_eq_lineTokens {cs line : List Char} {more : List (List Char)}
    (hlines : splitLines cs = line :: more) (hreturn : '\r' ∉ cs)
    (hfeed : ∀ t ∈ tokensFrom last offset cs, '\n' ∉ t.text.toList)
    (hfirst : last = none ∨ firstMark? line ≠ some '/')
    (hmore : ∀ next ∈ more, firstMark? next ≠ some '/') :
    tokensFrom last offset cs = lineTokens offset (line :: more) := by
  induction more generalizing cs line last offset with
  | nil =>
    have hcs : cs = line := by
      have hone : splitLines cs = [] ++ [line] := hlines
      obtain ⟨head, hhead, hlen⟩ := exists_append_of_splitLines hone
      rw [hhead, List.eq_nil_of_length_eq_zero hlen, List.nil_append]
    rw [lineTokens, hcs]
    rcases hfirst with rfl | hfirst
    · rfl
    · exact tokensFrom_congr hfirst ..
  | cons next more ih =>
    obtain ⟨rest, rfl, hrest⟩ := exists_cons_of_splitLines hlines (by simp)
    have hline : '\r' ∉ line := fun hmem => hreturn (List.mem_append_left _ hmem)
    have hparts := tokensFrom_feed hfeed
    have hsame : tokensFrom last offset line = tokensFrom none offset line := by
      rcases hfirst with rfl | hfirst
      · rfl
      · exact tokensFrom_congr hfirst ..
    rw [hparts] at hfeed ⊢
    have hlater := ih hrest (fun hmem => hreturn (by simp [hmem]))
      (fun t ht => hfeed t (List.mem_append_right _ ht)) (.inr (hmore next (List.mem_cons_self ..)))
      fun line hmem => hmore line (List.mem_cons_of_mem _ hmem)
    rw [hlater, hsame, lineTokens, withoutReturn_of_not_mem hline]

end Lexer

namespace Document

/-- A scan sees the tokens of the text before the cursor, last one first, where none of them holds a
line feed and no line but the first begins with a slash. -/
theorem scanBackward_eq_reverse_tokenize (d : Document) (cursor : Nat) (hreturn : '\r' ∉ d.chars)
    (hfeed : ∀ t ∈ Lexer.tokenize d.chars 0 (some cursor), '\n' ∉ t.text.toList)
    (hslash : ∀ line ∈ (splitLines (d.chars.take cursor)).tail, firstMark? line ≠ some '/') :
    d.scanBackward cursor = (Lexer.tokenize d.chars 0 (some cursor)).reverse := by
  have hbefore : d.before cursor = d.chars.take cursor := by
    rw [before, clamp, Int.toNat_natCast, length, ← List.take_take, List.take_length]
  have htokenize : Lexer.tokenize d.chars 0 (some cursor) =
      Lexer.tokensFrom none 0 (d.chars.take cursor) := by
    simp [Lexer.tokenize, Lexer.tokens]
  obtain ⟨line, more, hlines⟩ :=
    List.exists_cons_of_ne_nil (splitLines_ne_nil (d.chars.take cursor))
  rw [htokenize] at hfeed ⊢
  rw [hlines, List.tail_cons] at hslash
  rw [scanBackward, scanText, hbefore, hlines, Lexer.tokensFrom_eq_lineTokens hlines
    (fun hmem => hreturn (List.mem_of_mem_take hmem)) hfeed (.inl rfl) hslash]

/-- A cursor in a string on the third of four lines, of which the first begins with a slash. -/
theorem scanBackward_eq_reverse_tokenize_in_string :
    let d := ofString "/a/.test(b)\n\n  + 'c d' /\n e // f"
    '\r' ∉ d.chars ∧
      (∀ t ∈ Lexer.tokenize d.chars 0 (some 19), '\n' ∉ t.text.toList) ∧
      (∀ line ∈ (splitLines (d.chars.take 19)).tail, firstMark? line ≠ some '/') ∧
      d.scanBackward 19 = (Lexer.tokenize d.chars 0 (some 19)).reverse := by
  intro d
  have htokens : Lexer.tokenize d.chars 0 (some 19) =
      [⟨.regexp, "/a/", 0⟩, ⟨.operator, ".", 3⟩, ⟨.identifier, "test", 4⟩, ⟨.operator, "(", 8⟩,
        ⟨.identifier, "b", 9⟩, ⟨.operator, ")", 10⟩, ⟨.operator, "+", 15⟩, ⟨.string, "'c", 17⟩] := by
    simp only [d]
    cbv
  have hreturn : '\r' ∉ d.chars := by decide
  have hfeed : ∀ t ∈ Lexer.tokenize d.chars 0 (some 19), '\n' ∉ t.text.toList := by
    rw [htokens]
    decide
  have hslash : ∀ line ∈ (splitLines (d.chars.take 19)).tail, firstMark? line ≠ some '/' := by
    decide +kernel
  exact ⟨hreturn, hfeed, hslash, scanBackward_eq_reverse_tokenize d 19 hreturn hfeed hslash⟩

end Document

end ModuleHints
