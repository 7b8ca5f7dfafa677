import Mathlib
import ModuleHints.Proofs.Completion.Touching

/-!
# The word before a cursor

The word at a cursor is looked for among the tokens of the whole line, while a scan lexes the line
only as far as the cursor. Where the word begins before the cursor, both find the same: a cut changes
what a token says and where it stops, but neither where it begins nor whether it may be completed.
-/

namespace ModuleHints

open Unicode

/-- In a list of at most one entry, that is the first. -/
theorem mem_head?_of_length_le_one {α : Type} {entries : List α} (h : entries.length ≤ 1) {a : α}
    (ha : a ∈ entries) : a ∈ entries.head? := by
  match entries, h with
  | [_], _ => simpa [eq_comm] using ha

namespace Lexer

/-- The word at a position, if it begins before the position, is the last token that does. -/
theorem mem_words_before_iff (last : Option Token) (offset : Nat) (cs : List Char)
    {position : Nat} {t : Token} :
    t ∈ ((tokensFrom last offset cs).filter (·.isWordAt position)).head? ∧ t.start < position ↔
      t ∈ ((tokensFrom last offset cs).filter (·.start < position)).reverse.head? ∧
        position ≤ t.stop ∧ t.canComplete = true := by
  constructor
  · rintro ⟨ht, hlt⟩
    obtain ⟨hmem, hword⟩ := List.mem_filter.mp (List.mem_of_mem_head? ht)
    obtain ⟨hcan, -, hreach⟩ := Token.isWordAt_iff.mp hword
    obtain ⟨earlier, later, hsplit⟩ := List.append_of_mem hmem
    rw [hsplit, (isBetween_of_split hsplit).filter_start_lt hlt.le hreach, if_pos hlt,
      List.reverse_append]
    exact ⟨rfl, hreach, hcan⟩
  · rintro ⟨ht, hreach, hcan⟩
    obtain ⟨hmem, hlt⟩ := List.mem_filter.mp (List.mem_reverse.mp (List.mem_of_mem_head? ht))
    rw [decide_eq_true_eq] at hlt
    have hword : t ∈ (tokensFrom last offset cs).filter (·.isWordAt position) :=
      List.mem_filter.mpr ⟨hmem, Token.isWordAt_iff.mpr ⟨hcan, hlt.le, hreach⟩⟩
    exact ⟨mem_head?_of_length_le_one (length_filter_isWordAt_le_one ..) hword, hlt⟩

/-- A cut keeps a word that reaches it: the word stops there, begins where it did and may still be
completed. -/
theorem exists_reaching_iff_of_cut {place : Nat} {whole left : List Token}
    (h : List.Forall₂ (Token.IsCutAt place) whole left)
    (hwhole : ∀ t ∈ whole, IsLexeme t ∧ t.start < place) (hleft : ∀ u ∈ left, IsLexeme u)
    (start : Int) :
    (∃ t ∈ whole.head?, place ≤ t.stop ∧ t.canComplete = true ∧ t.start = start) ↔
      ∃ u ∈ left.head?, u.stop = place ∧ u.canComplete = true ∧ u.start = start := by
  cases h with
  | nil => simp
  | @cons t u _ _ hcut _ =>
    obtain ⟨hlex, hlt⟩ := hwhole t (List.mem_cons_self ..)
    have hstop := hcut.stop_eq hlt.le
    have hcan := canComplete_of_isCutAt hcut hlex (hleft u (List.mem_cons_self ..))
    have hreach : u.stop = place ↔ place ≤ t.stop := by omega
    simp [hcut.start_eq, hcan, hreach]

/-- A token that takes up the carriage return at the end of a text is no word. -/
theorem canComplete_eq_false_of_return {last : Option Token} {offset : Nat} {cs : List Char}
    {t : Token} (ht : t ∈ tokensFrom last offset (cs ++ ['\r']))
    (hstop : t.stop = offset + cs.length + 1) : t.canComplete = false := by
  have hpos := start_lt_stop_of_mem ht
  have hreturn : (cs ++ ['\r'])[cs.length]? = some '\r' := List.getElem?_concat_length
  have hhas : t.Has (offset + cs.length) := ⟨by omega, by omega⟩
  have hmem := mem_text_of_has ht hreturn hhas
  by_contra hcan
  rw [Bool.not_eq_false] at hcan
  have hchar := (isLexeme_of_mem ht).isIdentChar_of_mem hcan hmem
  exact absurd hchar (by decide +kernel)

end Lexer

namespace Document

variable {d : Document} {place : Nat}

namespace LinesAround

variable {earlier later : List (List Char)} {before after : List Char}

/-- The word that begins before a place of a line is the last token of the line that does, if that
reaches the place and may be completed. -/
theorem wordSpan?_before_iff (h : d.LinesAround place earlier before after later) (span : Span) :
    d.wordSpan? place = some span ∧ span.start < place ↔
      ∃ t ∈ ((Lexer.tokensFrom none (lengthOfLines earlier)
          (d.lineText earlier.length)).filter (·.start < place)).reverse.head?,
        place ≤ t.stop ∧ t.canComplete = true ∧ span = .ofToken t := by
  rw [h.wordSpan?_eq, Lexer.wordAmong_tokensFrom_eq, Option.map_eq_some_iff]
  constructor
  · rintro ⟨⟨t, ht, rfl⟩, hlt⟩
    obtain ⟨hlast, hreach, hcan⟩ :=
      (Lexer.mem_words_before_iff ..).mp ⟨ht, Int.ofNat_lt.mp hlt⟩
    exact ⟨t, hlast, hreach, hcan, rfl⟩
  · rintro ⟨t, ht, hreach, hcan, rfl⟩
    obtain ⟨hword, hlt⟩ := (Lexer.mem_words_before_iff ..).mpr ⟨ht, hreach, hcan⟩
    exact ⟨⟨t, hword, rfl⟩, Int.ofNat_lt.mpr hlt⟩

/-- A scan sees a token that stops at the place nearest exactly where the part of the line before the
place ends with it. -/
theorem mem_head?_scanBackward_iff (h : d.LinesAround place earlier before after later) {t : Token}
    (hstop : t.stop = place) :
    t ∈ (d.scanBackward place).head? ↔
      t ∈ (Lexer.tokensFrom none (lengthOfLines earlier) before).reverse.head? := by
  rw [h.scanBackward_eq, List.head?_append]
  cases hlast : (Lexer.tokensFrom none (lengthOfLines earlier) before).reverse.head? with
  | some u => rw [Option.some_or]
  | none =>
    rw [Option.none_or]
    constructor
    · intro ht
      have hmem := List.mem_reverse.mp (List.mem_of_mem_head? ht)
      obtain ⟨-, hlt⟩ := stop_lt_of_mem_endedTokens hmem
      have hplace := h.place_eq
      omega
    · intro ht
      cases ht

/-- The word that reaches a place of a line is, up to the place, the last token before it. -/
theorem exists_reaching_iff (h : d.LinesAround place earlier before after later) (start : Int) :
    (∃ t ∈ ((Lexer.tokensFrom none (lengthOfLines earlier)
        (d.lineText earlier.length)).filter (·.start < place)).reverse.head?,
      place ≤ t.stop ∧ t.canComplete = true ∧ t.start = start) ↔
    ∃ u ∈ (Lexer.tokensFrom none (lengthOfLines earlier) before).reverse.head?,
      u.stop = place ∧ u.canComplete = true ∧ u.start = start := by
  have hplace := h.place_eq
  rcases h.lineText_cases with ⟨rest, htext⟩ | hbefore
  · have hcut := Lexer.tokensFrom_take none (lengthOfLines earlier) (d.lineText earlier.length)
      before.length
    have hleft : (d.lineText earlier.length).take before.length = before := by
      rw [htext, List.take_left]
    rw [← hplace, hleft] at hcut
    refine Lexer.exists_reaching_iff_of_cut (List.rel_reverse hcut) ?_ ?_ start
    · intro t ht
      obtain ⟨hmem, hlt⟩ := List.mem_filter.mp (List.mem_reverse.mp ht)
      exact ⟨Lexer.isLexeme_of_mem hmem, by simpa using hlt⟩
    · exact fun u hu => Lexer.isLexeme_of_mem (List.mem_reverse.mp hu)
  · have hlen := congrArg List.length hbefore
    rw [List.length_append, List.length_singleton] at hlen
    constructor
    · rintro ⟨t, ht, hreach, -⟩
      have hmem := (List.mem_filter.mp (List.mem_reverse.mp (List.mem_of_mem_head? ht))).1
      have hstop := Lexer.stop_le_of_mem hmem
      omega
    · rintro ⟨u, hu, hstop, hcan, -⟩
      have hmem := List.mem_reverse.mp (List.mem_of_mem_head? hu)
      have hpos := Lexer.start_lt_stop_of_mem hmem
      rw [hbefore] at hmem
      have hword := Lexer.canComplete_eq_false_of_return hmem (by omega)
      rw [hcan] at hword
      cases hword

/-- The word that begins before a place of a line is the token that a scan from the place sees first,
taken whole. -/
theorem exists_wordSpan?_iff (h : d.LinesAround place earlier before after later) (start : Int) :
    (∃ span ∈ d.wordSpan? place, span.start < place ∧ span.start = start) ↔
      ∃ u ∈ (d.scanBackward place).head?,
        u.stop = place ∧ u.canComplete = true ∧ u.start = start := by
  have hreaching := h.exists_reaching_iff start
  constructor
  · rintro ⟨span, hspan, hbefore, hstart⟩
    obtain ⟨t, ht, hreach, hcan, rfl⟩ := (h.wordSpan?_before_iff span).mp ⟨hspan, hbefore⟩
    obtain ⟨u, hu, hstop, hword⟩ := hreaching.mp ⟨t, ht, hreach, hcan, hstart⟩
    exact ⟨u, (h.mem_head?_scanBackward_iff hstop).mpr hu, hstop, hword⟩
  · rintro ⟨u, hu, hstop, hword⟩
    obtain ⟨t, ht, hreach, hcan, hstart⟩ :=
      hreaching.mpr ⟨u, (h.mem_head?_scanBackward_iff hstop).mp hu, hstop, hword⟩
    obtain ⟨hspan, hbefore⟩ := (h.wordSpan?_before_iff _).mpr ⟨t, ht, hreach, hcan, rfl⟩
    exact ⟨_, hspan, hbefore, hstart⟩

end LinesAround

/-- A position has a word that begins before it exactly where the token that a scan from there sees
first may be completed and stops at the position. The word begins with that token, which is the text
from there to the position. -/
theorem wordSpan?_agrees_scanBackward (d : Document) (position : Int) :
    ((∃ span ∈ d.wordSpan? position, span.start < position) ↔
      ∃ t ∈ (d.scanBackward position).head?, t.stop = position ∧ t.canComplete = true) ∧
    ∀ span ∈ d.wordSpan? position, span.start < position →
      ∃ t ∈ (d.scanBackward position).head?, t.stop = position ∧ t.canComplete = true ∧
        span.start = t.start ∧ t.text.toList = d.slice span.start position := by
  by_cases hinside : 0 ≤ position ∧ position ≤ d.length
  · obtain ⟨place, rfl⟩ := Int.eq_ofNat_of_zero_le hinside.1
    obtain ⟨earlier, before, after, later, h⟩ := exists_linesAround (Int.ofNat_le.mp hinside.2)
    constructor
    · constructor
      · rintro ⟨span, hspan, hbefore⟩
        obtain ⟨t, ht, hstop, hcan, -⟩ :=
          (h.exists_wordSpan?_iff span.start).mp ⟨span, hspan, hbefore, rfl⟩
        exact ⟨t, ht, congrArg Int.ofNat hstop, hcan⟩
      · rintro ⟨t, ht, hstop, hcan⟩
        obtain ⟨span, hspan, hbefore, -⟩ :=
          (h.exists_wordSpan?_iff t.start).mpr ⟨t, ht, Int.ofNat_inj.mp hstop, hcan, rfl⟩
        exact ⟨span, hspan, hbefore⟩
    · intro span hspan hbefore
      obtain ⟨t, ht, hstop, hcan, hstart⟩ :=
        (h.exists_wordSpan?_iff span.start).mp ⟨span, hspan, hbefore, rfl⟩
      have htext := text_of_mem_scanBackward (List.mem_of_mem_head? ht)
      rw [hstart, hstop] at htext
      exact ⟨t, ht, congrArg Int.ofNat hstop, hcan, hstart.symm, htext⟩
  · have hnone : d.wordSpan? position = none := by
      rw [wordSpan?, if_neg hinside]
    have hstop : ∀ t ∈ (d.scanBackward position).head?, (t.stop : Int) ≠ position := by
      intro t ht heq
      have hmem := List.mem_of_mem_head? ht
      rw [← scanBackward_clamp] at hmem
      have hle := (stop_le_of_mem_scanBackward (d.clamp_le position) hmem).2
      have hclamp := d.clamp_le position
      omega
    rw [hnone]
    constructor
    · constructor
      · rintro ⟨span, hspan, -⟩
        cases hspan
      · rintro ⟨t, ht, heq, -⟩
        exact absurd heq (hstop t ht)
    · intro span hspan
      cases hspan

/-- A position in a word that reads as another kind of token up to there. -/
theorem wordSpan?_agrees_scanBackward_in_instance :
    let d := ofString "a = instance\r\n"
    ⟨4, 8⟩ ∈ d.wordSpan? 6 ∧ (4 : Int) < 6 ∧
      (d.scanBackward 6).head? = some ⟨.keyword, "in", 4⟩ ∧
      ∃ t ∈ (d.scanBackward 6).head?, t.stop = (6 : Int) ∧ t.canComplete = true ∧
        (4 : Int) = t.start ∧ t.text.toList = d.slice 4 6 := by
  intro d
  have hspan : ⟨4, 8⟩ ∈ d.wordSpan? 6 := by
    simp only [d]
    cbv
  have hbefore : (4 : Int) < 6 := by decide
  have hhead : (d.scanBackward 6).head? = some ⟨.keyword, "in", 4⟩ := by
    simp only [d]
    cbv
  exact ⟨hspan, hbefore, hhead, (wordSpan?_agrees_scanBackward d 6).2 ⟨4, 8⟩ hspan hbefore⟩

end Document

end ModuleHints
