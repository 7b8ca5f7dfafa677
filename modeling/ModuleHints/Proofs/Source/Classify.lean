import ModuleHints.Require.Argument
import ModuleHints.Proofs.Source.Scan

/-!
# The tokens of a line

The tokens of a line are those of what it says. Where no token crosses a place of the line, the
tokens that begin before the place are those of the text before it, and a token begins at the place.
-/

namespace ModuleHints

namespace Lexer

variable {last : Option Token} {offset : Nat}

/-- All tokens of a text begin before its end. -/
theorem filter_start_lt_eq_self {place : Nat} {cs : List Char} (h : offset + cs.length ≤ place) :
    (tokensFrom last offset cs).filter (·.start < place) = tokensFrom last offset cs := by
  rw [List.filter_eq_self]
  intro t ht
  have hpos := start_lt_stop_of_mem ht
  have hstop := stop_le_of_mem ht
  simp only [decide_eq_true_eq]
  omega

/-- Where a text is lexed in two pieces, the tokens that begin before the second piece are those of
the first. -/
theorem filter_append (last' : Option Token) (w x : List Char) :
    (tokensFrom last offset w ++ tokensFrom last' (offset + w.length) x).filter
      (·.start < offset + w.length) = tokensFrom last offset w := by
  rw [List.filter_append, filter_start_lt_eq_self le_rfl, filter_start_lt_eq_nil le_rfl,
    List.append_nil]

end Lexer

namespace Document

/-- The tokens of a line. -/
def classifyLine (d : Document) (line : Nat) : List Token :=
  d.classify (d.lineStart line) (d.lineStop line)

namespace LinesAround

variable {d : Document} {place : Nat} {earlier later : List (List Char)} {before after : List Char}

/-- What the line says begins the rest of the document there. -/
theorem lineText_prefix (h : d.LinesAround place earlier before after later) :
    d.lineText earlier.length <+: before ++ after := by
  rw [h.lineText_eq]
  split
  · exact List.prefix_refl _
  · exact withoutReturn_prefix _

/-- A place in what the line says has the lines around it that the line has. -/
theorem at_lineText (h : d.LinesAround place earlier before after later) {n : Nat}
    (hn : n ≤ (d.lineText earlier.length).length) :
    ∃ rest, d.LinesAround (lengthOfLines earlier + n) earlier ((d.lineText earlier.length).take n)
      rest later := by
  obtain ⟨rest, hrest⟩ := h.lineText_prefix
  have hline : n ≤ (before ++ after).length := by
    rw [← hrest, List.length_append]
    omega
  have hplace := h.at_place hline
  rw [← hrest, List.take_append_of_le_length hn] at hplace
  exact ⟨_, hplace⟩

/-- The line ends in the document. -/
theorem lineStop_le (h : d.LinesAround place earlier before after later) :
    d.lineStop earlier.length ≤ d.length := by
  obtain ⟨tail, htail⟩ := List.prefix_iff_eq_take.mpr (take_of_splitLines h.after_eq).symm
  have hle := congrArg List.length htail
  have hprefix := h.lineText_prefix
  have hlen := hprefix.length_le
  have hplace := h.place_eq
  have hplace' := h.le
  rw [List.length_append, List.length_drop] at hle
  rw [List.length_append] at hlen
  rw [lineStop, h.lineStart_eq, length] at *
  omega

/-- The characters of the line from its beginning to its end. -/
theorem slice_line_eq (h : d.LinesAround place earlier before after later) :
    (d.chars.take (d.lineStop earlier.length)).drop (lengthOfLines earlier) =
      d.lineText earlier.length := by
  have hprefix := h.lineText_prefix
  rw [lineStop, h.lineStart_eq, h.slice_eq hprefix.length_le]
  exact (List.prefix_iff_eq_take.mp hprefix).symm

/-- The tokens of a part of the line begin and end on it. -/
theorem lineNumber_of_mem (h : d.LinesAround place earlier before after later) {text : List Char}
    (htext : text <+: before ++ after) {t : Token}
    (ht : t ∈ Lexer.tokensFrom none (lengthOfLines earlier) text) :
    d.lineNumber t.start = earlier.length ∧ d.lineNumber t.stop = earlier.length := by
  have hlen := htext.length_le
  have hpos := Lexer.start_lt_stop_of_mem ht
  have hstop := Lexer.stop_le_of_mem ht
  obtain ⟨m, hm⟩ := Nat.exists_eq_add_of_le (Lexer.le_start_of_mem ht)
  obtain ⟨n, hn⟩ := Nat.exists_eq_add_of_le ((Lexer.le_start_of_mem ht).trans hpos.le)
  rw [hm, hn]
  exact ⟨h.lineNumber_add (by omega), h.lineNumber_add (by omega)⟩

/-- The tokens of a line are those of what it says. -/
theorem classifyLine_eq (h : d.LinesAround place earlier before after later) :
    d.classifyLine earlier.length =
      Lexer.tokensFrom none (lengthOfLines earlier) (d.lineText earlier.length) := by
  have hstart : lengthOfLines earlier ≤ d.length := by
    have hplace := h.place_eq
    have hle := h.le
    omega
  rw [classifyLine, classify, h.lineStart_eq, clamp_of_le hstart, clamp_of_le h.lineStop_le,
    Lexer.tokens, h.slice_line_eq]

/-- The literal at a place is the first token of what the line says from there on. -/
theorem literalAt?_eq (h : d.LinesAround place earlier before after later) :
    d.literalAt? place =
      (Lexer.tokensFrom none place ((d.lineText earlier.length).drop before.length)).head? := by
  have hchars : (d.chars.take (d.lineStop earlier.length)).drop place =
      (d.lineText earlier.length).drop before.length := by
    rw [← h.slice_line_eq, List.drop_drop, ← h.place_eq]
  rw [literalAt?, classify, h.lineNumber_eq, clamp_of_le h.le, clamp_of_le h.lineStop_le,
    Lexer.tokens, hchars]

end LinesAround

end Document

end ModuleHints
