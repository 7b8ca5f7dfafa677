import ModuleHints.Source.Backward
import ModuleHints.Proofs.Lexing.Shapes
import ModuleHints.Proofs.Lexing.Truncation
import ModuleHints.Proofs.Source.Lines

/-!
# What a backward scan sees

A scan from a place sees the tokens of the part of its line before it, and behind them those of the
lines before. Only the former change when something is written at the place. Of what the document
says behind the place the scan sees nothing.
-/

namespace ModuleHints

/-- The tokens of lines that line breaks end, the first of which begins at an offset. -/
def endedTokens (offset : Nat) : List (List Char) → List Token
  | [] => []
  | line :: rest =>
    Lexer.tokensFrom none offset (withoutReturn line) ++ endedTokens (offset + line.length + 1) rest

/-- The last of several lines is the one that no line break ends. -/
theorem lineTokens_append_singleton (offset : Nat) (earlier : List (List Char)) (line : List Char) :
    lineTokens offset (earlier ++ [line]) =
      endedTokens offset earlier ++
        Lexer.tokensFrom none (offset + lengthOfLines earlier) line := by
  induction earlier generalizing offset with
  | nil => rfl
  | cons first earlier ih =>
    have hplace : offset + lengthOfLines (first :: earlier) =
        offset + first.length + 1 + lengthOfLines earlier := by
      rw [lengthOfLines]
      omega
    obtain ⟨next, rest, hnext⟩ :
        ∃ next rest, earlier ++ [line] = next :: rest := by
      cases earlier with
      | nil => exact ⟨line, [], rfl⟩
      | cons next rest => exact ⟨next, rest ++ [line], rfl⟩
    rw [List.cons_append, hnext, lineTokens, ← hnext, ih, endedTokens, List.append_assoc, hplace]

/-- Ended lines have the tokens of the first of them, and then those of the others. -/
theorem endedTokens_append (offset : Nat) (earlier later : List (List Char)) :
    endedTokens offset (earlier ++ later) =
      endedTokens offset earlier ++ endedTokens (offset + lengthOfLines earlier) later := by
  induction earlier generalizing offset with
  | nil => rfl
  | cons first earlier ih =>
    have hplace : offset + lengthOfLines (first :: earlier) =
        offset + first.length + 1 + lengthOfLines earlier := by
      rw [lengthOfLines]
      omega
    rw [List.cons_append, endedTokens, ih, endedTokens, List.append_assoc, hplace]

/-- Ended lines further to the right have the same tokens, moved as far. -/
theorem endedTokens_shift (n offset : Nat) (lines : List (List Char)) :
    endedTokens (offset + n) lines = (endedTokens offset lines).map (·.shift n) := by
  induction lines generalizing offset with
  | nil => rfl
  | cons line rest ih =>
    have hline := Lexer.tokensFrom_shift n none offset (withoutReturn line)
    have hplace : offset + n + line.length + 1 = offset + line.length + 1 + n := by omega
    rw [Option.map_none] at hline
    rw [endedTokens, hline, hplace, ih, endedTokens, List.map_append]

/-- A line that a line break ends has no token behind that. -/
theorem stop_lt_of_mem_endedTokens {offset : Nat} {lines : List (List Char)} {t : Token}
    (h : t ∈ endedTokens offset lines) :
    t.start < t.stop ∧ t.stop < offset + lengthOfLines lines := by
  induction lines generalizing offset with
  | nil => cases h
  | cons line rest ih =>
    rw [lengthOfLines]
    rcases List.mem_append.mp h with h | h
    · have hstop := Lexer.stop_le_of_mem h
      have hprefix := withoutReturn_prefix line
      have hlen := hprefix.length_le
      exact ⟨Lexer.start_lt_stop_of_mem h, by omega⟩
    · obtain ⟨hpos, hstop⟩ := ih h
      exact ⟨hpos, by omega⟩

namespace Document

/-- A token of a range shows the characters of its place. -/
theorem text_of_mem_tokens {d : Document} {start stop : Nat} {t : Token}
    (h : t ∈ Lexer.tokens d.chars start stop) : t.text.toList = d.slice t.start t.stop := by
  have hinside := Lexer.stop_le_length_of_mem_tokens h
  have hpos := Lexer.start_lt_stop_of_mem h
  rw [slice, clamp_of_le hinside, clamp_of_le (hpos.le.trans hinside), (Lexer.mem_tokens h).2.2]

theorem scanBackward_clamp (d : Document) (cursor : Int) :
    d.scanBackward (d.clamp cursor) = d.scanBackward cursor := by
  rw [scanBackward, scanBackward, before, before, clamp_clamp]

namespace LinesAround

variable {d : Document} {place : Nat} {earlier later : List (List Char)} {before after : List Char}

/-- A scan sees the part of the line before the place, and the lines before it. -/
theorem scanBackward_eq (h : d.LinesAround place earlier before after later) :
    d.scanBackward place =
      (Lexer.tokensFrom none (lengthOfLines earlier) before).reverse ++
        (endedTokens 0 earlier).reverse := by
  rw [scanBackward, Document.before, clamp_of_le h.le, scanText, h.before_eq,
    lineTokens_append_singleton, List.reverse_append, Nat.zero_add]

end LinesAround

variable {d : Document} {place : Nat} {t : Token}

/-- A scan sees nothing behind the place. -/
theorem stop_le_of_mem_scanBackward (h : place ≤ d.length) (ht : t ∈ d.scanBackward place) :
    t.start < t.stop ∧ t.stop ≤ place := by
  obtain ⟨earlier, before, after, later, hlines⟩ := exists_linesAround h
  rw [hlines.scanBackward_eq, List.mem_append, List.mem_reverse, List.mem_reverse] at ht
  rw [hlines.place_eq]
  rcases ht with ht | ht
  · exact ⟨Lexer.start_lt_stop_of_mem ht, Lexer.stop_le_of_mem ht⟩
  · obtain ⟨hpos, hstop⟩ := stop_lt_of_mem_endedTokens ht
    exact ⟨hpos, by omega⟩

end Document

end ModuleHints
