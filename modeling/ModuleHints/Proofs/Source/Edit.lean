import ModuleHints.Source.Span
import ModuleHints.Proofs.Source.Scan

/-!
# Edits

An edit of a document replaces the text of a span. What stands before the span keeps its place, and
so do its lines. A character that is typed goes in at an empty span; a scan from behind it sees a
token more than before, or its last token longer by the character.
-/

namespace ModuleHints

open Unicode

namespace Document

/-- The document in which the text of a span is another. -/
def replace (d : Document) (span : Span) (text : List Char) : Document :=
  ⟨d.before span.start ++ text ++ d.chars.drop (d.clamp span.stop)⟩

/-- The document in which a character has been typed at a place. -/
def insert (d : Document) (place : Nat) (c : Char) : Document := d.replace (.empty place) [c]

variable {d : Document} {place : Nat}

/-- A typed character stands between what was before its place and what was after it. -/
theorem chars_insert (h : place ≤ d.length) (c : Char) :
    (d.insert place c).chars = d.chars.take place ++ c :: d.chars.drop place := by
  have hstop : d.clamp (Span.empty place).stop = place := by
    simp [Span.stop, Span.empty, clamp_of_le h]
  have hstart : d.clamp (Span.empty place).start = place := clamp_of_le h
  rw [insert, replace, before, hstart, hstop, List.append_assoc, List.singleton_append]

/-- A typed character makes the document longer by one. -/
theorem length_insert (h : place ≤ d.length) (c : Char) :
    (d.insert place c).length = d.length + 1 := by
  have hlen : (d.chars.take place).length + (d.chars.drop place).length = d.chars.length := by
    rw [← List.length_append, List.take_append_drop]
  rw [length, chars_insert h, List.length_append, List.length_cons, ← Nat.add_assoc, hlen, length]

theorem take_insert_succ (h : place ≤ d.length) (c : Char) :
    (d.insert place c).chars.take (place + 1) = d.chars.take place ++ [c] := by
  have hlen : (d.chars.take place ++ [c]).length = place + 1 := by
    rw [List.length_append, List.length_take_of_le h, List.length_singleton]
  rw [chars_insert h, ← List.singleton_append, ← List.append_assoc, ← hlen, List.take_left]

/-- Of the lines around the place of a typed character, the cursor's own begins as before and goes
on with the character. -/
theorem LinesAround.insert {earlier later : List (List Char)} {before after : List Char}
    (h : d.LinesAround place earlier before after later) {c : Char} (hc : c ≠ '\n') :
    (d.insert place c).LinesAround (place + 1) earlier (before ++ [c]) after later where
  le := by
    rw [length_insert h.le]
    exact Nat.succ_le_succ h.le
  before_eq := by
    rw [take_insert_succ h.le]
    exact splitLines_append_right (by simpa using Ne.symm hc) h.before_eq
  after_eq := by
    have hlen : (d.chars.take place ++ [c]).length = place + 1 := by
      rw [List.length_append, List.length_take_of_le h.le, List.length_singleton]
    rw [chars_insert h.le, ← List.singleton_append, ← List.append_assoc, ← hlen, List.drop_left,
      h.after_eq]

end Document

end ModuleHints
