import ModuleHints.Text.Pieces
import ModuleHints.Source.Lexer

/-!
# Documents

A document is a source text with its division into lines. Only a line feed ends a line; a carriage
return just before it is part of the line break too, so the extent of a line leaves it out. Offsets
and line numbers may be any integers: offsets are moved into the document, and lines that do not exist
have no extent.
-/

namespace ModuleHints

/-- The lines of a text, without the line feeds between them. There is always a first line. -/
def splitLines (cs : List Char) : List (List Char) := Text.pieces '\n' cs

/-- Number of characters of lines, with the line feed after each. -/
def lengthOfLines : List (List Char) → Nat
  | [] => 0
  | line :: rest => line.length + 1 + lengthOfLines rest

theorem splitLines_ne_nil (cs : List Char) : splitLines cs ≠ [] := Text.pieces_ne_nil '\n' cs

/-- With one line feed after the last line, the lines of a text make up the text. -/
theorem lengthOfLines_splitLines (cs : List Char) :
    lengthOfLines (splitLines cs) = cs.length + 1 := by
  rw [splitLines]
  induction cs with
  | nil => rfl
  | cons c rest ih =>
    rw [Text.pieces, List.length_cons]
    split
    next h =>
      rw [lengthOfLines, ih, List.length_nil]
      omega
    next h =>
      cases hp : Text.pieces '\n' rest with
      | nil => exact absurd hp (Text.pieces_ne_nil '\n' rest)
      | cons line lines =>
        rw [hp, lengthOfLines] at ih
        rw [List.modifyHead_cons, lengthOfLines, List.length_cons]
        omega

/-- A line without the carriage return at its end. -/
def withoutReturn (line : List Char) : List Char :=
  if line.getLast? = some '\r' then line.dropLast else line

/-- A line loses nothing but its end. -/
theorem withoutReturn_prefix (line : List Char) : withoutReturn line <+: line := by
  unfold withoutReturn
  split
  · exact List.dropLast_prefix line
  · exact List.prefix_refl line

/-- A source text. -/
structure Document where
  /-- The characters of the source. -/
  chars : List Char

namespace Document

/-- The document with the given text. -/
def ofString (s : String) : Document := ⟨s.toList⟩

/-- Number of characters. -/
def length (d : Document) : Nat := d.chars.length

/-- The lines of the document, without the line feeds between them. -/
def lines (d : Document) : List (List Char) := splitLines d.chars

/-- Number of lines: one more than there are line feeds. -/
def lineCount (d : Document) : Nat := d.lines.length

/-- The nearest offset inside the document. -/
def clamp (d : Document) (offset : Int) : Nat := min offset.toNat d.length

theorem clamp_le (d : Document) (offset : Int) : d.clamp offset ≤ d.length := Nat.min_le_right ..

theorem clamp_of_le {d : Document} {offset : Nat} (h : offset ≤ d.length) :
    d.clamp offset = offset := by
  rw [clamp, Int.toNat_natCast, Nat.min_eq_left h]

/-- Number of the line that holds an offset: how many line feeds come before it. -/
def lineNumber (d : Document) (offset : Int) : Nat := (d.chars.take (d.clamp offset)).count '\n'

/-- Every line but the last ends with a line feed. -/
theorem lineCount_eq (d : Document) : d.lineCount = d.chars.count '\n' + 1 :=
  Text.length_pieces '\n' d.chars

theorem lineNumber_lt (d : Document) (offset : Int) : d.lineNumber offset < d.lineCount := by
  rw [lineCount_eq]
  exact Nat.lt_succ_of_le ((List.take_sublist ..).count_le _)

/-- Offset of the first character of a line. -/
def lineStart (d : Document) (line : Nat) : Nat := lengthOfLines (d.lines.take line)

/-- The text of a line without its line break; nothing for a line that does not exist. -/
def lineText (d : Document) (line : Nat) : List Char :=
  let text := d.lines.getD line []
  if line + 1 < d.lineCount then withoutReturn text else text

/-- Offset of the end of a line, before its line break. -/
def lineStop (d : Document) (line : Nat) : Nat := d.lineStart line + (d.lineText line).length

/-- Start and end of a line, if it exists. -/
def lineExtent? (d : Document) (line : Nat) : Option (Nat × Nat) :=
  if line < d.lineCount then some (d.lineStart line, d.lineStop line) else none

/-- Why a line has no extent. -/
inductive LineError where
  /-- There is no such line. -/
  | missing
  /-- The number is greater than that of any line of any document. -/
  | tooGreat
  deriving DecidableEq, Repr

/-- Why a line has no extent, in words. -/
def LineError.message : LineError → String
  | missing => "list index out of range"
  | tooGreat => "cannot fit 'int' into an index-sized integer"

/-- The greatest number that a line could have. -/
def greatestLine : Nat := Nat.pow 2 63 - 1

/-- Start and end of a line, or why it has none. -/
def extentOf (d : Document) (line : Nat) : Except LineError (Nat × Nat) :=
  match d.lineExtent? line with
  | some extent => .ok extent
  | none => .error (if line ≤ greatestLine then .missing else .tooGreat)

/-- Offset of a line and character counted from zero, if there is such a place. -/
def offsetAt? (d : Document) (line character : Int) : Option Nat :=
  if 0 ≤ line ∧ line < d.lineCount ∧ 0 ≤ character ∧
      character ≤ (d.lineText line.toNat).length then
    some (d.lineStart line.toNat + character.toNat)
  else none

/-- Line and character of an offset, counted from zero. -/
def positionAt (d : Document) (offset : Int) : Nat × Nat :=
  let line := d.lineNumber offset
  (line, d.clamp offset - d.lineStart line)

/-- The characters between two offsets. -/
def slice (d : Document) (start stop : Int) : List Char :=
  (d.chars.take (d.clamp stop)).drop (d.clamp start)

/-- The tokens of exactly the characters between two offsets; a token that crosses the end is cut
there. -/
def classify (d : Document) (start stop : Int) : List Token :=
  Lexer.tokens d.chars (d.clamp start) (d.clamp stop)

/-- The characters before an offset. -/
def before (d : Document) (offset : Int) : List Char := d.chars.take (d.clamp offset)

end Document

end ModuleHints
