import ModuleHints.Text.Lines
import ModuleHints.Source.Document

/-!
# Naming a cursor

A cursor is named by its offset, or by its line and column counted from one. A place that does not
exist is refused with an excerpt of the source: the line that was named, and a caret under the column,
or just past the end of the line where the column overshoots it.
-/

namespace ModuleHints

/-- A message about a place in a source, with the named line and a caret under the named column. -/
def excerpt (message : String) (line column : Int) (source : List Char) (file : String) : String :=
  let lines := Text.visibleLines source
  let shown := if 1 ≤ line then lines.getD (line - 1).toNat [] else []
  let indent := (max 1 (min column (shown.length + 1)) - 1).toNat
  let number := toString line
  let gutter := String.ofList (List.replicate (number.length + 1) ' ')
  "error: " ++ message ++ "\n" ++
    gutter ++ "--> " ++ file ++ ":" ++ number ++ ":" ++ toString column ++ "\n" ++
    gutter ++ "|\n" ++
    number ++ " | " ++ String.ofList shown ++ "\n" ++
    gutter ++ "| " ++ String.ofList (List.replicate indent ' ') ++ "^"

/-- Why a cursor was refused. -/
inductive CursorFault where
  /-- The offset lies outside the document. -/
  | outside (offset : Int)
  /-- Neither an offset nor a line with a column was given. -/
  | unnamed
  /-- There is no such line, or the line has no such column. -/
  | noPosition (line column : Int)
  deriving DecidableEq, Repr

/-- The text of a refusal. -/
def CursorFault.message : CursorFault → String
  | .outside offset => "offset " ++ toString offset ++ " is outside the file"
  | .unnamed => "no position given: use --offset, or --line with --column"
  | .noPosition line column =>
    "no position at line " ++ toString line ++ ", column " ++ toString column

/-- A refused cursor, with the place that its excerpt shows. -/
structure CursorError where
  /-- Why it was refused. -/
  fault : CursorFault
  /-- The line shown, counted from one. -/
  line : Int
  /-- The column of the caret, counted from one. -/
  column : Int
  deriving DecidableEq, Repr

/-- The excerpt for a refused cursor in the named file. -/
def CursorError.render (e : CursorError) (d : Document) (file : String) : String :=
  excerpt e.fault.message e.line e.column d.chars file

/-- How a request names its cursor. -/
structure CursorName where
  /-- Characters before the cursor. -/
  offset : Option Int := none
  /-- The cursor's line, counted from one. -/
  line : Option Int := none
  /-- The cursor's column, counted from one. -/
  column : Option Int := none
  deriving DecidableEq, Repr

/-- The offset that a line and column name. -/
def Document.atLineColumn (d : Document) (line column : Int) : Except CursorError Nat :=
  match d.offsetAt? (line - 1) (column - 1) with
  | some offset => .ok offset
  | none => .error ⟨.noPosition line column, line, column⟩

/-- The offset of a named cursor. An offset wins over a line and column. -/
def Document.resolve (d : Document) (name : CursorName) : Except CursorError Nat :=
  match name.offset, name.line, name.column with
  | some offset, _, _ =>
    if 0 ≤ offset ∧ offset ≤ d.length then .ok offset.toNat
    else
      let position := d.positionAt offset
      .error ⟨.outside offset, position.1 + 1, position.2 + 1⟩
  | none, some line, some column => d.atLineColumn line column
  | none, _, _ => .error ⟨.unnamed, 1, 1⟩

end ModuleHints
