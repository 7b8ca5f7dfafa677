import ModuleHints.Source.Document

/-!
# Positions of a client

A client names a place by its line and by code units of some encoding from the beginning of the line. A
place inside the units of one character means the place after it.
-/

namespace ModuleHints.Server

/-- How a client counts. -/
inductive Encoding where
  /-- In bytes. -/
  | utf8
  /-- In units of sixteen bits. -/
  | utf16
  /-- In characters. -/
  | utf32
  deriving DecidableEq, Repr

namespace Encoding

/-- The encoding with the given name. -/
def ofName : String → Encoding
  | "utf-8" => utf8
  | "utf-32" => utf32
  | _ => utf16

/-- Number of code units of a character. -/
def unitsOf (e : Encoding) (c : Char) : Nat :=
  match e with
  | utf8 => c.utf8Size
  | utf16 => if c.toNat < 0x10000 then 1 else 2
  | utf32 => 1

/-- Number of code units of a text. -/
def units (e : Encoding) : List Char → Nat
  | [] => 0
  | c :: rest => e.unitsOf c + e.units rest

/-- Every character takes up a code unit. -/
theorem unitsOf_pos (e : Encoding) (c : Char) : 0 < e.unitsOf c := by
  cases e with
  | utf8 => exact c.utf8Size_pos
  | utf16 =>
    rw [unitsOf]
    split <;> decide
  | utf32 => exact Nat.one_pos

theorem units_append (e : Encoding) (cs ds : List Char) :
    e.units (cs ++ ds) = e.units cs + e.units ds := by
  induction cs with
  | nil => simp [units]
  | cons c rest ih => rw [List.cons_append, units, units, ih, Nat.add_assoc]

/-- How many characters of a line take up at least the given number of units, if the line is that
long. -/
def characters? (e : Encoding) : Nat → List Char → Option Nat
  | 0, _ => some 0
  | _ + 1, [] => none
  | wanted + 1, c :: rest => (e.characters? (wanted + 1 - e.unitsOf c) rest).map (· + 1)

end Encoding

/-- A place as a client names it. -/
structure Position where
  /-- The line, counted from zero. -/
  line : Nat
  /-- Code units before the place on its line. -/
  character : Nat
  deriving DecidableEq, Repr

/-- The offset of a place that a client names, if there is such a place. -/
def offsetAt? (d : Document) (e : Encoding) (p : Position) : Option Nat :=
  if p.line < d.lineCount then
    (e.characters? p.character (d.lineText p.line)).map fun n => d.lineStart p.line + n
  else none

/-- The name of an offset. -/
def positionAt (d : Document) (e : Encoding) (offset : Int) : Position :=
  let place := d.positionAt offset
  let start := d.lineStart place.1
  ⟨place.1, e.units (d.slice start (start + place.2))⟩

end ModuleHints.Server
