import ModuleHints.Completion.Set
import ModuleHints.Server.Position

/-!
# Answers to a client

A client gets a completion set as a list of edits. It sorts them by a text of its own, which therefore
counts them.
-/

namespace ModuleHints.Server

/-- A stretch of text as a client names it. -/
structure Range where
  /-- Where it begins. -/
  start : Position
  /-- Where it ends. -/
  stop : Position
  deriving DecidableEq, Repr

/-- One completion as a client gets it. -/
structure Entry where
  /-- The text shown. -/
  label : String
  /-- Where it comes from, which decides the picture shown. -/
  origin : Origin
  /-- One line about it. -/
  detail : String
  /-- The text to sort by. -/
  sortText : String
  /-- The text that is replaced. -/
  range : Range
  /-- The text that is inserted. -/
  newText : String
  deriving DecidableEq, Repr

/-- The number by which clients know an origin. -/
def originNumber : Origin → Nat
  | .builtin => 9
  | .project => 17
  | .keyword => 14
  | .identifier => 6

/-- The text to sort the item at a place by: its number in at least five digits. -/
def sortText (index : Nat) : String :=
  let digits := Nat.toDigits 10 index
  String.ofList (List.replicate (5 - digits.length) '0' ++ digits)

theorem five_le_length_sortText (index : Nat) : 5 ≤ (sortText index).length := by
  simp only [sortText, String.length_ofList, List.length_append, List.length_replicate]
  omega

/-- A span as a client names it. -/
def rangeOf (d : Document) (e : Encoding) (span : Span) : Range :=
  ⟨positionAt d e span.start, positionAt d e span.stop⟩

/-- The entry of the item at a place. -/
def entry (range : Range) (item : Item) (index : Nat) : Entry :=
  ⟨item.display, item.origin, item.description, sortText index, range, item.insertion⟩

/-- A completion set as a client gets it. -/
def entries (d : Document) (e : Encoding) (set : CompletionSet) : List Entry :=
  let range := rangeOf d e set.span
  set.items.zipIdx.map fun (item, index) => entry range item index

end ModuleHints.Server
