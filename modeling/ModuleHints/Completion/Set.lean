import ModuleHints.Source.Span
import ModuleHints.Catalog.Candidate

/-!
# Completion sets

A completion set is what one request answers: items in the order in which they are offered, and the
span that each of them replaces. Module candidates are merged by a stable sort, so equal specifiers
stay in the order given, and none is lost or added.
-/

namespace ModuleHints

/-- What a completion set completes. -/
inductive SetKind where
  /-- The argument of a `require` call. -/
  | modules
  /-- A word of the program. -/
  | words
  deriving DecidableEq, Repr

/-- The name that a set is known by. -/
def SetKind.moniker : SetKind → String
  | .modules => "Node.js require"
  | .words => "JavaScript"

/-- One completion on offer. -/
structure Item where
  /-- The text shown. -/
  display : String
  /-- The text that a commit inserts. -/
  insertion : String
  /-- One line about the item. -/
  description : String
  /-- Where the item comes from. -/
  origin : Origin
  deriving DecidableEq, Repr

/-- The completions of one request. -/
structure CompletionSet where
  /-- What is completed. -/
  kind : SetKind
  /-- The text that a commit replaces. -/
  span : Span
  /-- The completions in the order of offer. -/
  items : List Item
  deriving DecidableEq, Repr

/-- The item of a candidate. -/
def Candidate.item (quote : Option Quote) (defaultQuote : String) (c : Candidate) : Item :=
  ⟨c.display, c.insertion quote defaultQuote, c.description, c.origin⟩

/-- The candidates of the runtime and of the project as one set. -/
def assemble (builtins project : List Candidate) (quote : Option Quote) (span : Span)
    (defaultQuote : String) : CompletionSet :=
  { kind := .modules
    span := span
    items := ((builtins ++ project).mergeSort Candidate.le).map (Candidate.item quote defaultQuote) }

/-- No candidate is lost or added. -/
theorem length_items_assemble (builtins project : List Candidate) (quote : Option Quote)
    (span : Span) (defaultQuote : String) :
    (assemble builtins project quote span defaultQuote).items.length =
      builtins.length + project.length := by
  simp [assemble]

end ModuleHints
