import ModuleHints.Source.Token

/-!
# Module candidates

A candidate is a module specifier that may stand in a `require` call. Where no quotation mark has been
typed, committing it inserts both; otherwise it inserts only the closing one, of the same kind.
-/

namespace ModuleHints

/-- Where a completion comes from. -/
inductive Origin where
  /-- A module of the runtime. -/
  | builtin
  /-- A module of the project. -/
  | project
  /-- A reserved word. -/
  | keyword
  /-- A name used in the document. -/
  | identifier
  deriving DecidableEq, Repr

/-- A module specifier on offer. -/
structure Candidate where
  /-- The specifier. -/
  display : String
  /-- One line about the module. -/
  description : String
  /-- Where the module comes from. -/
  origin : Origin
  deriving DecidableEq, Repr

namespace Candidate

/-- What a commit inserts after the quotation mark already typed, if any. -/
def insertion (c : Candidate) (quote : Option Quote) (defaultQuote : String) : String :=
  match quote with
  | none => defaultQuote ++ c.display ++ defaultQuote
  | some q => c.display.push q.char

/-- Whether the specifier is a path from the requiring file. -/
def isRelative (c : Candidate) : Bool := c.display.toList.head? == some '.'

/-- Relative specifiers come after all others; each group is in code point order. -/
def le (a b : Candidate) : Bool :=
  match a.isRelative, b.isRelative with
  | false, true => true
  | true, false => false
  | _, _ => a.display ≤ b.display

/-- Of two candidates one may come before the other. -/
theorem le_total (a b : Candidate) : (a.le b || b.le a) = true := by
  unfold le
  cases a.isRelative <;> cases b.isRelative <;> simp [String.le_total]

/-- The order of candidates is transitive. -/
theorem le_trans {a b c : Candidate} (hab : a.le b = true) (hbc : b.le c = true) :
    a.le c = true := by
  unfold le at *
  cases ha : a.isRelative <;> cases hb : b.isRelative <;> cases hc : c.isRelative <;> simp_all
  all_goals exact String.le_trans hab hbc

end Candidate

end ModuleHints
