import ModuleHints.Settings.Basic
import ModuleHints.Source.Span
import ModuleHints.Require.Trigger
import ModuleHints.Project.Basic

/-!
# Notes

Requests leave notes of what they decided and found. A note has a source and a level; the outer layers
show those from a level up.
-/

namespace ModuleHints

/-- Something a request decided or found. -/
inductive Note where
  /-- A `require` call around the cursor was judged. -/
  | judged (verdict : Verdict)
  /-- A path leads to no file of the project. -/
  | notFile (path : String) (project : Project)
  /-- The candidates of a file were remembered. -/
  | remembered (path : Path)
  /-- The candidates of a file were collected. -/
  | collected (count : Nat) (path : Path)
  /-- The candidates of a file could not be collected. -/
  | unreadable (path : String) (cause : DiskError)
  /-- A request was answered with modules. -/
  | answered (cursor count : Nat) (quote : Option Quote) (span : Span)
  deriving DecidableEq, Repr

namespace Note

/-- What kept the system from being asked, where that is what the note is about. -/
def failure? : Note → Option DiskError
  | unreadable _ cause => if cause.isFound then none else some cause
  | _ => none

/-- Whether the note is of something that a request decided or found. -/
def isFinding (n : Note) : Bool := n.failure?.isNone

/-- The name of a quotation mark, or of its absence. -/
def quoteName : Option Quote → String
  | none => "NONE"
  | some .single => "SINGLE"
  | some .double => "DOUBLE"

/-- The part of the program that took the note. -/
def origin : Note → String
  | judged _ => "RequireTrigger"
  | notFile _ _ | remembered _ | collected _ _ | unreadable _ _ => "ModuleCatalog"
  | answered _ _ _ _ => "CompletionSource"

/-- How much the note matters. -/
def level : Note → LogLevel
  | unreadable _ _ => .warning
  | _ => .debug

/-- The note in words. -/
def message : Note → String
  | judged v =>
    "require trigger at " ++ toString v.cursor ++ ": " ++ (if v.opens then "True" else "False") ++
      " (previous=" ++ (v.previous.map Text.quoted).getD "None" ++ ")"
  | notFile path project => path ++ " is not a file in " ++ project.describe
  | remembered path => "candidate cache hit for " ++ path.toString
  | collected count path => "cached " ++ toString count ++ " candidates for " ++ path.toString
  | unreadable path cause => "cannot list project modules for " ++ path ++ ": " ++ cause.message
  | answered cursor count quote span =>
    "require completions at " ++ toString cursor ++ ": " ++ toString count ++ " items, quote=" ++
      quoteName quote ++ ", span=" ++ span.describe

/-- The note as a line of a log. -/
def line (n : Note) : String := n.origin ++ ": " ++ n.level.name ++ ": " ++ n.message ++ "\n"

end Note

end ModuleHints
