import ModuleHints.Settings.Basic
import ModuleHints.Catalog.Builtin
import ModuleHints.Require.Argument
import ModuleHints.Completion.Words

/-!
# Completing at a cursor

A request is answered with modules where the cursor stands in the argument of a `require` call, and
with words everywhere else.
-/

namespace ModuleHints

namespace Document

/-- The verdict that decides a completion request: the parenthesis must be there, and a half-typed
string may be. -/
def requestVerdict? (d : Document) (cursor : Int) : Option Verdict :=
  d.requireVerdict? (d.clamp cursor) true true

/-- Whether a completion request at a cursor is answered with modules. -/
def asksForModules (d : Document) (cursor : Int) : Bool := (d.requestVerdict? cursor).any Verdict.opens

/-- The modules of the runtime and of the project as completions at a cursor. -/
def moduleSet (d : Document) (settings : Settings) (cursor : Int) (found : List Candidate) :
    CompletionSet :=
  let argument := d.argumentAt (d.clamp cursor)
  assemble builtinCandidates found argument.quote argument.span settings.defaultQuote

/-- The completions at a cursor, given the modules of the project. -/
def complete (d : Document) (settings : Settings) (cursor : Int) (found : List Candidate) :
    CompletionSet :=
  if d.asksForModules cursor then d.moduleSet settings cursor found
  else d.wordSet (d.clamp cursor)

end Document

end ModuleHints
