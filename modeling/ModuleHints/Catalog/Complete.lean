import ModuleHints.Completion.Request
import ModuleHints.Catalog.Basic

/-!
# Completing in a project

A request for modules asks the catalog where the document is known to lie in a project; every other
request leaves the catalog alone.
-/

namespace ModuleHints

namespace Catalog

/-- The answer to a request, with the notes taken. -/
structure Answer where
  /-- The completions. -/
  set : CompletionSet
  /-- What was noted. -/
  notes : List Note
  deriving DecidableEq, Repr

/-- Why the request can not be answered, if the system could not be asked at all. -/
def Answer.failure? (a : Answer) : Option DiskError := a.notes.findSome? Note.failure?

/-- The modules for a document that may lie in a project at a path. -/
def candidatesFor (s : Settings) (d : Disk) (here : Path) (project : Option Project)
    (path : Option String) (m : Memory) : Findings × Memory :=
  match project, path with
  | some p, some path => candidates s d here p path m
  | _, _ => ({}, m)

/-- No modules are known for a document that lies in no project. -/
theorem candidatesFor_none (s : Settings) (d : Disk) (here : Path) (path : Option String)
    (m : Memory) : candidatesFor s d here none path m = ({}, m) := by
  cases path <;> rfl

/-- The completions at a cursor of a document. -/
def complete (s : Settings) (d : Disk) (here : Path) (document : Document) (cursor : Int)
    (project : Option Project) (path : Option String) (m : Memory) : Answer × Memory :=
  let judged := (document.requestVerdict? cursor).toList.map Note.judged
  if document.asksForModules cursor then
    let (found, m) := candidatesFor s d here project path m
    let set := document.moduleSet s cursor found.candidates
    let argument := document.argumentAt (document.clamp cursor)
    let answered :=
      Note.answered (document.clamp cursor) set.items.length argument.quote argument.span
    (⟨set, judged ++ found.notes ++ [answered]⟩, m)
  else (⟨document.complete s cursor [], judged⟩, m)

end Catalog

end ModuleHints
