import ModuleHints.Catalog.Complete
import ModuleHints.Server.Workspace
import ModuleHints.Server.Typing
import ModuleHints.Server.Answer

/-!
# What a server keeps

Between two requests a server keeps one project for each home folder met so far, and what the catalog
remembers. A document lies in the project of the workspace, or else in that of its own folder. When
files are reported as changed, all listings of all projects and all remembered candidates are dropped.
-/

namespace ModuleHints.Server

/-- What a server knows between two requests. -/
structure State where
  /-- The settings in force. -/
  settings : Settings
  /-- Projects by their home folders. -/
  projects : List (Path × Project) := []
  /-- What the catalog keeps. -/
  memory : Memory := {}

/-- What is asked for in a request for completions. -/
structure Request where
  /-- The URI of the document. -/
  uri : String
  /-- The place of the cursor. -/
  position : Position
  /-- Why completions are asked for. -/
  cause : Cause
  deriving DecidableEq, Repr

/-- What a client gets for a request, with the notes taken. -/
structure Reply where
  /-- The completions. -/
  entries : List Entry := []
  /-- What was noted. -/
  notes : List Note := []
  deriving DecidableEq, Repr

/-- Why a request can not be answered. -/
inductive Failure (ε : Type) where
  /-- The workspace can not give the document. -/
  | document (cause : ε)
  /-- The system could not be asked for a folder. -/
  | folder (cause : DiskError)
  deriving DecidableEq, Repr

namespace State

variable {ε : Type}

/-- The project that a document lies in, made at its first use. A document without a path lies in
none. -/
def projectOf (s : State) (w : Workspace ε) (here : Path) (path : Option String) :
    Option Project × State :=
  match path.filter fun path => !path.isEmpty with
  | none => (none, s)
  | some path =>
    let home := w.homeOf path
    match s.projects.lookup home with
    | some p => (some p, s)
    | none =>
      let (p, forest) := Project.plant here home s.memory.forest
      (some p,
        { s with
          projects := s.projects ++ [(home, p)]
          memory := { s.memory with forest } })

/-- Completes at an offset of a document. -/
def completeAt (s : State) (w : Workspace ε) (d : Disk) (here : Path) (document : TextDocument)
    (cursor : Nat) : Except (Failure ε) Reply × State :=
  let (project, s) := s.projectOf w here document.path
  let (answer, memory) :=
    Catalog.complete s.settings d here document.text cursor project document.path s.memory
  let reply := match answer.failure? with
    | some e => .error (.folder e)
    | none => .ok ⟨entries document.text document.encoding answer.set, answer.notes⟩
  (reply, { s with memory })

/-- Answers a request for completions. -/
def complete (s : State) (w : Workspace ε) (d : Disk) (here : Path) (r : Request) :
    Except (Failure ε) Reply × State :=
  match w.document d r.uri with
  | .error e => (.error (.document e), s)
  | .ok document =>
    match offsetAt? document.text document.encoding r.position with
    | none => (.ok {}, s)
    | some cursor =>
      if deserves document.text cursor r.cause then s.completeAt w d here document cursor
      else (.ok {}, s)

/-- Drops all listings and all remembered candidates. -/
def invalidate (s : State) : State :=
  let forest := (s.projects.map fun e => e.2.root).foldl Forest.refresh s.memory.forest
  { s with memory := { s.memory with forest }.invalidateAll }

/-- Hears of changed files. -/
def filesChanged (s : State) (uris : List String) : State :=
  if uris.isEmpty then s else s.invalidate

end State

end ModuleHints.Server
