import ModuleHints.Text.Lines
import ModuleHints.Settings.Load
import ModuleHints.Server.State
import ModuleHints.Server.Uri

/-!
# Sessions

A session is a server together with a workspace of its own, so that it can be run from what a client
sends: it keeps the texts of the open documents, each under the URI with its escapes replaced, reads
any other document from the disk, and refuses places that no client can name. It is one workspace among
all those that a server may be given, and no theorem about servers speaks of it.
-/

namespace ModuleHints.Server

/-- The greatest line and the greatest character that a client can name. -/
def Position.greatest : Nat := 2147483647

/-- A number that no client can name. -/
inductive PositionError where
  /-- As a line. -/
  | line (number : Int)
  /-- As a character. -/
  | character (number : Int)
  deriving DecidableEq, Repr

/-- Why a place is refused, in words. -/
def PositionError.message (e : PositionError) : String :=
  let (name, number) := match e with
    | line number => ("line", number)
    | character number => ("character", number)
  "Position." ++ name ++ " should be in range [0:" ++ toString Position.greatest ++ "], but was " ++
    toString number ++ "."

/-- Whether a client can name a number. -/
def Position.admits (number : Int) : Bool := 0 ≤ number && number ≤ Position.greatest

/-- The place at a line and character. -/
def Position.ofInts (line character : Int) : Except PositionError Position :=
  if !admits line then .error (.line line)
  else if !admits character then .error (.character character)
  else .ok ⟨line.toNat, character.toNat⟩

/-- A document whose text the client has. -/
structure OpenDocument where
  /-- Its path. -/
  path : String
  /-- Its text. -/
  text : String
  deriving DecidableEq, Repr

/-- A server with the documents of its client. -/
structure Session extends State where
  /-- The folder of the workspace, if there is one. -/
  root : Option String
  /-- How the client counts. -/
  encoding : Encoding
  /-- Open documents by their keys. -/
  documents : List (String × OpenDocument) := []

/-- Why what a client has sent can not be answered. -/
inductive RequestError where
  /-- No client can name such a place. -/
  | badPosition (cause : PositionError)
  /-- The URI can not be one. -/
  | badUri (cause : HostError)
  /-- The document is not open, or its folder is asked for, and there is no use in what is on disk. -/
  | useless (cause : FileError)
  deriving DecidableEq, Repr

/-- Why what a client has sent can not be answered, in words. -/
def RequestError.message : RequestError → String
  | badPosition cause => cause.message
  | badUri cause => cause.message
  | useless cause => cause.message

/-- What keeps a request from being answered, where the workspace is that of a session. -/
def RequestError.ofFailure : Failure RequestError → RequestError
  | .document cause => cause
  | .folder cause => .useless (.unreachable cause)

namespace Session

/-- A new session of a client whose workspace has the given URI. -/
def start (settings : Settings) (root : Option String) (encoding : Encoding) :
    Except HostError Session := do
  let uri ← root.mapM Uri.ofString
  return {
    settings
    root := (uri.filter fun u => u.scheme == "file").map Uri.filePath
    encoding }

/-- The session in which a document is not open. -/
def closeDocument (s : Session) (uri : String) : Session :=
  { s with documents := s.documents.filter fun e => e.1 ≠ Uri.documentKey uri }

/-- The session in which a document is open with a text. -/
def openDocument (s : Session) (uri text : String) : Except HostError Session := do
  let path := (← Uri.ofString uri).filePath
  return { s with documents := (Uri.documentKey uri, ⟨path, text⟩) :: (s.closeDocument uri).documents }

/-- The text of a document on disk. -/
def readDocument (d : Disk) (here : Path) (path : String) : Except FileError Document :=
  match d.read here (Path.ofString path).toString with
  | .error e => .error (.unreachable e)
  | .ok bytes =>
    match String.fromUTF8? bytes with
    | none => .error .notText
    | some text => .ok ⟨Text.unifyBreaks text.toList⟩

/-- The document of a URI: the open one, or else the one on disk. -/
def document (s : Session) (here : Path) (d : Disk) (uri : String) :
    Except RequestError TextDocument :=
  match s.documents.lookup (Uri.documentKey uri) with
  | some held => .ok ⟨held.path, .ofString held.text, s.encoding⟩
  | none => do
    let path := (← (Uri.ofString uri).mapError .badUri).filePath
    return ⟨path, ← (readDocument d here path).mapError .useless, s.encoding⟩

/-- The workspace of a session. -/
def workspace (s : Session) (here : Path) : Workspace RequestError := ⟨s.root, s.document here⟩

/-- A request as a client writes it. -/
structure Request where
  /-- The URI of the document. -/
  uri : String
  /-- The line of the cursor. -/
  line : Int
  /-- The character of the cursor on its line. -/
  character : Int
  /-- Why completions are asked for. -/
  cause : Cause
  deriving DecidableEq, Repr

/-- What the client of a session gets. -/
abbrev Reply := Server.Reply

/-- Answers what a client has sent. -/
def complete (s : Session) (d : Disk) (here : Path) (r : Request) :
    Except RequestError Reply × Session :=
  match Position.ofInts r.line r.character with
  | .error e => (.error (.badPosition e), s)
  | .ok position =>
    let (reply, state) := s.toState.complete (s.workspace here) d here ⟨r.uri, position, r.cause⟩
    (reply.mapError .ofFailure, { s with toState := state })

/-- Drops all listings and all remembered candidates. -/
def invalidate (s : Session) : Session := { s with toState := s.toState.invalidate }

/-- Hears of changed files. -/
def filesChanged (s : Session) (uris : List String) : Session :=
  { s with toState := s.toState.filesChanged uris }

end Session

end ModuleHints.Server
