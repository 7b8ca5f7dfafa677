import ModuleHints.Files.Disk
import ModuleHints.Server.Position

/-!
# Workspaces

What a client has open, and where, is kept by a workspace on behalf of the server: it has the text and
the path of each document and knows how the client counts. A server takes whatever its workspace says;
nothing is assumed of how the workspace comes to it.
-/

namespace ModuleHints.Server

/-- A document as a workspace has it. -/
structure TextDocument where
  /-- Its path, if it has one. -/
  path : Option String
  /-- Its text. -/
  text : Document
  /-- How the client counts in it. -/
  encoding : Encoding

/-- What a workspace says; where it can not give a document, a cause of type `ε` says why. -/
structure Workspace (ε : Type) where
  /-- The path of its folder, if it has one. -/
  root : Option String
  /-- The document of a URI. One that is not open is read from the disk. -/
  document : Disk → String → Except ε TextDocument

/-- The home folder of the project that a document lies in: that of the workspace, or else its own
folder. -/
def Workspace.homeOf {ε : Type} (w : Workspace ε) (path : String) : Path :=
  match w.root.filter fun root => !root.isEmpty with
  | some root => Path.ofString root
  | none => (Path.ofString path).parent

end ModuleHints.Server
