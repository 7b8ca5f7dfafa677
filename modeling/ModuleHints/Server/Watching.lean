import ModuleHints.Unicode.Lower
import ModuleHints.Settings.Basic

/-!
# Watched files

The server asks its client to report every source file, package file and main file that is created or
deleted. The main file is asked for separately only where it is no source file.
-/

namespace ModuleHints.Server

/-- The name under which the client keeps the request. -/
def watchId : String := "reqcomplete-watched-files"

/-- The notification that is asked for. -/
def watchMethod : String := "workspace/didChangeWatchedFiles"

/-- Created and deleted files, as the client encodes them. -/
def watchKind : Nat := 1 + 4

/-- Whether a text ends with another. -/
def endsWith (s ending : String) : Bool := ending.toList.isSuffixOf s.toList

/-- The patterns of the files that are watched. -/
def watchPatterns (s : Settings) : List String :=
  ["**/*" ++ s.extension, "**/" ++ s.packageFile] ++
    if endsWith (Unicode.lowerCase s.mainFile) (Unicode.lowerCase s.extension) then []
    else ["**/" ++ s.mainFile]

/-- What a client says about watching files. -/
inductive WatchSupport where
  /-- Nothing about workspaces. -/
  | noWorkspace
  /-- Nothing about watched files. -/
  | noWatched
  /-- Whether it can be asked while it runs, if it says so. -/
  | dynamic (registration : Option Bool)
  deriving DecidableEq, Repr

/-- The requests sent to a client that has started: one if it can be asked, else none. -/
def watchRequests (s : Settings) : WatchSupport → List (List String)
  | .dynamic (some true) => [watchPatterns s]
  | _ => []

end ModuleHints.Server
