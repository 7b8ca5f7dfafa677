import ModuleHints.Settings.Load

/-!
# Starting the server

The server takes its settings from the current folder and does not start where they are refused.
-/

namespace ModuleHints.Server

/-- What became of starting the server. -/
inductive Started where
  /-- It runs with these settings. -/
  | running (settings : Settings)
  /-- Its settings are refused; `err` says so. -/
  | refused (err : String)
  /-- Its settings file is of no use at all. -/
  | broken (cause : FileError)
  deriving DecidableEq, Repr

/-- Starts the server in the current folder. -/
def start (d : Disk) (here : Path) : Started :=
  match Settings.load d here none here none with
  | .ok settings => .running settings
  | .error (.useless e) => .broken e
  | .error (.refused e) =>
    .refused (LogLevel.error.name ++ ":RequireLanguageServer:" ++ e.message ++ "\n")

end ModuleHints.Server
