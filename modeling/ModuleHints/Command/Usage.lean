import ModuleHints.Command.Arguments

/-!
# Explaining the command

The short explanation stands before every message about a command line; help shows it with all flags.
-/

namespace ModuleHints.Command

/-- How the command is called. -/
def usage : String :=
  "usage: reqcomplete [-h] (--offset N | --line L) [--column C] [--project DIR]\n" ++
  "                   [--config FILE] [--log-level LEVEL] [--debug]\n" ++
  "                   input\n"

/-- All flags explained. -/
def helpText : String :=
  usage ++
  "\n" ++
  "Module-path completions for require() calls\n" ++
  "\n" ++
  "positional arguments:\n" ++
  "  input              JavaScript source file\n" ++
  "\n" ++
  "options:\n" ++
  "  -h, --help         show this help message and exit\n" ++
  "  --offset N         0-based character offset\n" ++
  "  --line L           1-based line (needs --column)\n" ++
  "  --column C         1-based column\n" ++
  "  --project DIR      Project root (default: directory of the input file)\n" ++
  "  --config FILE      Config file (default: auto-discover reqcomplete.toml in\n" ++
  "                     the project)\n" ++
  "  --log-level LEVEL  Logging level (default: WARNING)\n" ++
  "  --debug            Dump tokens before the cursor to stderr\n"

/-- The text about a command line that can not be understood. -/
def Misuse.report (m : Misuse) : String := usage ++ "reqcomplete: error: " ++ m.message ++ "\n"

end ModuleHints.Command
