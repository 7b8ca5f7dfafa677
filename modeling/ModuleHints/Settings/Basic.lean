/-!
# Settings

The names a project reserves, the quotation mark that is inserted where none was typed, and the least
level of diagnostics that is shown.
-/

namespace ModuleHints

/-- Levels of diagnostics. -/
inductive LogLevel where
  /-- Details of every decision. -/
  | debug
  /-- Notable events. -/
  | info
  /-- Something could not be done. -/
  | warning
  /-- The request failed. -/
  | error
  /-- The program cannot go on. -/
  | critical
  deriving DecidableEq, Repr

namespace LogLevel

/-- The level's name. -/
def name : LogLevel → String
  | debug => "DEBUG"
  | info => "INFO"
  | warning => "WARNING"
  | error => "ERROR"
  | critical => "CRITICAL"

/-- The level's rank; a higher rank is more severe. -/
def rank : LogLevel → Nat
  | debug => 10
  | info => 20
  | warning => 30
  | error => 40
  | critical => 50

/-- The level with the given name. -/
def ofName? (s : String) : Option LogLevel :=
  [debug, info, warning, error, critical].find? fun l => l.name == s

/-- Reading a name gives the level that it names. -/
theorem ofName?_eq_some_iff {s : String} {l : LogLevel} : ofName? s = some l ↔ s = l.name := by
  constructor
  · intro h
    unfold ofName? at h
    have hn := List.find?_some h
    exact (eq_of_beq hn).symm
  · rintro rfl
    cases l <;> decide

end LogLevel

/-- Names and defaults for building candidates. -/
structure Settings where
  /-- Name of the folders that hold packages. -/
  modulesFolder : String := "node_modules"
  /-- Name of the file that makes a folder a package. -/
  packageFile : String := "package.json"
  /-- Name of the file that makes a folder a package on its own. -/
  mainFile : String := "index.js"
  /-- Ending of source files, dot included. -/
  extension : String := ".js"
  /-- Quotation mark for completions that need both. -/
  defaultQuote : String := "'"
  /-- Name of the least level of diagnostics shown. -/
  logLevel : String := "WARNING"
  deriving DecidableEq, Repr

namespace Settings

/-- The least level of diagnostics shown, if its name is known. -/
def level? (s : Settings) : Option LogLevel := LogLevel.ofName? s.logLevel

end Settings

end ModuleHints
