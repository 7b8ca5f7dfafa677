import ModuleHints.Files.Disk
import ModuleHints.Settings.Rules

/-!
# Settings of a project

A project's settings stand in a file of fixed name in its folder, unless another file is named. Where
there is no such file the defaults hold.
-/

namespace ModuleHints

/-- Why a file is of no use at all. -/
inductive FileError where
  /-- It can not be had. -/
  | unreachable (cause : DiskError)
  /-- It is no UTF-8 text. -/
  | notText
  /-- It writes a whole number in too many digits. -/
  | longNumeral (digits : Nat)
  deriving DecidableEq, Repr

/-- What is wrong with a file, in words. -/
def FileError.message : FileError → String
  | .unreachable cause => cause.message
  | .notText => "invalid utf-8"
  | .longNumeral digits => Text.longNumeral digits

/-- Why settings could not be loaded. -/
inductive LoadError where
  /-- The settings are refused. -/
  | refused (cause : SettingsError)
  /-- There is no use in their file. -/
  | useless (cause : FileError)
  deriving DecidableEq, Repr

namespace Settings

/-- Name of the file that holds the settings of a project. -/
def fileName : String := "reqcomplete.toml"

/-- The configuration in a file, empty if there is no such file. A name that is too long says nothing
about whether there is one. -/
def readFile (d : Disk) (here file : Path) : Except LoadError Toml.Table :=
  match d.read here file.toString with
  | .error e => if e.fault = .tooLong then .error (.useless (.unreachable e)) else .ok []
  | .ok bytes =>
    match String.fromUTF8? bytes with
    | none => .error (.useless .notText)
    | some text =>
      match Toml.read text with
      | .error (.malformed cause) => .error (.refused ⟨.malformed cause, some file⟩)
      | .error (.longNumeral digits) => .error (.useless (.longNumeral digits))
      | .ok config => .ok config

/-- The settings in the named file, or else of the project, with another level if one is given. -/
def load (d : Disk) (here : Path) (file : Option Path) (project : Path) (level : Option String) :
    Except LoadError Settings := do
  let file := file.getD (project.child fileName)
  let config ← readFile d here file
  (configure config (some file) level).mapError .refused

end Settings

end ModuleHints
