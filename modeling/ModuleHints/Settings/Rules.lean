import ModuleHints.Unicode.Upper
import ModuleHints.Files.Path
import ModuleHints.Toml.Document
import ModuleHints.Settings.Basic

/-!
# Reading settings

Settings are read from the tables `completion` and `logging` of a configuration; other keys have no
effect. Every known key must hold a text that is not empty, the quotation mark must be one that opens a
string, an extension is a dot with something after it, and the level must have a known name.
-/

namespace ModuleHints

/-- Why settings are refused. -/
inductive SettingsFault where
  /-- The file is not a document of its format. -/
  | malformed (cause : Toml.Malformed)
  /-- A name that must hold a table holds something else. -/
  | notTable (name : String)
  /-- A key holds no text, or an empty one. -/
  | notText (key : String)
  /-- The quotation mark opens no string. -/
  | badQuote
  /-- The extension is not a dot with something after it. -/
  | badExtension
  /-- There is no such level. -/
  | unknownLevel (name : String)
  deriving DecidableEq, Repr

/-- The text of a refusal. -/
def SettingsFault.message : SettingsFault → String
  | .malformed cause => "invalid TOML: " ++ cause.message
  | .notTable name => "[" ++ name ++ "] must be a table"
  | .notText key => "'" ++ key ++ "' must be a non-empty string"
  | .badQuote => "'default_quote' must be ' or \""
  | .badExtension => "'extension' must start with '.'"
  | .unknownLevel name => "unknown log level '" ++ name ++ "'"

/-- A message about a file of settings. -/
def settingsMessage (message : String) (file : Option Path) : String :=
  match file with
  | none => "error: " ++ message
  | some p => "error: " ++ message ++ "\n  --> " ++ p.toString

/-- Refused settings, with the file that holds them. -/
structure SettingsError where
  /-- Why they are refused. -/
  fault : SettingsFault
  /-- The file, if there is one. -/
  file : Option Path
  deriving DecidableEq, Repr

/-- The text of a refusal with the file it is about. -/
def SettingsError.message (e : SettingsError) : String := settingsMessage e.fault.message e.file

namespace Settings

/-- Refuses settings that can not be used. -/
def validate (s : Settings) : Except SettingsFault Unit :=
  if s.defaultQuote ≠ "'" ∧ s.defaultQuote ≠ "\"" then .error .badQuote
  else if s.extension.toList.head? ≠ some '.' ∨ s.extension.length < 2 then .error .badExtension
  else if s.level?.isNone then .error (.unknownLevel s.logLevel)
  else .ok ()

/-- The table under a name, empty if there is nothing. -/
def subtable (t : Toml.Table) (name : String) : Except SettingsFault Toml.Table :=
  match t.get? name with
  | none => .ok []
  | some (.table inner) => .ok inner
  | some _ => .error (.notTable name)

/-- The text under a key, or the one to use if there is nothing. -/
def textOr (t : Toml.Table) (key default : String) : Except SettingsFault String :=
  match t.get? key with
  | none => .ok default
  | some (.string s) => if s.isEmpty then .error (.notText key) else .ok s
  | some _ => .error (.notText key)

/-- The settings of a configuration. -/
def ofTable (config : Toml.Table) : Except SettingsFault Settings := do
  let base : Settings := {}
  let completion ← subtable config "completion"
  let logging ← subtable config "logging"
  let settings : Settings :=
    { modulesFolder := ← textOr completion "modules_dir" base.modulesFolder
      packageFile := ← textOr completion "package_file" base.packageFile
      mainFile := ← textOr completion "main_file" base.mainFile
      extension := ← textOr completion "extension" base.extension
      defaultQuote := ← textOr completion "default_quote" base.defaultQuote
      logLevel := Unicode.upperCase (← textOr logging "level" base.logLevel) }
  settings.validate
  return settings

/-- The settings with another level of diagnostics, whose name may be in any case. -/
def withLevel (s : Settings) (name : String) : Except SettingsFault Settings := do
  let s := { s with logLevel := Unicode.upperCase name }
  s.validate
  return s

/-- The settings of a configuration, with another level if one is given. -/
def configure (config : Toml.Table) (file : Option Path) (level : Option String) :
    Except SettingsError Settings := do
  let settings ← (ofTable config).mapError fun fault => ⟨fault, file⟩
  match level with
  | none => return settings
  | some name => (settings.withLevel name).mapError fun fault => ⟨fault, none⟩

end Settings

end ModuleHints
