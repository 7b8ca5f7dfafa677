import Mathlib
import ModuleHints.Settings.Load

/-!
# Which settings are accepted

A configuration is accepted exactly when its two tables are tables, its six known keys hold texts,
and the settings that come of it can be used. Each setting is then the text of its key, or else the
default, whatever other keys there are. A level that overrides the configuration is looked at after
it: it can not make a configuration acceptable that is not, and changes nothing but the level.
-/

namespace ModuleHints

open Unicode

/-- The names of the levels. -/
def LogLevel.names : List String := ["DEBUG", "INFO", "WARNING", "ERROR", "CRITICAL"]

/-- A level has one of the names. -/
theorem LogLevel.mem_names_iff {name : String} : name ∈ names ↔ ∃ l : LogLevel, name = l.name := by
  constructor
  · intro h
    simp only [names, List.mem_cons, List.not_mem_nil, or_false] at h
    rcases h with rfl | rfl | rfl | rfl | rfl
    · exact ⟨.debug, rfl⟩
    · exact ⟨.info, rfl⟩
    · exact ⟨.warning, rfl⟩
    · exact ⟨.error, rfl⟩
    · exact ⟨.critical, rfl⟩
  · rintro ⟨l, rfl⟩
    cases l <;> decide

namespace Settings

/-- Settings that can be used: the quotation mark opens a string, the extension is a dot with
something after it, and the level has a name. -/
structure Usable (s : Settings) : Prop where
  /-- The quotation mark is single or double. -/
  quote : s.defaultQuote = "'" ∨ s.defaultQuote = "\""
  /-- The extension begins with a dot, and is not the dot alone. -/
  extension : s.extension.toList.head? = some '.' ∧ 2 ≤ s.extension.length
  /-- The level is one of the five. -/
  level : s.logLevel ∈ LogLevel.names

/-- Settings are valid where they can be used. -/
theorem validate_eq_ok_iff {s : Settings} {done : Unit} : s.validate = .ok done ↔ s.Usable := by
  have hlevel : s.level?.isNone = true ↔ s.logLevel ∉ LogLevel.names := by
    rw [LogLevel.mem_names_iff, level?, Option.isNone_iff_eq_none,
      Option.eq_none_iff_forall_ne_some]
    simp only [ne_eq, LogLevel.ofName?_eq_some_iff, not_exists]
  rw [validate]
  constructor
  · intro h
    split at h
    next => cases h
    next hquote =>
      split at h
      next => cases h
      next hextension =>
        split at h
        next => cases h
        next hnone =>
          rw [not_and_or, not_not, not_not] at hquote
          rw [not_or, not_not, Nat.not_lt] at hextension
          rw [hlevel, not_not] at hnone
          exact ⟨hquote, hextension, hnone⟩
  · rintro ⟨hquote, ⟨hdot, hlong⟩, hname⟩
    have hquote' : ¬(s.defaultQuote ≠ "'" ∧ s.defaultQuote ≠ "\"") := by
      rwa [not_and_or, not_not, not_not]
    have hextension' : ¬(s.extension.toList.head? ≠ some '.' ∨ s.extension.length < 2) := by
      rw [not_or, not_not, Nat.not_lt]
      exact ⟨hdot, hlong⟩
    rw [if_neg hquote', if_neg hextension', if_neg (by rwa [hlevel, not_not])]

/-- There is a table under a name, or nothing. -/
def TableOrNothing (config : Toml.Table) (name : String) : Prop :=
  ∀ value, config.get? name = some value → ∃ table, value = .table table

/-- There is a text that is not empty under a key, or nothing. -/
def TextOrNothing (table : Toml.Table) (key : String) : Prop :=
  ∀ value, table.get? key = some value → ∃ text, value = .string text ∧ text ≠ ""

/-- The table under a name, empty if there is none. -/
def tableAt (config : Toml.Table) (name : String) : Toml.Table :=
  match config.get? name with
  | some (.table table) => table
  | _ => []

/-- The text under a key, if there is one. -/
def textAt? (table : Toml.Table) (key : String) : Option String :=
  match table.get? key with
  | some (.string text) => some text
  | _ => none

/-- The known keys, by the names of their tables. -/
def knownKeys : List (String × List String) :=
  [("completion", ["modules_dir", "package_file", "main_file", "extension", "default_quote"]),
   ("logging", ["level"])]

/-- The settings that come of a configuration: for each known key its text, the level in upper case,
or else the default. -/
def given (config : Toml.Table) : Settings :=
  let base : Settings := {}
  let completion := tableAt config "completion"
  let logging := tableAt config "logging"
  { modulesFolder := (textAt? completion "modules_dir").getD base.modulesFolder
    packageFile := (textAt? completion "package_file").getD base.packageFile
    mainFile := (textAt? completion "main_file").getD base.mainFile
    extension := (textAt? completion "extension").getD base.extension
    defaultQuote := (textAt? completion "default_quote").getD base.defaultQuote
    logLevel := ((textAt? logging "level").map upperCase).getD base.logLevel }

/-- A configuration that is in order. -/
structure Accepted (config : Toml.Table) : Prop where
  /-- What is under the name of a table is one. -/
  tables : ∀ known ∈ knownKeys, TableOrNothing config known.1
  /-- What is under a known key is a text that is not empty. -/
  texts : ∀ known ∈ knownKeys, ∀ key ∈ known.2, TextOrNothing (tableAt config known.1) key
  /-- The settings that come of it can be used. -/
  usable : (given config).Usable

section Parts

variable {config table : Toml.Table} {name key default text : String}

/-- The table under a name is had where there is one or nothing. -/
theorem subtable_eq_ok_iff :
    subtable config name = .ok table ↔
      TableOrNothing config name ∧ tableAt config name = table := by
  rw [subtable, TableOrNothing, tableAt]
  split
  next h => simp [h]
  next inner h => simp [h]
  next value hother h =>
    have hnot : ¬∃ table, value = .table table := fun ⟨inner, hinner⟩ => hother inner hinner
    simp [h, hnot]

/-- The text under a key, or the default, is had where there is a text or nothing. -/
theorem textOr_eq_ok_iff :
    textOr table key default = .ok text ↔
      TextOrNothing table key ∧ (textAt? table key).getD default = text := by
  rw [textOr, TextOrNothing, textAt?]
  split
  next h => simp [h]
  next s h =>
    by_cases hempty : s = "" <;> simp [h, hempty]
  next value hother h =>
    have hnot : ¬∃ text, value = .string text ∧ text ≠ "" :=
      fun ⟨text, htext, _⟩ => hother text htext
    simp [h, hnot]

/-- Of two readings made one after the other both give something, or the whole gives nothing. -/
theorem bind_eq_ok_iff {ε α β : Type} {x : Except ε α} {next : α → Except ε β} {b : β} :
    x >>= next = .ok b ↔ ∃ a, x = .ok a ∧ next a = .ok b := by
  cases x with
  | error e => simp [bind, Except.bind]
  | ok a => simp [bind, Except.bind]

end Parts

/-- The default level is written in upper case. -/
theorem upperCase_getD (level : Option String) :
    upperCase (level.getD "WARNING") = (level.map upperCase).getD "WARNING" := by
  cases level with
  | none => cbv
  | some name => rfl

/-- A configuration gives settings where it is in order, and gives those that come of it. -/
theorem ofTable_eq_ok_iff {config : Toml.Table} {s : Settings} :
    ofTable config = .ok s ↔ Accepted config ∧ s = given config := by
  simp only [ofTable, bind_eq_ok_iff, subtable_eq_ok_iff, textOr_eq_ok_iff, validate_eq_ok_iff,
    upperCase_getD, and_assoc, exists_and_left, exists_eq_left', exists_const, pure, Except.pure,
    Except.ok.injEq]
  constructor
  · rintro ⟨hcompletion, hlogging, hmodules, hpackage, hmain, hextension, hquote, hlevel, husable,
      hs⟩
    refine ⟨⟨?_, ?_, husable⟩, hs.symm⟩
    · simp [knownKeys, hcompletion, hlogging]
    · simp [knownKeys, hmodules, hpackage, hmain, hextension, hquote, hlevel]
  · rintro ⟨⟨htables, htexts, husable⟩, rfl⟩
    simp only [knownKeys, List.forall_mem_cons, List.not_mem_nil, false_implies, implies_true,
      and_true] at htables htexts
    obtain ⟨hcompletion, hlogging⟩ := htables
    obtain ⟨⟨hmodules, hpackage, hmain, hextension, hquote⟩, hlevel⟩ := htexts
    exact ⟨hcompletion, hlogging, hmodules, hpackage, hmain, hextension, hquote, hlevel, husable,
      rfl⟩

/-- A value with only some of the keys, if it is a table. -/
def keep (keys : List String) : Toml.Value → Toml.Value
  | .table table => .table (table.filter fun entry => keys.contains entry.1)
  | value => value

/-- What a configuration has under known keys. -/
def onlyKnown (config : Toml.Table) : Toml.Table :=
  knownKeys.filterMap fun known =>
    (config.get? known.1).map fun value => (known.1, keep known.2 value)

section Known

variable {config table : Toml.Table} {keys : List String} {name key default : String}

/-- A key that is kept has its value. -/
theorem get?_filter (h : key ∈ keys) :
    Toml.Table.get? (table.filter fun entry => keys.contains entry.1) key = table.get? key := by
  rw [Toml.Table.get?, Toml.Table.get?]
  induction table with
  | nil => rfl
  | cons entry rest ih =>
    obtain ⟨other, value⟩ := entry
    by_cases hkey : key = other
    · subst hkey
      simp [h]
    · have hne : (key == other) = false := beq_eq_false_iff_ne.mpr hkey
      rw [List.lookup_cons, hne, List.filter_cons]
      split
      · rw [List.lookup_cons, hne]
        exact ih
      · exact ih

/-- The text under a key that is kept is the same. -/
theorem textOr_filter (h : key ∈ keys) :
    textOr (table.filter fun entry => keys.contains entry.1) key default =
      textOr table key default := by
  rw [textOr, textOr, get?_filter h]

/-- Under the name of a table stands what is kept of it. -/
theorem get?_onlyKnown (h : (name, keys) ∈ knownKeys) :
    (onlyKnown config).get? name = (config.get? name).map (keep keys) := by
  simp only [knownKeys, List.mem_cons, List.not_mem_nil, or_false, Prod.mk.injEq] at h
  rcases h with ⟨rfl, rfl⟩ | ⟨rfl, rfl⟩ <;>
    cases hcompletion : config.get? "completion" <;> cases hlogging : config.get? "logging" <;>
      simp only [onlyKnown, knownKeys, List.filterMap_cons, List.filterMap_nil, hcompletion,
        hlogging, Option.map_none, Option.map_some] <;> rfl

/-- The table under a name is what is kept of it. -/
theorem subtable_onlyKnown (h : (name, keys) ∈ knownKeys) :
    subtable (onlyKnown config) name =
      (subtable config name).map fun table => table.filter fun entry => keys.contains entry.1 := by
  rw [subtable, subtable, get?_onlyKnown h]
  cases hvalue : config.get? name with
  | none => rfl
  | some value => cases value <;> rfl

/-- Keys that are not known have no effect. -/
theorem ofTable_onlyKnown (config : Toml.Table) : ofTable (onlyKnown config) = ofTable config := by
  have hcompletion : ("completion", ["modules_dir", "package_file", "main_file", "extension",
      "default_quote"]) ∈ knownKeys := by simp [knownKeys]
  have hlogging : ("logging", ["level"]) ∈ knownKeys := by simp [knownKeys]
  rw [ofTable, ofTable, subtable_onlyKnown hcompletion, subtable_onlyKnown hlogging]
  cases subtable config "completion" with
  | error e => rfl
  | ok completion =>
    cases subtable config "logging" with
    | error e => rfl
    | ok logging =>
      simp only [Except.map, bind, Except.bind]
      rw [textOr_filter, textOr_filter, textOr_filter, textOr_filter, textOr_filter, textOr_filter]
        <;> simp

end Known

/-- Settings with another level, if one is given. -/
def overridden (s : Settings) (level : Option String) : Settings :=
  { s with logLevel := (level.map upperCase).getD s.logLevel }

/-- Settings are given another level where it has a name in upper case. -/
theorem withLevel_eq_ok_iff {s other : Settings} {name : String} (h : s.Usable) :
    s.withLevel name = .ok other ↔ upperCase name ∈ LogLevel.names ∧
      other = { s with logLevel := upperCase name } := by
  simp only [withLevel, bind_eq_ok_iff, validate_eq_ok_iff, exists_and_left, exists_const, pure,
    Except.pure, Except.ok.injEq]
  constructor
  · rintro ⟨husable, hs⟩
    exact ⟨husable.level, hs.symm⟩
  · rintro ⟨hname, rfl⟩
    exact ⟨⟨h.quote, h.extension, hname⟩, rfl⟩

/-- The error of a reading is told another way, and what it gives stays. -/
theorem mapError_eq_ok_iff {ε ε' α : Type} {x : Except ε α} {f : ε → ε'} {a : α} :
    x.mapError f = .ok a ↔ x = .ok a := by
  cases x <;> simp [Except.mapError]

/-- A configuration with a level that overrides it gives settings where it is in order, and where
the level has a name. -/
theorem configure_eq_ok_iff {config : Toml.Table} {file : Option Path} {level : Option String}
    {s : Settings} :
    configure config file level = .ok s ↔ Accepted config ∧
      (∀ name ∈ level, upperCase name ∈ LogLevel.names) ∧ s = (given config).overridden level := by
  simp only [configure, bind_eq_ok_iff, mapError_eq_ok_iff, ofTable_eq_ok_iff, and_assoc,
    exists_and_left, exists_eq_left]
  refine and_congr_right fun haccepted => ?_
  cases level with
  | none => simp [overridden, pure, Except.pure, eq_comm]
  | some name =>
    simp [mapError_eq_ok_iff, withLevel_eq_ok_iff haccepted.usable, overridden]

/-- Settings are loaded where there is a configuration in order, and where the level that overrides
it has a name; they are those that come of the configuration, up to the level. -/
theorem load_eq_ok_iff {d : Disk} {here project : Path} {file : Option Path} {level : Option String}
    {s : Settings} :
    load d here file project level = .ok s ↔
      ∃ config, readFile d here (file.getD (project.child fileName)) = .ok config ∧
        Accepted config ∧ (∀ name ∈ level, upperCase name ∈ LogLevel.names) ∧
          s = (given config).overridden level := by
  simp only [load, bind_eq_ok_iff, mapError_eq_ok_iff, configure_eq_ok_iff]

/-- How settings are read. -/
structure ReadStrictly : Prop where
  /-- A configuration gives settings exactly where it is in order, and they are its own values or
  the defaults. -/
  ofTable_iff : ∀ config s, ofTable config = .ok s ↔ Accepted config ∧ s = given config
  /-- What it gives is valid. -/
  valid : ∀ config s, ofTable config = .ok s → s.validate = .ok ()
  /-- Keys that are not known have no effect, not even on why it is refused. -/
  known : ∀ config, ofTable (onlyKnown config) = ofTable config
  /-- A level that overrides a configuration is taken exactly where it has a name and the
  configuration is in order without it, and changes nothing but the level. -/
  configure_iff : ∀ config file level s, configure config file level = .ok s ↔
    Accepted config ∧ (∀ name ∈ level, upperCase name ∈ LogLevel.names) ∧
      s = (given config).overridden level
  /-- So it is with the configuration in a file. -/
  load_iff : ∀ d here file project level s, load d here file project level = .ok s ↔
    ∃ config, readFile d here (file.getD (project.child fileName)) = .ok config ∧
      Accepted config ∧ (∀ name ∈ level, upperCase name ∈ LogLevel.names) ∧
        s = (given config).overridden level

/-- Settings are accepted exactly where they can be used, and what overrides them comes last. -/
theorem read_strictly : ReadStrictly where
  ofTable_iff _ _ := ofTable_eq_ok_iff
  valid config s h := by
    obtain ⟨haccepted, rfl⟩ := ofTable_eq_ok_iff.mp h
    exact validate_eq_ok_iff.mpr haccepted.usable
  known := ofTable_onlyKnown
  configure_iff _ _ _ _ := configure_eq_ok_iff
  load_iff _ _ _ _ _ _ := load_eq_ok_iff

/-- A level with a name does not save a configuration that is out of order. -/
example : configure [("completion", .table [("indent", .integer 2)]), ("logging", .string "info")]
    none (some "debug") = .error ⟨.notTable "logging", none⟩ := by
  cbv

end Settings

end ModuleHints
