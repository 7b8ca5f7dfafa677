import ModuleHints.Text.Lines
import ModuleHints.Source.Cursor
import ModuleHints.Source.Dump
import ModuleHints.Settings.Load
import ModuleHints.Catalog.Complete
import ModuleHints.Command.Usage

/-!
# Running the command

The command completes at one cursor of one file and prints a line for each completion. It ends with
status one where the file or the cursor can not be had, and with status two where the command line or
the settings are refused.
-/

namespace ModuleHints.Command

/-- Why a run breaks off. -/
inductive Failure where
  /-- A file is of no use at all. -/
  | useless (cause : FileError)
  /-- The offset has no value. -/
  | bareOffset
  /-- The line or the column has no value. -/
  | barePosition
  /-- The level has no value. -/
  | bareLevel
  deriving DecidableEq, Repr

/-- Why a run breaks off, in words. -/
def Failure.message : Failure → String
  | .useless cause => cause.message
  | .bareOffset => "'<=' not supported between instances of 'int' and 'list'"
  | .barePosition => "unsupported operand type(s) for -: 'list' and 'int'"
  | .bareLevel => "'list' object has no attribute 'upper'"

/-- How a run ends. -/
inductive Outcome where
  /-- Help was asked for and is shown. -/
  | helped (out : String)
  /-- The command line was not understood. -/
  | misused (err : String)
  /-- The run ended with a status. -/
  | ended (status : Nat) (out err : String)
  /-- The run broke off after `err` had been shown. -/
  | broken (cause : Failure) (err : String)
  deriving DecidableEq, Repr

/-- The completions as lines. -/
def printed (set : CompletionSet) : String :=
  "# " ++ (if set.kind = .modules then "require" else "general") ++ " start=" ++
    toString set.span.start ++ " length=" ++ toString set.span.length ++ "\n" ++
    String.join (set.items.map fun i => i.insertion ++ "\t" ++ i.description ++ "\n")

/-- The notes from a level up as lines. -/
def logged (settings : Settings) (notes : List Note) : String :=
  let least := settings.level?.getD .warning
  String.join ((notes.filter fun n => least.rank ≤ n.level.rank).map Note.line)

namespace Arguments

/-- The file to complete in. -/
def inputFile (a : Arguments) : Path := Path.ofString a.input

/-- The path that a flag names, if its value is there and not empty. -/
def pathOf? (flag : Given String) : Option Path :=
  (flag.value?.filter fun s => !s.isEmpty).map Path.ofString

/-- The home folder of the project: the one given, or else the folder of the input file. -/
def projectFolder (a : Arguments) : Path := (pathOf? a.project).getD a.inputFile.parent

/-- The name of the cursor, which flags without values do not give. -/
def cursorName (a : Arguments) : Except Failure CursorName :=
  if a.offset.isBare then .error .bareOffset
  else if !a.offset.isThere && (a.line.isBare || a.column.isBare) then .error .barePosition
  else .ok ⟨a.offset.value?, a.line.value?, a.column.value?⟩

end Arguments

/-- What is left to do once the file is read and the cursor found. -/
def completed (a : Arguments) (s : Settings) (d : Disk) (here : Path) (document : Document)
    (cursor : Nat) : Outcome :=
  let dump := if a.debug then document.dump cursor 8 else ""
  let (project, forest) := Project.plant here a.projectFolder {}
  let (answer, _) :=
    Catalog.complete s d here document cursor (some project) (some a.inputFile.toString) { forest }
  match answer.failure? with
  | some e => .broken (.useless (.unreachable e)) (dump ++ logged s (answer.notes.takeWhile Note.isFinding))
  | none => .ended 0 (printed answer.set) (dump ++ logged s answer.notes)

/-- Completes in the input file. -/
def inFile (a : Arguments) (s : Settings) (d : Disk) (here : Path) : Outcome :=
  let file := a.inputFile.toString
  match d.read here file with
  | .error e =>
    if e.isFound then .ended 1 "" ("error: cannot read " ++ file ++ ": " ++ e.fault.reason ++ "\n")
    else .broken (.useless (.unreachable e)) ""
  | .ok bytes =>
    match String.fromUTF8? bytes, a.cursorName with
    | none, _ => .broken (.useless .notText) ""
    | some _, .error failure => .broken failure ""
    | some text, .ok name =>
      let document : Document := ⟨Text.unifyBreaks text.toList⟩
      match document.resolve name with
      | .error e => .ended 1 "" (e.render document file ++ "\n")
      | .ok cursor => completed a s d here document cursor

/-- Does what the arguments ask for. -/
def perform (a : Arguments) (d : Disk) (here : Path) : Outcome :=
  if a.line.isThere && !a.column.isThere then .ended 2 "" "error: --line needs --column\n"
  else
    match Settings.load d here (Arguments.pathOf? a.config) a.projectFolder a.logLevel.value? with
    | .error (.useless e) => .broken (.useless e) ""
    | .error (.refused e) => .ended 2 "" (e.message ++ "\n")
    | .ok s => if a.logLevel.isBare then .broken .bareLevel "" else inFile a s d here

/-- Runs a command line. -/
def run (line : List String) (d : Disk) (here : Path) : Outcome :=
  match parse line with
  | .error (.misuse m) => .misused m.report
  | .error .help => .helped helpText
  | .ok a => perform a d here

end ModuleHints.Command
