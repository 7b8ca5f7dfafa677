import ModuleHints.Unicode.Number
import ModuleHints.Text.Quoted
import ModuleHints.Text.Integer

/-!
# Arguments of the command

The words of a command line are sorted before any is acted on: flags, which may be shortened to any
beginning that no other flag shares and may carry a value after an equals sign; the mark after which no
word is a flag; and plain words, among them negative numbers and whatever holds a blank. Then the words
are taken from left to right. A later value of a flag replaces an earlier one. A flag that carries the
mark as its value is given, but has no value.
-/

namespace ModuleHints.Command

/-- A flag of the command. -/
inductive Flag where
  /-- Shows how the command is used. -/
  | help
  /-- The cursor as an offset. -/
  | offset
  /-- The line of the cursor. -/
  | line
  /-- The column of the cursor. -/
  | column
  /-- The home folder of the project. -/
  | project
  /-- The file of the settings. -/
  | config
  /-- The least level of diagnostics shown. -/
  | logLevel
  /-- Shows the tokens before the cursor. -/
  | debug
  deriving DecidableEq, Repr

namespace Flag

/-- All flags, in the order in which they are explained. -/
def all : List Flag := [help, offset, line, column, project, config, logLevel, debug]

/-- The long name of a flag. -/
def name : Flag → String
  | help => "--help"
  | offset => "--offset"
  | line => "--line"
  | column => "--column"
  | project => "--project"
  | config => "--config"
  | logLevel => "--log-level"
  | debug => "--debug"

/-- How a flag is named in messages. -/
def title : Flag → String
  | help => "-h/--help"
  | f => f.name

/-- The flag with the given long name. -/
def ofName? (s : String) : Option Flag := all.find? fun f => f.name == s

/-- The flags whose long names begin with a text. -/
def beginningWith (s : String) : List Flag := all.filter fun f => s.toList.isPrefixOf f.name.toList

end Flag

/-- A word of a command line. -/
inductive Word where
  /-- The mark after which no word is a flag. -/
  | mark
  /-- A word that is no flag. -/
  | plain (text : String)
  /-- A flag, with the value that the word carries. -/
  | flag (flag : Flag) (value : Option String)
  /-- The short name of the help flag with something after it, an equals sign left out. -/
  | shortHelp (more : List Char)
  /-- A word that looks like a flag and is none. -/
  | unknown (text : String)
  deriving DecidableEq, Repr

/-- A command line that can not be understood. -/
inductive Misuse where
  /-- No input file is given. -/
  | noInput
  /-- The cursor is not named. -/
  | noCursor
  /-- Two flags that exclude each other are given, `flag` later than `other`. -/
  | exclusive (flag other : Flag)
  /-- The value of a flag is no whole number. -/
  | notNumber (flag : Flag) (value : String)
  /-- A flag lacks its value. -/
  | noValue (flag : Flag)
  /-- A flag that takes no value carries one. -/
  | needlessValue (flag : Flag) (value : String)
  /-- Words are left over. -/
  | leftOver (words : List String)
  /-- A word begins several flags. -/
  | ambiguous (word : String) (flags : List Flag)
  deriving DecidableEq, Repr

/-- What is wrong with a command line, in words. -/
def Misuse.message : Misuse → String
  | noInput => "the following arguments are required: input"
  | noCursor => "one of the arguments --offset --line is required"
  | exclusive flag other => "argument " ++ flag.title ++ ": not allowed with argument " ++ other.title
  | notNumber flag value => "argument " ++ flag.title ++ ": invalid int value: " ++ Text.quoted value
  | noValue flag => "argument " ++ flag.title ++ ": expected one argument"
  | needlessValue flag value =>
    "argument " ++ flag.title ++ ": ignored explicit argument " ++ Text.quoted value
  | leftOver words => "unrecognized arguments: " ++ " ".intercalate words
  | ambiguous word flags =>
    "ambiguous option: " ++ word ++ " could match " ++ ", ".intercalate (flags.map Flag.name)

/-- The part of a word before its first equals sign. -/
def nameOf (cs : List Char) : List Char := cs.takeWhile (· != '=')

/-- The part of a word after its first equals sign, if it has one. -/
def valueOf? (cs : List Char) : Option String :=
  match cs.dropWhile (· != '=') with
  | [] => none
  | _ :: value => some (String.ofList value)

/-- Whether characters are digits only, but for one line feed at their end. -/
def endsInDigits (cs : List Char) : Bool :=
  let digits := if cs.getLast? = some '\n' then cs.dropLast else cs
  !digits.isEmpty && digits.all Unicode.isDecimal

/-- Whether a word is a negative number, with or without a fraction. -/
def isNegativeNumber : List Char → Bool
  | '-' :: rest =>
    endsInDigits rest ||
      match rest.dropWhile Unicode.isDecimal with
      | '.' :: fraction => endsInDigits fraction
      | _ => false
  | _ => false

/-- A word that begins no flag. -/
def strange (s : String) : Word :=
  if isNegativeNumber s.toList || s.toList.contains ' ' then .plain s else .unknown s

/-- What kind of word a text before the mark is. -/
def word (s : String) : Except Misuse Word :=
  match s.toList with
  | [] => .ok (.plain s)
  | ['-'] => .ok (.plain s)
  | ['-', 'h'] => .ok (.flag .help none)
  | '-' :: '-' :: rest =>
    let cs := '-' :: '-' :: rest
    let name := String.ofList (nameOf cs)
    match Flag.ofName? s, Flag.ofName? name, Flag.beginningWith name with
    | some f, _, _ => .ok (.flag f none)
    | none, some f, _ => .ok (.flag f (valueOf? cs))
    | none, none, [] => .ok (strange s)
    | none, none, [f] => .ok (.flag f (valueOf? cs))
    | none, none, flags => .error (.ambiguous s flags)
  | '-' :: 'h' :: '=' :: more | '-' :: 'h' :: more => .ok (.shortHelp more)
  | '-' :: _ => .ok (strange s)
  | _ => .ok (.plain s)

/-- The mark after which no word is a flag. -/
def mark : String := "--"

/-- The words of a command line. -/
def words : List String → Except Misuse (List Word)
  | [] => .ok []
  | s :: rest =>
    if s = mark then .ok (.mark :: rest.map .plain)
    else do
      let w ← word s
      let ws ← words rest
      return w :: ws

/-- What a command line says about a flag. -/
inductive Given (α : Type) where
  /-- The flag is not there. -/
  | absent
  /-- The flag is there without a value. -/
  | bare
  /-- The flag has a value. -/
  | having (value : α)
  deriving DecidableEq, Repr

namespace Given

variable {α : Type}

/-- Whether the flag is there. -/
def isThere : Given α → Bool
  | absent => false
  | bare | having _ => true

/-- Whether the flag is there without a value. -/
def isBare : Given α → Bool
  | bare => true
  | absent | having _ => false

/-- The value of the flag, if it has one. -/
def value? : Given α → Option α
  | having value => some value
  | absent | bare => none

end Given

/-- What a command line asks for. -/
structure Arguments where
  /-- The file to complete in. -/
  input : String := ""
  /-- The cursor as an offset. -/
  offset : Given Int := .absent
  /-- The line of the cursor. -/
  line : Given Int := .absent
  /-- The column of the cursor. -/
  column : Given Int := .absent
  /-- The home folder of the project. -/
  project : Given String := .absent
  /-- The file of the settings. -/
  config : Given String := .absent
  /-- The least level of diagnostics shown. -/
  logLevel : Given String := .absent
  /-- Whether the tokens before the cursor are shown. -/
  debug : Bool := false
  deriving DecidableEq, Repr

/-- Why a command line leads to no run. -/
inductive Halt where
  /-- Help is asked for. -/
  | help
  /-- The line can not be understood. -/
  | misuse (cause : Misuse)
  deriving DecidableEq, Repr

/-- What is known of a command line part of the way through. -/
structure Progress where
  /-- What has been asked for. -/
  arguments : Arguments := {}
  /-- Whether the input file has been named. -/
  hasInput : Bool := false
  /-- Whether the word just taken is the input file. -/
  afterInput : Bool := false
  /-- The flag whose value comes next. -/
  awaiting : Option Flag := none
  /-- Words that nothing takes, last first. -/
  leftOver : List String := []
  deriving DecidableEq, Repr

/-- A text as the value of a flag. -/
def given (value : String) : Given String := if value = mark then .bare else .having value

/-- A whole number as the value of a flag. -/
def number (f : Flag) (value : String) : Except Misuse (Given Int) :=
  if value = mark then .ok .bare
  else
    match Text.integer? value with
    | some n => .ok (.having n)
    | none => .error (.notNumber f value)

/-- The arguments with the value of a flag. -/
def Arguments.set (a : Arguments) (f : Flag) (value : String) : Except Misuse Arguments :=
  match f with
  | .offset => do
    let n ← number f value
    if a.line.isThere then .error (.exclusive .offset .line) else return { a with offset := n }
  | .line => do
    let n ← number f value
    if a.offset.isThere then .error (.exclusive .line .offset) else return { a with line := n }
  | .column => do return { a with column := ← number f value }
  | .project => .ok { a with project := given value }
  | .config => .ok { a with config := given value }
  | .logLevel => .ok { a with logLevel := given value }
  | .help | .debug => .error (.needlessValue f value)

namespace Progress

/-- The progress after a word that nothing takes. -/
def leave (p : Progress) (s : String) : Progress :=
  { p with leftOver := s :: p.leftOver, afterInput := false }

/-- The progress after the value of a flag. -/
def give (p : Progress) (f : Flag) (value : String) : Except Halt Progress := do
  let arguments ← (p.arguments.set f value).mapError Halt.misuse
  return { p with arguments, awaiting := none, afterInput := false }

/-- The end of a word that begins with the short name of the help flag, which may be repeated. -/
def help (more : List Char) : Halt :=
  let rest := more.dropWhile (· == 'h')
  if rest.isEmpty && !more.isEmpty then .help
  else .misuse (.needlessValue .help (String.ofList rest))

/-- The progress after a word, no flag waiting for its value. The first plain word is the input file;
a mark just before or after it belongs to it. -/
def turn (p : Progress) : Word → Except Halt Progress
  | .plain s =>
    if p.hasInput then .ok (p.leave s)
    else
      .ok { p with
        arguments := { p.arguments with input := s }, hasInput := true, afterInput := true }
  | .mark =>
    if p.hasInput && !p.afterInput then .ok (p.leave mark) else .ok { p with afterInput := false }
  | .unknown s => .ok (p.leave s)
  | .shortHelp more => .error (help more)
  | .flag f (some value) => p.give f value
  | .flag .help none => .error .help
  | .flag .debug none =>
    .ok { p with arguments := { p.arguments with debug := true }, afterInput := false }
  | .flag f none => .ok { p with awaiting := some f, afterInput := false }

/-- The progress after a word. -/
def step (p : Progress) (w : Word) : Except Halt Progress :=
  match p.awaiting with
  | none => p.turn w
  | some f =>
    match w with
    | .plain value => p.give f value
    | _ => .error (.misuse (.noValue f))

/-- The arguments of a whole command line. -/
def finish (p : Progress) : Except Misuse Arguments :=
  match p.awaiting with
  | some f => .error (.noValue f)
  | none =>
    if !p.hasInput then .error .noInput
    else if !p.arguments.offset.isThere && !p.arguments.line.isThere then .error .noCursor
    else if !p.leftOver.isEmpty then .error (.leftOver p.leftOver.reverse)
    else .ok p.arguments

end Progress

/-- The arguments that a command line gives. -/
def parse (line : List String) : Except Halt Arguments := do
  let ws ← (words line).mapError .misuse
  let p ← ws.foldlM Progress.step {}
  p.finish.mapError .misuse

end ModuleHints.Command
