import ModuleHints.Text.Integer
import ModuleHints.Toml.Text
import ModuleHints.Toml.Value

/-!
# Numbers, dates and times of TOML

Numbers may have underscores between their digits; a whole number in base ten has a greatest number of
digits. A date must exist in the calendar. A date is tried before a time, and a time before a number, for
all of them begin with digits.
-/

namespace ModuleHints.Toml

open Text (hexValue?)

/-- Why a value can not be read. -/
inductive Fault where
  /-- The rules are broken. -/
  | malformed
  /-- A whole number has too many digits. -/
  | longNumeral (digits : Nat)
  deriving DecidableEq, Repr

/-- A reader that says why it fails. -/
abbrev ValueReader (α : Type) := List Char → Except Fault (α × List Char)

/-- What was read; where nothing was, the rules are broken. -/
def required {α : Type} : Option α → Except Fault α
  | some a => .ok a
  | none => .error .malformed

/-- Whether a character is a decimal digit. -/
def isDecimalDigit (c : Char) : Bool := '0' ≤ c && c ≤ '9'

/-- Digits that may be parted by single underscores, without them; nothing if no digit stands here. -/
def groupedRest (isDigit : Char → Bool) : List Char → List Char × List Char
  | '_' :: d :: rest =>
    if isDigit d then
      let (ds, rest) := groupedRest isDigit rest
      (d :: ds, rest)
    else ([], '_' :: d :: rest)
  | d :: rest =>
    if isDigit d then
      let (ds, rest) := groupedRest isDigit rest
      (d :: ds, rest)
    else ([], d :: rest)
  | [] => ([], [])

/-- A digit and all that are grouped with it. -/
def grouped (isDigit : Char → Bool) : Reader (List Char)
  | d :: rest =>
    if isDigit d then
      let (ds, rest) := groupedRest isDigit rest
      some (d :: ds, rest)
    else none
  | [] => none

/-- The number that digits write in a base of at most sixteen. -/
def digitsValue (base : Nat) (digits : List Char) : Nat :=
  digits.foldl (fun n c => n * base + (hexValue? c).getD 0) 0

/-- A whole number in another base than ten, after its leading zero. -/
def basedInteger : Reader Value := fun cs =>
  let based (base : Nat) (isDigit : Char → Bool) (rest : List Char) :=
    (grouped isDigit rest).map fun (ds, rest) => (Value.integer (digitsValue base ds), rest)
  match cs with
  | '0' :: 'x' :: rest => based 16 (fun c => (hexValue? c).isSome) rest
  | '0' :: 'o' :: rest => based 8 (fun c => '0' ≤ c && c ≤ '7') rest
  | '0' :: 'b' :: rest => based 2 (fun c => c == '0' || c == '1') rest
  | _ => none

/-- The sign of a number, if it has one. -/
def sign : List Char → List Char × List Char
  | '+' :: rest => (['+'], rest)
  | '-' :: rest => (['-'], rest)
  | rest => ([], rest)

/-- The digits of the whole part of a number: a zero alone, or digits without a leading zero. -/
def wholePart : Reader (List Char)
  | '0' :: rest => some (['0'], rest)
  | cs => grouped isDecimalDigit cs

/-- The fraction of a number, if it has one. -/
def fraction (cs : List Char) : List Char × List Char :=
  match cs with
  | '.' :: rest =>
    match grouped isDecimalDigit rest with
    | some (ds, rest) => ('.' :: ds, rest)
    | none => ([], cs)
  | _ => ([], cs)

/-- The exponent of a number, if it has one. -/
def exponent (cs : List Char) : List Char × List Char :=
  match cs with
  | c :: rest =>
    if c = 'e' ∨ c = 'E' then
      let (s, rest) := sign rest
      match grouped isDecimalDigit rest with
      | some (ds, rest) => (c :: s ++ ds, rest)
      | none => ([], cs)
    else ([], cs)
  | [] => ([], cs)

/-- A number in base ten as it is written, without its underscores. -/
structure Numeral where
  /-- The sign, if there is one. -/
  sign : List Char
  /-- The digits of the whole part. -/
  whole : List Char
  /-- The fraction with its point, if there is one. -/
  fraction : List Char
  /-- The exponent with its letter, if there is one. -/
  exponent : List Char
  deriving DecidableEq, Repr

/-- A number in base ten. -/
def numeral : Reader Numeral := fun cs => do
  let (s, rest) := sign cs
  let (whole, rest) ← wholePart rest
  let (part, rest) := fraction rest
  let (power, rest) := exponent rest
  some (⟨s, whole, part, power⟩, rest)

/-- Whether a numeral writes a whole number. -/
def Numeral.isWhole (n : Numeral) : Bool := n.fraction.isEmpty && n.exponent.isEmpty

/-- The whole number that the digits of a numeral write. -/
def Numeral.integer (n : Numeral) : Int :=
  let size : Int := digitsValue 10 n.whole
  if n.sign = ['-'] then -size else size

/-- The value of a numeral. -/
def Numeral.value (n : Numeral) : Except Fault Value :=
  if !n.isWhole then .ok (.float (String.ofList (n.sign ++ n.whole ++ n.fraction ++ n.exponent)))
  else if Text.maxDigits < n.whole.length then .error (.longNumeral n.whole.length)
  else .ok (.integer n.integer)

/-- An infinite or undefined number. -/
def special : Reader Value := fun cs =>
  let (s, rest) := sign cs
  match rest with
  | 'i' :: 'n' :: 'f' :: rest => some (.float (String.ofList (s ++ ['i', 'n', 'f'])), rest)
  | 'n' :: 'a' :: 'n' :: rest => some (.float (String.ofList (s ++ ['n', 'a', 'n'])), rest)
  | _ => none

/-- A number of exactly two digits. -/
def twoDigits : Reader Nat
  | a :: b :: rest =>
    if isDecimalDigit a && isDecimalDigit b then some (digitsValue 10 [a, b], rest) else none
  | _ => none

/-- A number of exactly two digits between two bounds. -/
def twoDigitsWithin (lo hi : Nat) : Reader Nat := fun cs => do
  let (n, rest) ← twoDigits cs
  if lo ≤ n ∧ n ≤ hi then some (n, rest) else none

/-- The characters after the given one. -/
def after (c : Char) : List Char → Option (List Char)
  | d :: rest => if d = c then some rest else none
  | [] => none

/-- The characters after the fraction of a second, if there is one. -/
def skipFraction (cs : List Char) : List Char :=
  match cs with
  | '.' :: d :: rest => if isDecimalDigit d then rest.dropWhile isDecimalDigit else cs
  | _ => cs

/-- The characters after a time of day. -/
def skipTime (cs : List Char) : Option (List Char) := do
  let (_, rest) ← twoDigitsWithin 0 23 cs
  let (_, rest) ← twoDigitsWithin 0 59 (← after ':' rest)
  let (_, rest) ← twoDigitsWithin 0 59 (← after ':' rest)
  some (skipFraction rest)

/-- The characters after the distance from universal time, if one is given. -/
def skipZone (cs : List Char) : List Char :=
  match cs with
  | 'Z' :: rest | 'z' :: rest => rest
  | '+' :: rest | '-' :: rest =>
    let zone := do
      let (_, rest) ← twoDigitsWithin 0 23 rest
      let (_, rest) ← twoDigitsWithin 0 59 (← after ':' rest)
      some rest
    zone.getD cs
  | _ => cs

/-- The characters after the time of day that follows a date, if one does. -/
def skipDayTime (cs : List Char) : List Char :=
  match cs with
  | 'T' :: rest | 't' :: rest | ' ' :: rest => ((skipTime rest).map skipZone).getD cs
  | _ => cs

/-- Whether a year has a leap day. -/
def isLeapYear (year : Nat) : Bool := year % 4 == 0 && (year % 100 != 0 || year % 400 == 0)

/-- Number of days of a month. -/
def monthLength (year month : Nat) : Nat :=
  if month = 2 then if isLeapYear year then 29 else 28
  else if month = 4 ∨ month = 6 ∨ month = 9 ∨ month = 11 then 30
  else 31

/-- A written year, month and day. -/
def date : Reader (Nat × Nat × Nat) := fun cs => do
  let (century, rest) ← twoDigits cs
  let (year, rest) ← twoDigits rest
  let (month, rest) ← twoDigitsWithin 1 12 (← after '-' rest)
  let (day, rest) ← twoDigitsWithin 1 31 (← after '-' rest)
  some ((century * 100 + year, month, day), rest)

/-- Whether there is such a day. -/
def isDay : Nat × Nat × Nat → Bool
  | (year, month, day) => 1 ≤ year && day ≤ monthLength year month

/-- The text that was read when only `rest` is left. -/
def textBefore (cs rest : List Char) : String := String.ofList (cs.take (cs.length - rest.length))

/-- A number. -/
def number : ValueReader Value := fun cs =>
  match basedInteger cs, numeral cs with
  | some read, _ => .ok read
  | none, some (n, rest) => n.value.map fun v => (v, rest)
  | none, none => required (special cs)

/-- A number, date or time. -/
def scalar : ValueReader Value := fun cs =>
  match date cs with
  | some (day, rest) =>
    let rest := skipDayTime rest
    if isDay day then .ok (.moment (textBefore cs rest), rest) else .error .malformed
  | none =>
    match skipTime cs with
    | some rest => .ok (.moment (textBefore cs rest), rest)
    | none => number cs

end ModuleHints.Toml
