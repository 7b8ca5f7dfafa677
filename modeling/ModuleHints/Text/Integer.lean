import ModuleHints.Unicode.Blank
import ModuleHints.Unicode.Number

/-!
# Reading whole numbers

A whole number is written in decimal digits of any script, with a sign before them, single underscores
between them and blanks around all of it. Separator controls are no such blanks. A numeral of too many
digits is refused.
-/

namespace ModuleHints.Text

/-- Whether a character may stand around a numeral. -/
def isMargin (c : Char) : Bool := Unicode.isBlank c && !(0x1C ≤ c.toNat && c.toNat ≤ 0x1F)

/-- The greatest number of digits that is read. -/
def maxDigits : Nat := 4300

/-- What is said of a numeral with too many digits. -/
def longNumeral (digits : Nat) : String :=
  "Exceeds the limit (" ++ toString maxDigits ++ " digits) for integer string conversion: value has " ++
    toString digits ++ " digits; use sys.set_int_max_str_digits() to increase the limit"

/-- The digit values of a numeral; `due` says that a digit must come next, as it must at the beginning
and after an underscore. -/
def digitValues? (due : Bool) : List Char → Option (List Nat)
  | [] => if due then none else some []
  | c :: rest =>
    if c = '_' then if due then none else digitValues? true rest
    else do
      let v ← Unicode.decimalValue? c
      let vs ← digitValues? false rest
      return v :: vs

/-- The number that a numeral without a sign writes. -/
def natural? (cs : List Char) : Option Nat := do
  let values ← digitValues? true cs
  if maxDigits < values.length then none else some (values.foldl (fun n v => n * 10 + v) 0)

/-- The text without the characters at its two ends that satisfy a test. -/
def trim (p : Char → Bool) (cs : List Char) : List Char :=
  ((cs.dropWhile p).reverse.dropWhile p).reverse

/-- The number that a text writes. -/
def integer? (s : String) : Option Int :=
  match trim isMargin s.toList with
  | '-' :: rest => (natural? rest).map fun n => -(n : Int)
  | '+' :: rest => (natural? rest).map Int.ofNat
  | rest => (natural? rest).map Int.ofNat

end ModuleHints.Text
