/-!
# Case mappings

A case mapping sends a character to one or several. Most characters of a script move by a common
distance, or every second one does; the few that become several characters are listed one by one.
-/

namespace ModuleHints.Unicode

/-- A run of code points that a case mapping moves by one distance. -/
structure CaseRange where
  /-- First code point of the run. -/
  lo : Nat
  /-- Last code point of the run. -/
  hi : Nat
  /-- Distance between neighbours of the run: one, or two where cases alternate. -/
  stride : Nat
  /-- What is added to a code point of the run. -/
  shift : Int
  deriving DecidableEq, Repr

/-- The code point that `n` is sent to, itself if no run holds it. -/
def shiftCase : List CaseRange → Nat → Nat
  | [], n => n
  | r :: rest, n =>
    if n < r.lo then n
    else if n ≤ r.hi then if (n - r.lo) % r.stride = 0 then (n + r.shift).toNat else n
    else shiftCase rest n

/-- All that a single character becomes. -/
def caseForm (ranges : List CaseRange) (special : List (Nat × List Nat)) (c : Char) : List Char :=
  match special.lookup c.toNat with
  | some form => form.map Char.ofNat
  | none => [Char.ofNat (shiftCase ranges c.toNat)]

/-- The text with every character replaced by what it becomes. -/
def mapCase (ranges : List CaseRange) (special : List (Nat × List Nat)) (s : String) : String :=
  String.ofList (s.toList.flatMap (caseForm ranges special))

end ModuleHints.Unicode
