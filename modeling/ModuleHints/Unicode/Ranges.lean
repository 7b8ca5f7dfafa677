/-!
# Sets of code points

A set of code points is a list of inclusive ranges in ascending order, so a search stops at the first
range that begins beyond the code point.
-/

namespace ModuleHints.Unicode

/-- The first code point of the range that holds `n`. -/
def enclosing? : List (Nat × Nat) → Nat → Option Nat
  | [], _ => none
  | (lo, hi) :: rest, n => if n < lo then none else if n ≤ hi then some lo else enclosing? rest n

/-- Whether some range holds `n`. -/
def inRanges (ranges : List (Nat × Nat)) (n : Nat) : Bool := (enclosing? ranges n).isSome

end ModuleHints.Unicode
