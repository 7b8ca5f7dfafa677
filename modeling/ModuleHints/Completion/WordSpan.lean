import ModuleHints.Source.Span
import ModuleHints.Source.Document

/-!
# The word at a cursor

A completed word replaces the word that touches the cursor. The tokens of the cursor's line are taken
whole, and only those that begin before the cursor or at it matter. A cursor inside a token asks for
that token alone; between two tokens the one that begins there is preferred.
-/

namespace ModuleHints

/-- The span of a token that may be completed. -/
def Token.wordSpan? (t : Token) : Option Span := if t.canComplete then some (.ofToken t) else none

/-- The word at `position` among the tokens up to it, nearest first. -/
def wordAmong (position : Nat) : List Token → Option Span
  | [] => none
  | last :: earlier =>
    if last.stop < position then none
    else if last.start < position then last.wordSpan?
    else
      let free :=
        match earlier with
        | [] => true
        | t :: _ => t.stop < position || !t.canComplete
      if last.start = position && last.canComplete && free then some (.ofToken last)
      else
        match earlier with
        | [] => none
        | t :: _ => if t.stop = position then t.wordSpan? else none

namespace Document

/-- The word that touches a position, if there is one. -/
def wordSpan? (d : Document) (position : Int) : Option Span :=
  if 0 ≤ position ∧ position ≤ d.length then
    let offset := position.toNat
    let line := d.lineNumber position
    let stop := d.lineStop line
    let boundary := if offset < stop then offset + 1 else offset
    let tokens := (d.classify (d.lineStart line) stop).filter fun t => t.start < boundary
    wordAmong offset tokens.reverse
  else none

/-- The word that touches a position, or the place to insert one. -/
def wordSpan (d : Document) (position : Int) : Span :=
  (d.wordSpan? position).getD (.empty (d.clamp position))

end Document

end ModuleHints
