import ModuleHints.Source.Token

/-!
# Spans

A span is the stretch of text that a completion replaces; an empty one is a place to insert at. Lengths
are natural numbers, so the only way to a span from two integers refuses a negative length.
-/

namespace ModuleHints

/-- The text that a completion replaces. -/
structure Span where
  /-- Offset of the first replaced character. -/
  start : Int
  /-- Number of replaced characters; none means to insert. -/
  length : Nat
  deriving DecidableEq, Repr

/-- Why two integers are no span. -/
inductive SpanError where
  /-- The length is below zero. -/
  | negativeLength (length : Int)
  deriving DecidableEq, Repr

/-- The text of a refusal. -/
def SpanError.message : SpanError → String
  | .negativeLength n => "negative span length: " ++ toString n

namespace Span

/-- Offset just after the last replaced character. -/
def stop (s : Span) : Int := s.start + s.length

/-- The span with the given start and length. -/
def ofInts (start length : Int) : Except SpanError Span :=
  if length < 0 then .error (.negativeLength length) else .ok ⟨start, length.toNat⟩

/-- The place to insert at an offset. -/
def empty (offset : Nat) : Span := ⟨offset, 0⟩

/-- All of a token. -/
def ofToken (t : Token) : Span := ⟨t.start, t.text.length⟩

/-- A span is refused exactly for its length. -/
theorem ofInts_eq_ok_iff {start length : Int} {s : Span} :
    ofInts start length = .ok s ↔ s.start = start ∧ (s.length : Int) = length := by
  unfold ofInts
  split
  next h =>
    constructor
    · intro he; cases he
    · rintro ⟨-, he⟩; omega
  next h =>
    constructor
    · intro he
      cases he
      exact ⟨rfl, by simp; omega⟩
    · rintro ⟨rfl, rfl⟩
      rfl

@[simp] theorem stop_ofToken (t : Token) : (ofToken t).stop = t.stop := by
  simp [ofToken, stop, Token.stop]

end Span

/-- How a span is named in diagnostics. -/
def Span.describe (s : Span) : String :=
  "ReplacementSpan(start=" ++ toString s.start ++ ", length=" ++ toString s.length ++ ")"

end ModuleHints
