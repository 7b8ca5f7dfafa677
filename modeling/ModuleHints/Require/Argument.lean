import ModuleHints.Source.Span
import ModuleHints.Require.Trigger

/-!
# The argument of a require call

A committed completion replaces the argument that is being typed: all of it after its opening quote, up
to and including its closing quote, also where these stand after the cursor. Without a quote there is
nothing to replace, and the completion goes in at the cursor.
-/

namespace ModuleHints

/-- What a committed completion finds at the cursor. -/
structure Argument where
  /-- The quotation mark already typed. -/
  quote : Option Quote
  /-- The text that is replaced. -/
  span : Span
  deriving DecidableEq, Repr

namespace Document

/-- The literal that begins at an offset, lexed to the end of its line. -/
def literalAt? (d : Document) (start : Nat) : Option Token :=
  (d.classify start (d.lineStop (d.lineNumber start))).head?

/-- The argument at a cursor. A quoted token just before it is the part of the literal before the
cursor; the span runs from after its quote to the end of the whole literal. -/
def argumentAt (d : Document) (cursor : Int) : Argument :=
  let offset := d.clamp cursor
  match (d.scanBackward cursor).head? with
  | none => ⟨none, Span.empty offset⟩
  | some typed =>
    match typed.openQuote? with
    | none => ⟨none, Span.empty offset⟩
    | some quote =>
      let whole := (d.literalAt? typed.start).getD typed
      ⟨some quote, ⟨offset - (typed.text.length - 1 : Nat), whole.text.length - 1⟩⟩

end Document

end ModuleHints
