import ModuleHints.Require.Trigger

/-!
# Requests while typing

A client asks for completions by itself when one of certain characters is typed. A parenthesis or a
quotation mark should then open the argument of a `require` call, as seen from the text before the
character went in; where it does not, the request is answered with nothing.
-/

namespace ModuleHints.Server

/-- Why a client asks for completions. -/
inductive Cause where
  /-- The user asked for them. -/
  | invoked
  /-- A character was typed. -/
  | typed (character : Option String)
  /-- The last answer was not complete. -/
  | incomplete
  deriving DecidableEq, Repr

/-- Characters that open an argument. -/
def openers : List String := ["(", "'", "\""]

/-- The document without the character before an offset. -/
def withoutTyped (d : Document) (offset : Nat) : Document :=
  ⟨d.chars.take (offset - 1) ++ d.chars.drop offset⟩

/-- Whether a request deserves an answer. -/
def deserves (d : Document) (cursor : Int) : Cause → Bool
  | .invoked | .incomplete | .typed none => true
  | .typed (some character) =>
    if !openers.contains character ∨ d.slice (cursor - 1) cursor ≠ character.toList then true
    else (withoutTyped d cursor.toNat).typingOpensModules (cursor - 1) character

end ModuleHints.Server
