import ModuleHints.Unicode.Printable
import ModuleHints.Text.Hexadecimal

/-!
# Quoted texts

A text is shown between quotes so that its ends and its invisible characters can be seen. Single quotes
enclose it unless it holds a single quote and no double one. The enclosing quote and the backslash are
escaped, line feed, carriage return and tab have escapes of their own, and every other character
without a visible form is written by its code point.
-/

namespace ModuleHints.Text

/-- The escape that names a character by its code point, in the shortest of three widths. -/
def codePointEscape (c : Char) : List Char :=
  if c.toNat < 0x100 then '\\' :: 'x' :: hexadecimal 2 c.toNat
  else if c.toNat < 0x10000 then '\\' :: 'u' :: hexadecimal 4 c.toNat
  else '\\' :: 'U' :: hexadecimal 8 c.toNat

/-- How a character is written between two of the given quotes. -/
def quotedChar (quote c : Char) : List Char :=
  if c = quote ∨ c = '\\' then ['\\', c]
  else if c = '\n' then ['\\', 'n']
  else if c = '\r' then ['\\', 'r']
  else if c = '\t' then ['\\', 't']
  else if Unicode.isPrintable c then [c]
  else codePointEscape c

/-- The quote that encloses a text: double only where that saves escapes. -/
def enclosingQuote (cs : List Char) : Char :=
  if cs.contains '\'' && !cs.contains '"' then '"' else '\''

/-- The text between quotes. -/
def quoted (s : String) : String :=
  let cs := s.toList
  let quote := enclosingQuote cs
  String.ofList (quote :: cs.flatMap (quotedChar quote) ++ [quote])

end ModuleHints.Text
