import ModuleHints.Source.Document

/-!
# Scanning backward

Tokens are read from a cursor back to the beginning of the document, nearest first. Each line is lexed
on its own, so an unfinished literal spoils no other line. The cursor's line is lexed only up to the
cursor, and a token around the cursor is cut there; earlier lines are lexed whole.

Nothing after the cursor is looked at: the scan is a function of the text before it.
-/

namespace ModuleHints

/-- The tokens of consecutive lines, the first of which begins at `offset`. Every line but the last is
ended by a line break, whose carriage return belongs to no token. -/
def lineTokens (offset : Nat) : List (List Char) → List Token
  | [] => []
  | [last] => Lexer.tokensFrom none offset last
  | line :: next :: rest =>
    Lexer.tokensFrom none offset (withoutReturn line) ++
      lineTokens (offset + line.length + 1) (next :: rest)

/-- The tokens of a text read line by line, nearest to its end first. -/
def scanText (text : List Char) : List Token := (lineTokens 0 (splitLines text)).reverse

/-- The tokens before a cursor, nearest first. -/
def Document.scanBackward (d : Document) (cursor : Int) : List Token := scanText (d.before cursor)

end ModuleHints
