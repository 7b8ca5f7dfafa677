import ModuleHints.Text.Quoted
import ModuleHints.Source.Backward

/-!
# Showing the tokens before a cursor

A listing of what a backward scan sees, for finding out why a cursor was judged as it was: the place of
the cursor, and a line for each token up to a limit.
-/

namespace ModuleHints

/-- The name of a kind of token. -/
def TokenKind.name : TokenKind → String
  | identifier => "IDENTIFIER"
  | keyword => "KEYWORD"
  | number => "NUMBER"
  | string => "STRING"
  | template => "TEMPLATE"
  | regexp => "REGEXP"
  | operator => "OPERATOR"
  | comment => "COMMENT"
  | error => "ERROR"

/-- The text made at least ten characters wide. -/
def inColumn (s : String) : String := s ++ String.ofList (List.replicate (10 - s.length) ' ')

namespace Document

/-- The line about a token. -/
def tokenLine (d : Document) (t : Token) : String :=
  "  " ++ inColumn t.kind.name ++ " " ++ Text.quoted t.text ++ " [" ++ toString t.start ++ ":" ++
    toString t.stop ++ "] line " ++ toString (d.lineNumber t.start + 1) ++ "\n"

/-- The lines about tokens, at most `limit` of them and a mark for the rest. -/
def tokenLines (d : Document) (limit : Nat) (tokens : List Token) : String :=
  String.join ((tokens.take limit).map d.tokenLine) ++
    if limit < tokens.length then "  ...\n" else ""

/-- The listing for a cursor. -/
def dump (d : Document) (cursor : Int) (limit : Int) : String :=
  let position := d.positionAt cursor
  "Cursor " ++ toString cursor ++ " (line " ++ toString (position.1 + 1) ++ ", column " ++
    toString (position.2 + 1) ++ ")\n" ++ d.tokenLines limit.toNat (d.scanBackward cursor)

end Document

end ModuleHints
