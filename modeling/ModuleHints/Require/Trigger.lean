import ModuleHints.Source.Backward

/-!
# Require calls around a cursor

Whether a cursor stands in the argument of a `require` call is read off the tokens before it, nearest
first: a half-typed string may come first, then an opening parenthesis, then the word `require`. The
one token before that word decides: the call counts where an expression may begin, so a member called
`require` does not count. A token on an earlier line never stands in the way.
-/

namespace ModuleHints

/-- Punctuation and words after which an expression may begin. -/
def expressionOpeners : List String :=
  ["!", "!=", "!==", "%", "%=", "&", "&&", "&=", "(", ")", "*", "*=", "+", "++", "+=", ",", "-", "--",
   "-=", "..", "...", "/", "/=", ":", ";", "<", "<<", "<<=", "<=", "=", "==", "===", ">", ">=", ">>",
   ">>=", ">>>", ">>>=", "?", "[", "^", "^=", "\x7b", "|", "|=", "||", "\x7d", "~", "in", "case", "new",
   "return", "throw", "typeof"]

/-- Words of the language and its dialects that are no names, so that no call follows them. -/
def statementWords : List String :=
  ["break", "case", "catch", "class", "const", "continue", "default", "delete", "do", "else", "eval",
   "extends", "false", "field", "final", "finally", "for", "function", "if", "import", "in",
   "instanceof", "new", "null", "package", "private", "protected", "public", "return", "super",
   "switch", "this", "throw", "true", "try", "typeof", "var", "while", "with", "abstract", "debugger",
   "enum", "export", "goto", "implements", "native", "static", "synchronized", "throws", "transient",
   "volatile"]

/-- Whether an expression may begin after a token with this text. -/
def startsExpression (text : String) : Bool :=
  text.toList.getLast? == some ';' || expressionOpeners.contains text ||
    (text.toList.all isIdentChar && !statementWords.contains text)

/-- The quotation mark that a token begins with. -/
def Token.openQuote? (t : Token) : Option Quote := t.text.toList.head?.bind Quote.ofChar?

/-- What a cursor after a `require` call was found to be. -/
structure Verdict where
  /-- The cursor, inside the document. -/
  cursor : Nat
  /-- Text of the token before the word `require`, if there is one. -/
  previous : Option String
  /-- Whether the call opens a module completion. -/
  opens : Bool
  deriving DecidableEq, Repr

/-- The tokens after a leading quoted one, where one may be passed over. -/
def passQuoted (allowed : Bool) : List Token → List Token
  | [] => []
  | t :: rest => if allowed && t.openQuote?.isSome then rest else t :: rest

/-- The tokens after a leading one with the given text. -/
def pass? (text : String) : List Token → Option (List Token)
  | [] => none
  | t :: rest => if t.text = text then some rest else none

/-- A token is passed exactly where it stands first and has the text. -/
theorem pass?_eq_some_iff {text : String} {tokens rest : List Token} :
    pass? text tokens = some rest ↔ ∃ t, t.text = text ∧ tokens = t :: rest := by
  cases tokens with
  | nil => simp [pass?]
  | cons t ts =>
    rw [pass?]
    constructor
    · intro h
      split at h
      next ht => cases h; exact ⟨t, ht, rfl⟩
      next => cases h
    · rintro ⟨u, hu, he⟩
      cases he
      rw [if_pos hu]

/-- The tokens before the word `require`, where the tokens nearest to the cursor are those of a call:
with `parenthesis` an opening parenthesis is asked for, with `quoted` a string may come first. -/
def beforeRequire? (tokens : List Token) (parenthesis quoted : Bool) : Option (List Token) := do
  let tokens := passQuoted quoted tokens
  let tokens ← if parenthesis then pass? "(" tokens else some tokens
  pass? "require" tokens

namespace Document

/-- Whether a `require` call may stand after this token, for a cursor at `cursor`. -/
def mayFollow (d : Document) (cursor : Nat) : Option Token → Bool
  | none => true
  | some t => d.lineNumber t.start ≠ d.lineNumber cursor || startsExpression t.text

/-- The verdict on the call around a cursor, where there is one. -/
def requireVerdict? (d : Document) (cursor : Int) (parenthesis quoted : Bool) : Option Verdict :=
  (beforeRequire? (d.scanBackward cursor) parenthesis quoted).map fun earlier =>
    { cursor := d.clamp cursor
      previous := earlier.head?.map Token.text
      opens := d.mayFollow (d.clamp cursor) earlier.head? }

/-- Whether module completions apply at a cursor. -/
def opensModules (d : Document) (cursor : Int) (parenthesis quoted : Bool) : Bool :=
  (d.requireVerdict? cursor parenthesis quoted).any Verdict.opens

/-- Whether typing a text at a cursor would open a module completion. A parenthesis completes the
call by itself, while a quotation mark needs the parenthesis to be there already. -/
def typingOpensModules (d : Document) (cursor : Int) (typed : String) : Bool :=
  if typed = "(" then d.opensModules cursor false false
  else if typed = "'" ∨ typed = "\"" then d.opensModules cursor true false
  else false

end Document

end ModuleHints
