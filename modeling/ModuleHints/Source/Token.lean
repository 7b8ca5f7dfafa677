/-!
# Tokens

A token is a classified piece of a source text. It keeps its text and the offset of its first character;
where it stops follows from the two, so a token can never disagree with its own length. Offsets count
characters.
-/

namespace ModuleHints

/-- What a piece of source text is. -/
inductive TokenKind where
  /-- A name that is not reserved. -/
  | identifier
  /-- A reserved word. -/
  | keyword
  /-- A numeric literal. -/
  | number
  /-- A literal between single or double quotes, possibly unfinished. -/
  | string
  /-- A literal between backticks, possibly unfinished. -/
  | template
  /-- A regular expression with its flags, possibly unfinished. -/
  | regexp
  /-- Punctuation. -/
  | operator
  /-- A comment to the end of its line, or a block. -/
  | comment
  /-- A character that begins no token. -/
  | error
  deriving DecidableEq, Repr

/-- A classified piece of source text. -/
structure Token where
  /-- What the text is. -/
  kind : TokenKind
  /-- The characters of the token. -/
  text : String
  /-- Offset of the first character. -/
  start : Nat
  deriving DecidableEq, Repr

namespace Token

/-- Offset just after the last character. -/
def stop (t : Token) : Nat := t.start + t.text.length

/-- Whether a completion may replace the token. -/
def canComplete (t : Token) : Bool := t.kind = .identifier ∨ t.kind = .keyword

/-- The token moved to the right. -/
def shift (t : Token) (n : Nat) : Token := { t with start := t.start + n }

end Token

/-- Whether a character may stand in an identifier. Identifiers are ASCII. -/
def isIdentChar (c : Char) : Bool := c.isAlphanum || c == '_' || c == '$'

/-- Whether a character may begin an identifier. -/
def isIdentStart (c : Char) : Bool := c.isAlpha || c == '_' || c == '$'

theorem isIdentChar_iff {c : Char} :
    isIdentChar c = true ↔ c.isAlphanum = true ∨ c = '_' ∨ c = '$' := by
  simp [isIdentChar, or_assoc]

/-- Whatever may begin an identifier may also stand inside one. -/
theorem isIdentChar_of_isIdentStart {c : Char} (h : isIdentStart c = true) :
    isIdentChar c = true := by
  simp only [isIdentStart, isIdentChar, Char.isAlphanum, Bool.or_eq_true] at h ⊢
  rcases h with (h | h) | h
  · exact .inl (.inl (.inl h))
  · exact .inl (.inr h)
  · exact .inr h

/-- A quotation mark that may open a string literal. -/
inductive Quote where
  /-- The apostrophe. -/
  | single
  /-- The double quotation mark. -/
  | double
  deriving DecidableEq, Repr

namespace Quote

/-- The character of a quotation mark. -/
def char : Quote → Char
  | single => '\''
  | double => '"'

/-- The quotation mark that a character is. -/
def ofChar? (c : Char) : Option Quote :=
  if c = '\'' then some single else if c = '"' then some double else none

/-- Exactly the two marks' own characters are read back as marks. -/
theorem ofChar?_eq_some_iff {c : Char} {q : Quote} : ofChar? c = some q ↔ c = q.char := by
  constructor
  · intro h
    unfold ofChar? at h
    split at h
    next hc => cases h; exact hc
    next =>
      split at h
      next hc => cases h; exact hc
      next => cases h
  · rintro rfl
    cases q <;> rfl

end Quote

end ModuleHints
