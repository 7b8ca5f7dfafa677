import ModuleHints.Unicode.Lower
import ModuleHints.Source.Lexer

/-!
# Reading tokens by position

A scanner moves a position through a source instead of taking characters off a text. It asks for one
character at a time, and only for places before the end of its range; a number looks back at the
character before a sign and at its own first two characters, and a backslash moves the position two
places on, which may be past the end and is then brought back.
-/

namespace ModuleHints

/-- A source and the place where lexing it stops. -/
structure Scanner where
  /-- The whole text. -/
  source : List Char
  /-- The end of the range, which no token crosses. -/
  stop : Nat
  /-- The range ends within the text. -/
  le : stop ≤ source.length

namespace Scanner

open Unicode Lexer

/-- The scanner of a source up to a place that may be any integer; a missing one is its end. -/
def upTo (source : List Char) (stop : Option Int) : Scanner where
  source := source
  stop := min (stop.getD source.length).toNat source.length
  le := Nat.min_le_right ..

variable (s : Scanner)

/-- The character at a place before the end of the range. -/
def charAt (pos : Nat) (h : pos < s.stop) : Char := s.source.get ⟨pos, Nat.lt_of_lt_of_le h s.le⟩

/-- The character at a place, if the range reaches it. -/
def peek? (pos : Nat) : Option Char := if h : pos < s.stop then some (s.charAt pos h) else none

/-- The text between two places. -/
def text (first last : Nat) : String := String.ofList ((s.source.take last).drop first)

/-- Where a run of characters ends. -/
def runEnd (p : Char → Bool) (pos : Nat) : Nat :=
  if h : pos < s.stop then if p (s.charAt pos h) then runEnd p (pos + 1) else pos else pos
termination_by s.stop - pos

/-- Whether the mark of a hexadecimal number stands at a place. -/
def isHexadecimal (start : Nat) : Bool := lowerCase (s.text start (start + 2)) == "0x"

/-- Whether the mark of an exponent stands before a place. A number asks only behind its first
character. -/
def followsExponent (pos : Nat) : Bool :=
  s.source[pos - 1]?.any fun c => c == 'e' || c == 'E'

/-- Where a number that begins at `start` ends. -/
def numberEnd (start pos : Nat) : Nat :=
  if h : pos < s.stop then
    let c := s.charAt pos h
    if isAlphanumeric c || c == '.' || c == '_' then numberEnd start (pos + 1)
    else if (c == '+' || c == '-') && s.followsExponent pos && !s.isHexadecimal start then
      numberEnd start (pos + 1)
    else pos
  else pos
termination_by s.stop - pos

/-- Where a string that has been opened ends, or the place after an escape that the end of the range
cuts. -/
def stringEnd (quote : Char) (pos : Nat) : Nat :=
  if h : pos < s.stop then
    let c := s.charAt pos h
    if c = '\\' then stringEnd quote (pos + 2)
    else if c = '\n' then pos
    else if c = quote then pos + 1
    else stringEnd quote (pos + 1)
  else pos
termination_by s.stop - pos

/-- Where a template that has been opened ends, or the place after an escape that the end of the
range cuts. -/
def templateEnd (pos : Nat) : Nat :=
  if h : pos < s.stop then
    let c := s.charAt pos h
    if c = '\\' then templateEnd (pos + 2)
    else if c = '\x60' then pos + 1
    else templateEnd (pos + 1)
  else pos
termination_by s.stop - pos

/-- Where a block comment is closed at a place or after it. -/
def closing? (pos : Nat) : Option Nat :=
  if pos < s.stop then
    if s.peek? pos = some '*' ∧ s.peek? (pos + 1) = some '/' then some pos else closing? (pos + 1)
  else none
termination_by s.stop - pos

/-- Where a block comment ends whose star stands before `pos`. -/
def blockEnd (pos : Nat) : Nat :=
  match s.closing? pos with
  | some close => close + 2
  | none => s.stop

/-- Where a regular expression that has been opened ends, or the place after an escape that the end
of the range cuts. -/
def regexpEnd (inClass : Bool) (pos : Nat) : Nat :=
  if h : pos < s.stop then
    let c := s.charAt pos h
    if c = '\n' then pos
    else if c = '\\' then regexpEnd inClass (pos + 2)
    else if c = '[' then regexpEnd true (pos + 1)
    else if c = ']' then regexpEnd false (pos + 1)
    else if c = '/' && !inClass then s.runEnd isIdentChar (pos + 1)
    else regexpEnd inClass (pos + 1)
  else pos
termination_by s.stop - pos

/-- The operator at a place, or the single character that begins nothing, and where it ends. -/
def punctuationAt (pos : Nat) : TokenKind × Nat :=
  match operators.find? fun op => op.toList.isPrefixOf ((s.source.take s.stop).drop pos) with
  | some op => (.operator, pos + op.length)
  | none => (.error, pos + 1)

/-- The kind of the token at a place, if one begins there, and where the lexer goes on; `regexp`
says whether a slash may begin a regular expression. -/
def lexOne (regexp : Bool) (pos : Nat) (h : pos < s.stop) : Option TokenKind × Nat :=
  let c := s.charAt pos h
  if isBlank c then (none, pos + 1)
  else if isIdentStart c then
    let last := s.runEnd isIdentChar pos
    (some (if keywords.contains (s.text pos last) then .keyword else .identifier), last)
  else if isDigit c || (c == '.' && (s.peek? (pos + 1)).any isDigit) then
    (some .number, s.numberEnd pos pos)
  else if c = '\'' ∨ c = '"' then (some .string, min (s.stringEnd c (pos + 1)) s.stop)
  else if c = '\x60' then (some .template, min (s.templateEnd (pos + 1)) s.stop)
  else if c = '/' ∧ s.peek? (pos + 1) = some '/' then (some .comment, s.runEnd (· != '\n') pos)
  else if c = '/' ∧ s.peek? (pos + 1) = some '*' then (some .comment, s.blockEnd (pos + 2))
  else if c = '/' ∧ regexp then (some .regexp, min (s.regexpEnd false (pos + 1)) s.stop)
  else (s.punctuationAt pos).map some id

end Scanner

end ModuleHints
