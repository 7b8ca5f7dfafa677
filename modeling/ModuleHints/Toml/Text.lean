import ModuleHints.Text.Hexadecimal

/-!
# Keys, strings and comments of TOML

Readers of the smallest parts of a TOML document. Each takes the characters from its place on and gives
what it read with the characters that follow, or nothing where the document breaks the rules.
-/

namespace ModuleHints.Toml

open Text (hexValue?)

/-- A reader of a part of a document. -/
abbrev Reader (α : Type) := List Char → Option (α × List Char)

/-- Whether a character is a space or a tab. -/
def isSpace (c : Char) : Bool := c == ' ' || c == '\t'

/-- Whether a character is a control other than the tab. -/
def isControl (c : Char) : Bool := c != '\t' && (c.toNat < 32 || c.toNat == 127)

/-- Whether a character is a control other than the tab and the line feed. -/
def isBlockControl (c : Char) : Bool := c != '\n' && isControl c

/-- The characters after spaces and tabs. -/
def skipSpaces (cs : List Char) : List Char := cs.dropWhile isSpace

/-- The characters after a comment, if one begins here. -/
def skipComment : List Char → Option (List Char)
  | '#' :: rest =>
    if (rest.takeWhile (· != '\n')).any isControl then none else some (rest.dropWhile (· != '\n'))
  | cs => some cs

/-- The characters after blanks, line feeds and comments; `inComment` says whether a comment has begun. -/
def skipFiller (inComment : Bool) : List Char → Option (List Char)
  | [] => some []
  | c :: rest =>
    if inComment then
      if c = '\n' then skipFiller false rest
      else if isControl c then none
      else skipFiller true rest
    else if isSpace c || c == '\n' then skipFiller false rest
    else if c = '#' then skipFiller true rest
    else some (c :: rest)

/-- Whether a character may stand in a key without quotes. -/
def isBareKeyChar (c : Char) : Bool := c.isAlphanum || c == '-' || c == '_'

/-- The number that hexadecimal digits write. -/
def hexNumber? (digits : List Char) : Option Nat :=
  digits.foldlM (fun n c => (hexValue? c).map fun d => n * 16 + d) 0

/-- The character with a code point written in `width` hexadecimal digits. -/
def codePoint (width : Nat) : Reader Char := fun cs =>
  if cs.length < width then none
  else do
    let n ← hexNumber? (cs.take width)
    if n.isValidChar then some (Char.ofNat n, cs.drop width) else none

/-- The character that an escape stands for, after its backslash. -/
def escaped : Reader Char
  | 'b' :: rest => some ('\x08', rest)
  | 't' :: rest => some ('\t', rest)
  | 'n' :: rest => some ('\n', rest)
  | 'f' :: rest => some ('\x0c', rest)
  | 'r' :: rest => some ('\r', rest)
  | '"' :: rest => some ('"', rest)
  | '\\' :: rest => some ('\\', rest)
  | 'u' :: rest => codePoint 4 rest
  | 'U' :: rest => codePoint 8 rest
  | _ => none

/-- What follows a backslash that continues a text on a later line: blanks up to the end of the line,
and all blank lines after it. -/
def continuation? (cs : List Char) : Option (List Char) :=
  match cs.dropWhile isSpace with
  | '\n' :: rest => some (rest.dropWhile fun c => isSpace c || c == '\n')
  | _ => none

/-- The characters of a text between double quotes, after its opening quote. At most `n` pieces are
read. -/
def basicText (n : Nat) : Reader (List Char) := fun cs =>
  match n, cs with
  | 0, _ => none
  | _, [] => none
  | _, '"' :: rest => some ([], rest)
  | n + 1, '\\' :: rest => do
    let (c, rest) ← escaped rest
    let (text, rest) ← basicText n rest
    some (c :: text, rest)
  | n + 1, c :: rest =>
    if isControl c then none
    else do
      let (text, rest) ← basicText n rest
      some (c :: text, rest)

/-- The characters of a text between three double quotes, after the opening ones. At most `n` pieces
are read. -/
def basicBlock (n : Nat) : Reader (List Char) := fun cs =>
  match n, cs with
  | 0, _ => none
  | _, [] => none
  | _, '"' :: '"' :: '"' :: rest => some ([], rest)
  | n + 1, '\\' :: rest =>
    match rest with
    | ' ' :: _ | '\t' :: _ | '\n' :: _ => do basicBlock n (← continuation? rest)
    | _ => do
      let (c, rest) ← escaped rest
      let (text, rest) ← basicBlock n rest
      some (c :: text, rest)
  | n + 1, c :: rest =>
    if isBlockControl c then none
    else do
      let (text, rest) ← basicBlock n rest
      some (c :: text, rest)

/-- The characters of a text between single quotes, after its opening quote. -/
def literalText : Reader (List Char) := fun cs =>
  let text := cs.takeWhile (· != '\'')
  match cs.dropWhile (· != '\'') with
  | '\'' :: rest => if text.any isControl then none else some (text, rest)
  | _ => none

/-- The characters of a text between three single quotes, after the opening ones. -/
def literalBlock : Reader (List Char)
  | [] => none
  | '\'' :: '\'' :: '\'' :: rest => some ([], rest)
  | c :: rest =>
    if isBlockControl c then none
    else (literalBlock rest).map fun (text, rest) => (c :: text, rest)

/-- A block of text with up to two more quotes before its closing ones. -/
def withExtraQuotes (quote : Char) : List Char × List Char → List Char × List Char
  | (text, c :: d :: rest) =>
    if c = quote then
      if d = quote then (text ++ [quote, quote], rest) else (text ++ [quote], d :: rest)
    else (text, c :: d :: rest)
  | (text, [c]) => if c = quote then (text ++ [quote], []) else (text, [c])
  | (text, []) => (text, [])

/-- A line feed just after the opening quotes of a block is not part of its text. -/
def dropFirstBreak : List Char → List Char
  | '\n' :: rest => rest
  | cs => cs

/-- A text in any of the four kinds of quotes. -/
def string : Reader String := fun cs =>
  let read : Option (List Char × List Char) :=
    match cs with
    | '"' :: '"' :: '"' :: rest =>
      (basicBlock (rest.length + 1) (dropFirstBreak rest)).map (withExtraQuotes '"')
    | '"' :: rest => basicText (rest.length + 1) rest
    | '\'' :: '\'' :: '\'' :: rest => (literalBlock (dropFirstBreak rest)).map (withExtraQuotes '\'')
    | '\'' :: rest => literalText rest
    | _ => none
  read.map fun (text, rest) => (String.ofList text, rest)

/-- One part of a key: bare, or a text on one line. -/
def keyPart : Reader String := fun cs =>
  match cs with
  | '"' :: rest => (basicText (rest.length + 1) rest).map fun (t, rest) => (String.ofList t, rest)
  | '\'' :: rest => (literalText rest).map fun (t, rest) => (String.ofList t, rest)
  | _ =>
    let bare := cs.takeWhile isBareKeyChar
    if bare.isEmpty then none else some (String.ofList bare, cs.drop bare.length)

/-- The parts of a key that follow its first one, after dots; at most `n` of them. -/
def keyRest (n : Nat) : Reader (List String) := fun cs =>
  match n, skipSpaces cs with
  | n + 1, '.' :: rest => do
    let (part, rest) ← keyPart (skipSpaces rest)
    let (parts, rest) ← keyRest n rest
    some (part :: parts, rest)
  | _, rest => some ([], rest)

/-- A key: parts joined by dots, blanks around them and after them. -/
def key : Reader (List String) := fun cs => do
  let (part, rest) ← keyPart cs
  let (parts, rest) ← keyRest rest.length rest
  some (part :: parts, rest)

end ModuleHints.Toml
