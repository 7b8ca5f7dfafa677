import ModuleHints.Unicode.Blank
import ModuleHints.Unicode.Number
import ModuleHints.Unicode.Alphanumeric
import ModuleHints.Source.Token

/-!
# Lexing

The lexer works on half-typed code, so it never fails: a literal or comment that is still open where
the text ends is closed there, and a character that begins nothing is a token of its own. Blank
characters separate tokens and belong to none.

Each kind of token says how many characters follow its first one. A lexeme is therefore never empty,
what is left after it is always shorter, and cutting the text short can only cut the last lexeme.
-/

namespace ModuleHints.Lexer

open Unicode

/-- The reserved words. -/
def keywords : List String :=
  ["async", "await", "break", "case", "catch", "class", "const", "continue", "debugger", "default",
   "delete", "do", "else", "enum", "export", "extends", "false", "finally", "for", "function", "if",
   "import", "in", "instanceof", "let", "new", "null", "return", "static", "super", "switch", "this",
   "throw", "true", "try", "typeof", "var", "void", "while", "with", "yield"]

/-- The operators; a longer one stands before every operator that begins it. -/
def operators : List String :=
  [">>>=", "...", "!==", "===", ">>>", "<<=", ">>=", "&&=", "||=", "??=", "**=", "!=", "==", "+=",
   "-=", "*=", "/=", "%=", "&=", "|=", "^=", "<=", ">=", "&&", "||", "??", "?.", "<<", ">>", "**",
   "++", "--", "=>", "..", "+", "-", "*", "/", "%", "&", "~", "!", "|", "^", "=", "<", ">", "(", ")",
   "\x7b", "\x7d", "[", "]", ";", ":", "?", ".", ","]

/-- Operators that end a value. -/
def valueEndOperators : List String := [")", "]", "\x7d", "++", "--"]

/-- Reserved words that are values. -/
def valueKeywords : List String := ["this", "super", "true", "false", "null"]

/-- Whether a slash after this token begins a regular expression rather than divides a value. -/
def regexpAllowed : Option Token → Bool
  | none => true
  | some t =>
    match t.kind with
    | .identifier | .number | .string | .template | .regexp => false
    | .keyword => !valueKeywords.contains t.text
    | .operator => !valueEndOperators.contains t.text
    | .comment | .error => true

/-- Characters of a number after `prev`. A sign belongs to it only after the mark of an exponent,
and never in a hexadecimal number, where that mark is a digit. -/
def numberTail (hexadecimal : Bool) (prev : Char) : List Char → Nat
  | [] => 0
  | c :: rest =>
    if isAlphanumeric c || c == '.' || c == '_' then numberTail hexadecimal c rest + 1
    else if (c == '+' || c == '-') && (prev == 'e' || prev == 'E') && !hexadecimal then
      numberTail hexadecimal c rest + 1
    else 0

/-- Characters of a string after its opening quote. A backslash takes the next character with it,
and a line feed ends an unfinished literal before itself. -/
def stringTail (quote : Char) : List Char → Nat
  | [] => 0
  | '\\' :: [] => 1
  | '\\' :: _ :: rest => stringTail quote rest + 2
  | c :: rest => if c = '\n' then 0 else if c = quote then 1 else stringTail quote rest + 1

/-- Characters of a template after its opening backtick. -/
def templateTail : List Char → Nat
  | [] => 0
  | '\\' :: [] => 1
  | '\\' :: _ :: rest => templateTail rest + 2
  | c :: rest => if c = '\x60' then 1 else templateTail rest + 1

/-- Characters of a block comment after its opening slash and star. -/
def blockTail : List Char → Nat
  | [] => 0
  | '*' :: '/' :: _ => 2
  | _ :: rest => blockTail rest + 1

/-- Characters of a regular expression after its opening slash. A slash inside a class does not
close it, and the flags after the closing slash belong to it. -/
def regexpTail (inClass : Bool) : List Char → Nat
  | [] => 0
  | '\\' :: [] => 1
  | '\\' :: _ :: rest => regexpTail inClass rest + 2
  | c :: rest =>
    if c = '\n' then 0
    else if c = '[' then regexpTail true rest + 1
    else if c = ']' then regexpTail false rest + 1
    else if c = '/' && !inClass then (rest.takeWhile isIdentChar).length + 1
    else regexpTail inClass rest + 1

/-- Whether a digit stands next. -/
def digitNext : List Char → Bool
  | [] => false
  | c :: _ => isDigit c

/-- Whether a first character and what follows open a hexadecimal number. -/
def opensHexadecimal (c : Char) : List Char → Bool
  | [] => false
  | d :: _ => c == '0' && (d == 'x' || d == 'X')

/-- The first operator of the table that the text begins with. -/
def operatorAt? (cs : List Char) : Option String :=
  operators.find? fun op => op.toList.isPrefixOf cs

/-- Punctuation, or a character that begins nothing. -/
def punctuation (c : Char) (rest : List Char) : TokenKind × Nat :=
  match operatorAt? (c :: rest) with
  | some op => (.operator, op.length - 1)
  | none => (.error, 0)

/-- What begins with a slash: a comment, a regular expression where one is allowed, or an operator. -/
def slash (regexp : Bool) (rest : List Char) : TokenKind × Nat :=
  match rest with
  | '/' :: _ => (.comment, (rest.takeWhile (· != '\n')).length)
  | '*' :: more => (.comment, blockTail more + 1)
  | _ => if regexp then (.regexp, regexpTail false rest) else punctuation '/' rest

/-- The kind of the token that begins with `c`, and how many of the characters after it belong to
the token; `regexp` says whether a slash may begin a regular expression. -/
def lexeme (regexp : Bool) (c : Char) (rest : List Char) : TokenKind × Nat :=
  if isIdentStart c then
    let word := rest.takeWhile isIdentChar
    (if keywords.contains (String.ofList (c :: word)) then .keyword else .identifier, word.length)
  else if isDigit c || (c == '.' && digitNext rest) then
    (.number, numberTail (opensHexadecimal c rest) c rest)
  else if c = '\'' ∨ c = '"' then (.string, stringTail c rest)
  else if c = '\x60' then (.template, templateTail rest)
  else if c = '/' then slash regexp rest
  else punctuation c rest

theorem length_takeWhile_le (p : Char → Bool) (cs : List Char) :
    (cs.takeWhile p).length ≤ cs.length :=
  (List.takeWhile_prefix p).length_le

theorem numberTail_le (hexadecimal : Bool) (prev : Char) (cs : List Char) :
    numberTail hexadecimal prev cs ≤ cs.length := by
  fun_induction numberTail hexadecimal prev cs <;> simp_all

theorem stringTail_le (quote : Char) (cs : List Char) : stringTail quote cs ≤ cs.length := by
  fun_induction stringTail quote cs <;> simp_all

theorem templateTail_le (cs : List Char) : templateTail cs ≤ cs.length := by
  fun_induction templateTail cs <;> simp_all

theorem blockTail_le (cs : List Char) : blockTail cs ≤ cs.length := by
  fun_induction blockTail cs <;> simp_all

theorem regexpTail_le (inClass : Bool) (cs : List Char) : regexpTail inClass cs ≤ cs.length := by
  fun_induction regexpTail inClass cs <;> simp_all [length_takeWhile_le]

theorem length_operatorAt?_le {cs : List Char} {op : String} (h : operatorAt? cs = some op) :
    op.length ≤ cs.length := by
  have hp := List.find?_some h
  exact (List.isPrefixOf_iff_prefix.mp hp).length_le

/-- Punctuation ends within the text. -/
theorem punctuation_le (c : Char) (rest : List Char) : (punctuation c rest).2 ≤ rest.length := by
  unfold punctuation
  split
  next op h =>
    have hl := length_operatorAt?_le h
    rw [List.length_cons] at hl
    exact Nat.sub_le_of_le_add hl
  next => exact Nat.zero_le _

/-- Whatever begins with a slash ends within the text. -/
theorem slash_le (regexp : Bool) (rest : List Char) : (slash regexp rest).2 ≤ rest.length := by
  unfold slash
  split
  next more => exact length_takeWhile_le ..
  next more => exact Nat.succ_le_succ (blockTail_le more)
  next =>
    split
    · exact regexpTail_le ..
    · exact punctuation_le ..

/-- Every token ends within the text. -/
theorem lexeme_le (regexp : Bool) (c : Char) (rest : List Char) :
    (lexeme regexp c rest).2 ≤ rest.length := by
  unfold lexeme
  split
  · exact length_takeWhile_le ..
  · split
    · exact numberTail_le ..
    · split
      · exact stringTail_le ..
      · split
        · exact templateTail_le ..
        · split
          · exact slash_le ..
          · exact punctuation_le ..

/-- The tokens of a text whose first character has the given offset, after the token `last`. -/
def tokensFrom (last : Option Token) (offset : Nat) : List Char → List Token
  | [] => []
  | c :: rest =>
    if isBlank c then tokensFrom last (offset + 1) rest
    else
      let (kind, more) := lexeme (regexpAllowed last) c rest
      let t : Token := ⟨kind, String.ofList (c :: rest.take more), offset⟩
      t :: tokensFrom (some t) (offset + 1 + more) (rest.drop more)
termination_by cs => cs.length

/-- The tokens of the characters from `start` to `stop`. Offsets count from the beginning of the
source, and a token that crosses `stop` is cut there. -/
def tokens (source : List Char) (start stop : Nat) : List Token :=
  tokensFrom none start ((source.take stop).drop start)

/-- The tokens of a range whose ends may be any integers; a missing end is that of the source. -/
def tokenize (source : List Char) (start : Int) (stop : Option Int) : List Token :=
  tokens source start.toNat ((stop.getD source.length).toNat)

end ModuleHints.Lexer
