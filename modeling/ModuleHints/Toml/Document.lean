import ModuleHints.Text.Lines
import ModuleHints.Toml.Scalar

/-!
# TOML documents

A document is a list of statements, one to a line: a key with its value, or the header of a table. A
table may be declared once; a table or list that was written as one value can not be added to, and
neither can a table that dotted keys made be declared under a later header.
-/

namespace ModuleHints.Toml

mutual

/-- A value, of which at most `n` levels and parts are read. -/
def value (n : Nat) : ValueReader Value := fun cs =>
  match n, cs with
  | 0, _ => .error .malformed
  | n + 1, '[' :: rest => do
    let rest ← required (skipFiller false rest)
    let (items, rest) ← arrayItems n rest
    return (.array items, rest)
  | n + 1, '\x7b' :: rest => do
    match skipSpaces rest with
    | '\x7d' :: rest => return (.table [], rest)
    | rest =>
      let (entries, rest) ← inlineEntries n [] [] rest
      return (.table entries, rest)
  | _ + 1, 't' :: 'r' :: 'u' :: 'e' :: rest => .ok (.boolean true, rest)
  | _ + 1, 'f' :: 'a' :: 'l' :: 's' :: 'e' :: rest => .ok (.boolean false, rest)
  | _ + 1, '"' :: _ | _ + 1, '\'' :: _ =>
    required ((string cs).map fun (s, rest) => (.string s, rest))
  | _ + 1, _ => scalar cs

/-- The items of an array up to its closing bracket. -/
def arrayItems (n : Nat) : ValueReader (List Value) := fun cs =>
  match n, cs with
  | 0, _ => .error .malformed
  | _ + 1, ']' :: rest => .ok ([], rest)
  | n + 1, _ => do
    let (item, rest) ← value n cs
    match ← required (skipFiller false rest) with
    | ']' :: rest => return ([item], rest)
    | ',' :: rest =>
      let (items, rest) ← arrayItems n (← required (skipFiller false rest))
      return (item :: items, rest)
    | _ => .error .malformed

/-- The entries of a table on one line up to its closing brace, after those of `t`; the keys of
`closed` hold values that can not be added to. -/
def inlineEntries (n : Nat) (closed : List (List String)) (t : Table) : ValueReader Table := fun cs =>
  match n with
  | 0 => .error .malformed
  | n + 1 => do
    let (path, rest) ← required (key cs)
    let (item, rest) ← value n (skipSpaces (← required (after '=' rest)))
    if closed.any fun k => k.isPrefixOf path then .error .malformed
    else
      let name := path.getLast?.getD ""
      let add := fun (inner : Table) =>
        if (inner.get? name).isSome then none else some (inner.set name item)
      let t ← required (t.change false add path.dropLast)
      match skipSpaces rest with
      | '\x7d' :: rest => return (t, rest)
      | ',' :: rest =>
        let closed := if item.isContainer then path :: closed else closed
        inlineEntries n closed t (skipSpaces rest)
      | _ => .error .malformed

end

/-- What has been read of a document. -/
structure State where
  /-- The values so far. -/
  data : Table := []
  /-- Keys of the table that statements add to. -/
  header : List String := []
  /-- Tables that can not be declared any more. -/
  declared : List (List String) := []
  /-- Tables made by dotted keys, which the next header will find declared. -/
  pending : List (List String) := []
  /-- Values that can not be added to, nor anything inside them. -/
  closed : List (List String) := []

namespace State

/-- Whether a key lies at or inside a value that can not be added to. -/
def isClosed (s : State) (path : List String) : Bool := s.closed.any fun k => k.isPrefixOf path

/-- The state when a header comes next. -/
def beforeHeader (s : State) : State :=
  { s with declared := s.pending ++ s.declared, pending := [] }

/-- Declares a table. -/
def declareTable (s : State) (path : List String) : Option State :=
  if s.declared.contains path || s.isClosed path then none
  else
    (s.data.change true some path).map fun data =>
      { s with data := data, header := path, declared := path :: s.declared }

/-- Declares one more table of a list of tables. All that was said of the table before it is
forgotten. -/
def declareItem (s : State) (path : List String) : Option State :=
  if s.isClosed path then none
  else
    let keep := fun (k : List String) => !path.isPrefixOf k
    let name := path.getLast?.getD ""
    let add := fun (inner : Table) =>
      match inner.get? name with
      | none => some (inner.set name (.array [.table []]))
      | some (.array items) => some (inner.set name (.array (items ++ [.table []])))
      | some _ => none
    (s.data.change true add path.dropLast).map fun data =>
      { s with
        data := data
        header := path
        declared := path :: s.declared.filter keep
        closed := s.closed.filter keep }

/-- The proper beginnings of a key, shortest first. -/
def beginnings (path : List String) : List (List String) :=
  (List.range (path.length - 1)).map fun n => path.take (n + 1)

/-- Adds a value under a key of the current table. -/
def add (s : State) (path : List String) (item : Value) : Option State :=
  let made := (beginnings path).map (s.header ++ ·)
  let name := path.getLast?.getD ""
  let parent := s.header ++ path.dropLast
  let put := fun (inner : Table) =>
    if (inner.get? name).isSome then none else some (inner.set name item)
  if made.any s.declared.contains || s.isClosed parent then none
  else
    (s.data.change true put parent).map fun data =>
      { s with
        data := data
        pending := made ++ s.pending
        closed := if item.isContainer then (s.header ++ path) :: s.closed else s.closed }

end State

/-- What one statement makes of the state, without the comment and line break after it. -/
def statement (s : State) (cs : List Char) : Except Fault (State × List Char) :=
  match cs with
  | '[' :: '[' :: rest => do
    let (path, rest) ← required (key (skipSpaces rest))
    let s ← required (s.beforeHeader.declareItem path)
    let rest ← required ((after ']' rest).bind (after ']'))
    return (s, rest)
  | '[' :: rest => do
    let (path, rest) ← required (key (skipSpaces rest))
    let s ← required (s.beforeHeader.declareTable path)
    return (s, ← required (after ']' rest))
  | '#' :: _ | '\n' :: _ => .ok (s, cs)
  | _ => do
    let (path, rest) ← required (key cs)
    let (item, rest) ← value (rest.length + 1) (skipSpaces (← required (after '=' rest)))
    let s ← required (s.add path item)
    return (s, rest)

/-- What a line with one statement makes of the state, and what follows it from its line break on. -/
def line (s : State) (cs : List Char) : Except Fault (State × List Char) := do
  let (s, rest) ← statement s cs
  return (s, ← required (skipComment (skipSpaces rest)))

/-- A document that breaks the rules. -/
structure Malformed where
  /-- The line of the first statement that can not be read, counted from one. -/
  line : Nat
  deriving DecidableEq, Repr

/-- What breaks the rules, in words. -/
def Malformed.message (e : Malformed) : String := "statement at line " ++ toString e.line

/-- Why a document is not read. -/
inductive Refusal where
  /-- It breaks the rules. -/
  | malformed (cause : Malformed)
  /-- A whole number has too many digits. -/
  | longNumeral (digits : Nat)
  deriving DecidableEq, Repr

/-- A fault in the statement at a line. -/
def Fault.at (number : Nat) : Fault → Refusal
  | malformed => .malformed ⟨number⟩
  | longNumeral digits => .longNumeral digits

/-- The values of the statements from here on, at most `n` of them, the first at line `number`. -/
def statements (n number : Nat) (s : State) (cs : List Char) : Except Refusal Table :=
  match n, skipSpaces cs with
  | 0, _ | _, [] => .ok s.data
  | n + 1, cs =>
    match line s cs with
    | .error fault => .error (fault.at number)
    | .ok (s, []) => .ok s.data
    | .ok (s, c :: rest) =>
      if c = '\n' then
        statements n (number + (cs.take (cs.length - rest.length)).count '\n') s rest
      else .error (.malformed ⟨number⟩)

/-- A text in which a line feed alone ends each line; other carriage returns stay. -/
def joinBreaks : List Char → List Char
  | [] => []
  | '\r' :: '\n' :: rest => '\n' :: joinBreaks rest
  | c :: rest => c :: joinBreaks rest

/-- The values of a document. -/
def read (text : String) : Except Refusal Table :=
  let cs := joinBreaks text.toList
  statements (cs.length + 1) 1 {} cs

end ModuleHints.Toml
