import ModuleHints.Text.Pieces
import ModuleHints.Unicode.Lower

/-!
# Paths

A path is a list of names under an anchor. Reading one drops empty names and single dots, so two texts
that differ only in those name the same path; two dots are kept until the path is made absolute. A path
that begins with exactly two slashes keeps both: it is a place of its own and not below the root.
-/

namespace ModuleHints

/-- Where a path begins. -/
inductive Anchor where
  /-- At the current folder. -/
  | here
  /-- At the root folder. -/
  | root
  /-- At the place that two slashes name. -/
  | network
  deriving DecidableEq, Repr

/-- A path to a file or folder. -/
structure Path where
  /-- Where the path begins. -/
  anchor : Anchor
  /-- The names from there on, outermost first. -/
  names : List String
  deriving DecidableEq, Repr

namespace Path

/-- The anchor of a written path. -/
def anchorOf : List Char → Anchor
  | '/' :: '/' :: '/' :: _ => .root
  | '/' :: '/' :: _ => .network
  | '/' :: _ => .root
  | _ => .here

/-- Whether a piece of a written path names something. -/
def isName (piece : String) : Bool := piece != "" && piece != "."

/-- The pieces of a written path between its slashes. -/
def written (s : String) : List String := (Text.pieces '/' s.toList).map String.ofList

/-- The path that a text writes. -/
def ofString (s : String) : Path := ⟨anchorOf s.toList, (written s).filter isName⟩

/-- What an anchor is written as. -/
def anchorText : Anchor → String
  | .here => ""
  | .root => "/"
  | .network => "//"

/-- The path written out; a single dot stands for the current folder. -/
def toString (p : Path) : String :=
  let text := anchorText p.anchor ++ "/".intercalate p.names
  if text.isEmpty then "." else text

/-- Whether the path does not depend on the current folder. -/
def isAbsolute (p : Path) : Bool := p.anchor != .here

/-- The second path as seen from the first. -/
def join (base p : Path) : Path := if p.isAbsolute then p else ⟨base.anchor, base.names ++ p.names⟩

/-- The path with one more name. -/
def child (p : Path) (name : String) : Path := ⟨p.anchor, p.names ++ [name]⟩

/-- The folder that holds the path; an anchor holds itself. -/
def parent (p : Path) : Path := ⟨p.anchor, p.names.dropLast⟩

/-- The last name. -/
def name (p : Path) : String := p.names.getLast?.getD ""

/-- The names left, innermost first, when each pair of dots takes back the name before it. -/
def settle (kept : List String) : List String → List String
  | [] => kept
  | n :: rest => if n = ".." then settle kept.tail rest else settle (n :: kept) rest

/-- The path from the root, the current folder being `here`. -/
def absolute (p here : Path) : Path :=
  let full := here.join p
  ⟨full.anchor, (settle [] full.names).reverse⟩

/-- The ending of a name from its last dot on. A dot at either end of the name begins no ending. -/
def endingOf (name : List Char) : List Char :=
  let tail := (name.reverse.takeWhile (· != '.')).length
  if 0 < tail ∧ tail + 1 < name.length then name.drop (name.length - tail - 1) else []

/-- The ending of the last name, in lower case. -/
def extension (p : Path) : String :=
  Unicode.lowerCase (String.ofList (endingOf p.name.toList))

/-- What is left of the second list of names after the first. -/
def after? : List String → List String → Option (List String)
  | [], names => some names
  | _ :: _, [] => none
  | a :: as, b :: bs => if a = b then after? as bs else none

/-- What is left after the first list is what follows it. -/
theorem after?_eq_some_iff {folder rest names : List String} :
    after? folder names = some rest ↔ names = folder ++ rest := by
  constructor
  · intro h
    fun_induction after? folder names with
    | case1 names => cases h; rfl
    | case2 => cases h
    | case3 a as bs ih => rw [ih h]; rfl
    | case4 => cases h
  · rintro rfl
    induction folder with
    | nil => rfl
    | cons a as ih => rw [List.cons_append, after?, if_pos rfl, ih]

/-- The names from a folder down to a path below it. -/
def below? (folder p : Path) : Option (List String) :=
  if folder.anchor = p.anchor then after? folder.names p.names else none

/-- The names that lead from one place to another, two dots for each step up. -/
def route : List String → List String → List String
  | a :: as, b :: bs =>
    if a = b then route as bs else (a :: as).map (fun _ => "..") ++ b :: bs
  | as, bs => as.map (fun _ => "..") ++ bs

/-- The way down from a folder is what follows the folder. -/
theorem route_append (folder rest : List String) : route folder (folder ++ rest) = rest := by
  induction folder with
  | nil => cases rest <;> rfl
  | cons a as ih => rw [List.cons_append, route, if_pos rfl, ih]

/-- The path from a folder to another place, written out. -/
def relative (folder p : Path) : String := (Path.mk .here (route folder.names p.names)).toString

end Path

end ModuleHints
