import ModuleHints.Project.Walk

/-!
# Projects

A project is a tree rooted at its home folder; only what lies below the home can be found in it. A file
is found by the names that lead to it, each compared without regard to case.
-/

namespace ModuleHints

/-- A folder whose files may require each other. -/
structure Project where
  /-- The home folder, from the root folder down. -/
  home : Path
  /-- The node of the home folder. -/
  root : NodeId
  deriving DecidableEq, Repr

namespace Project

/-- The project at a home folder, and the forest with its root. -/
def plant (here home : Path) (f : Forest) : Project × Forest :=
  let home := home.absolute here
  let (root, f) := f.plant home
  (⟨home, root⟩, f)

/-- How a project is named in diagnostics. -/
def describe (p : Project) : String := "Project(" ++ Text.quoted p.home.toString ++ ")"

/-- The node of a path, if it lies in the project and is there. -/
def find? (p : Project) (here : Path) (path : String) : Walk (Option NodeId) :=
  match p.home.below? ((Path.ofString path).absolute here) with
  | none => return none
  | some names => Walk.descend p.root names

/-- The path of a node from the home folder, written out. -/
def relativePath (p : Project) (f : Forest) (k : NodeId) : String :=
  Path.relative (f.path p.root) (f.path k)

end Project

end ModuleHints
