import ModuleHints.Settings.Basic
import ModuleHints.Project.Basic
import ModuleHints.Catalog.Candidate

/-!
# Modules that a file may require

From a file two kinds of modules can be required. In every folder around the file there may be a
modules folder, whose packages and source files are named without a path, also from inside further
folders in it. Beside and below the file there are source files and packages, named by a path that
begins with a dot.

A folder is a package where it holds a package file or a main file; a package is required as a whole
and is never looked into.
-/

namespace ModuleHints

namespace Catalog

/-- Whether a folder is a package. -/
def isPackage (s : Settings) (folder : NodeId) : Walk Bool := do
  if (← Walk.child? folder s.packageFile).isSome then return true
  return (← Walk.child? folder s.mainFile).isSome

/-- Whether a node is named like a modules folder. -/
def isModulesFolder (s : Settings) (f : Forest) (k : NodeId) : Bool :=
  Unicode.sameFold (f.name k) s.modulesFolder

/-- Whether a node is named like a source file. -/
def isSource (s : Settings) (f : Forest) (k : NodeId) : Bool :=
  (f.path k).extension == Unicode.lowerCase s.extension

/-- The modules in a folder that belongs to a modules folder, at most `depth` levels down. -/
def packagesIn (s : Settings) : Nat → NodeId → Walk (List NodeId)
  | 0, _ => return []
  | depth + 1, folder => do
    let pick := fun k => do
      let f ← get
      if !f.isFolder k then return if isSource s f k then [k] else []
      else if ← isPackage s k then return [k]
      else if isModulesFolder s f k then return []
      else packagesIn s depth k
    Walk.collect pick (← Walk.children folder)

/-- The source files and packages in a folder, modules folders left out, at most `depth` levels
down. -/
def sourcesIn (s : Settings) : Nat → NodeId → Walk (List NodeId)
  | 0, _ => return []
  | depth + 1, folder => do
    let pick := fun k => do
      let f ← get
      if !f.isFolder k then return if isSource s f k then [k] else []
      else if isModulesFolder s f k then return []
      else if ← isPackage s k then return [k]
      else sourcesIn s depth k
    Walk.collect pick (← Walk.children folder)

/-- The source files and packages in a folder, modules folders left out. -/
def sources (s : Settings) (folder : NodeId) : Walk (List NodeId) := do
  sourcesIn s (← Walk.depthBound) folder

/-- The candidate for a node, displayed by the given specifier. -/
def candidate (p : Project) (f : Forest) (display : String) (k : NodeId) : Candidate :=
  ⟨display, p.relativePath f k ++ " (in project)", .project⟩

/-- The candidates in the modules folder of a folder, if it has one. -/
def modulesOf (s : Settings) (p : Project) (folder : NodeId) : Walk (List Candidate) := do
  match ← Walk.child? folder s.modulesFolder with
  | none => return []
  | some home =>
    if !(← get).isFolder home then return []
    else
      let found ← packagesIn s (← Walk.depthBound) home
      let f ← get
      return found.map fun k => candidate p f (Path.relative (f.path home) (f.path k)) k

/-- The candidates in the modules folders of a list of folders, in order. -/
def modulesOfAll (s : Settings) (p : Project) : List NodeId → Walk (List Candidate)
  | [] => return []
  | folder :: rest => do
    let first ← modulesOf s p folder
    let others ← modulesOfAll s p rest
    return first ++ others

/-- The candidates beside and below a file in its folder; the file itself is not among them. -/
def peers (s : Settings) (p : Project) (folder file : NodeId) : Walk (List Candidate) := do
  let found ← sources s folder
  let f ← get
  return (found.filter (· ≠ file)).map fun k =>
    candidate p f ("./" ++ Path.relative (f.path folder) (f.path k)) k

/-- All project modules that a file may require. -/
def eligible (s : Settings) (p : Project) (file : NodeId) : Walk (List Candidate) := do
  match ← Walk.known fun f => f.parent? file with
  | none => return []
  | some folder =>
    let modules ← modulesOfAll s p (← Walk.known fun f => f.ancestors folder)
    let beside ← peers s p folder file
    return modules ++ beside

end Catalog

end ModuleHints
