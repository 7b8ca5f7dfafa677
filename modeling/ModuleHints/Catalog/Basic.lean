import ModuleHints.Catalog.Eligible
import ModuleHints.Catalog.Cache
import ModuleHints.Catalog.Note

/-!
# The catalog of a project

The catalog answers which modules of a project a file may require. Answers are remembered for each file.
Whatever keeps the file from being found, or one of the folders from being listed, gives no modules and
leaves what is remembered as it was.
-/

namespace ModuleHints

namespace Catalog

/-- The answer of the catalog, with the notes taken. -/
structure Findings where
  /-- The modules, in the order of the walk. -/
  candidates : List Candidate := []
  /-- What was noted. -/
  notes : List Note := []
  deriving DecidableEq, Repr

/-- The modules for the file at a path. -/
def candidates (s : Settings) (d : Disk) (here : Path) (p : Project) (path : String) (m : Memory) :
    Findings × Memory :=
  match (p.find? here path).go d m.forest with
  | (.error e, forest) => (⟨[], [.unreadable path e]⟩, { m with forest })
  | (.ok none, forest) => (⟨[], [.notFile path p]⟩, { m with forest })
  | (.ok (some file), forest) =>
    if forest.isFolder file then (⟨[], [.notFile path p]⟩, { m with forest })
    else
      match m.cache.get? file with
      | some found => (⟨found, [.remembered (forest.path file)]⟩, { m with forest })
      | none =>
        match (eligible s p file).go d forest with
        | (.error e, forest) => (⟨[], [.unreadable path e]⟩, { m with forest })
        | (.ok found, forest) =>
          (⟨found, [.collected found.length (forest.path file)]⟩,
            { forest, cache := m.cache.store file found })

end Catalog

end ModuleHints
