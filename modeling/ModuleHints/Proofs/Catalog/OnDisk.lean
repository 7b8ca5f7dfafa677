import ModuleHints.Catalog.Eligible
import ModuleHints.Proofs.Project.Places

/-!
# Eligible modules as the disk has them

Which modules a file may require can be said without any tree: the folders around it are asked for
their modules folders, and its own folder for what lies beside and below it. Everything is read from
the disk as it is. How deep a search may go makes no difference as long as no path on the disk is
longer.
-/

namespace ModuleHints

namespace Place

/-- Whether a folder is a package. -/
def isPackage (s : Settings) (d : Disk) (p : Place) : Except DiskError Bool := do
  if (← p.child? d s.packageFile).isSome then return true
  return (← p.child? d s.mainFile).isSome

/-- Whether a place is named like a modules folder. -/
def isModulesFolder (s : Settings) (p : Place) : Bool :=
  Unicode.sameFold p.path.name s.modulesFolder

/-- Whether a place is named like a source file. -/
def isSource (s : Settings) (p : Place) : Bool := p.path.extension == Unicode.lowerCase s.extension

/-- What a search does with a place. -/
inductive Turn where
  /-- The place is a module. -/
  | take
  /-- Neither the place nor anything below it is one. -/
  | skip
  /-- The modules below it are looked for. -/
  | enter
  deriving DecidableEq

/-- What a search does in a modules folder. -/
def packageTurn (s : Settings) (d : Disk) (p : Place) : Except DiskError Turn := do
  if !p.isFolder then return if p.isSource s then .take else .skip
  else if ← p.isPackage s d then return .take
  else return if p.isModulesFolder s then .skip else .enter

/-- What a search does beside a file. -/
def sourceTurn (s : Settings) (d : Disk) (p : Place) : Except DiskError Turn := do
  if !p.isFolder then return if p.isSource s then .take else .skip
  else if p.isModulesFolder s then return .skip
  else return if ← p.isPackage s d then .take else .enter

/-- The modules in a folder, at most `depth` levels down. -/
def search (d : Disk) (turn : Place → Except DiskError Turn) :
    Nat → Place → Except DiskError (List Place)
  | 0, _ => return []
  | depth + 1, folder => do
    let pick := fun p => do
      match ← turn p with
      | .take => return [p]
      | .skip => return []
      | .enter => search d turn depth p
    collect pick (← folder.children d)

/-- A bound on how deep anything on the disk lies. -/
def depth (d : Disk) : Nat := Walk.depth d {}

/-- The candidate for a place in a project, displayed by the given specifier. -/
def candidate (home : Path) (display : String) (p : Place) : Candidate :=
  ⟨display, Path.relative home p.path ++ " (in project)", .project⟩

/-- The candidates in the modules folder of a folder, if it has one. -/
def modulesOf (s : Settings) (d : Disk) (home : Path) (folder : Place) :
    Except DiskError (List Candidate) := do
  match ← folder.child? d s.modulesFolder with
  | none => return []
  | some m =>
    if !m.isFolder then return []
    else
      let found ← search d (packageTurn s d) (depth d) m
      return found.map fun p => candidate home (Path.relative m.path p.path) p

/-- The candidates in the modules folders of a list of folders, in order. -/
def modulesOfAll (s : Settings) (d : Disk) (home : Path) :
    List Place → Except DiskError (List Candidate)
  | [] => return []
  | folder :: rest => do
    let first ← modulesOf s d home folder
    let others ← modulesOfAll s d home rest
    return first ++ others

/-- The candidates beside and below a file in its folder. -/
def peers (s : Settings) (d : Disk) (home : Path) (folder file : Place) :
    Except DiskError (List Candidate) := do
  let found ← search d (sourceTurn s d) (depth d) folder
  return (found.filter (· ≠ file)).map fun p =>
    candidate home ("./" ++ Path.relative folder.path p.path) p

/-- A folder and the folders around it up to the home folder, nearest first. -/
def enclosing (home folder : Path) : List Place :=
  if folder = home then [⟨folder, true⟩]
  else if folder.names = [] then []
  else ⟨folder, true⟩ :: enclosing home folder.parent
termination_by folder.names.length
decreasing_by
  rw [Path.parent, List.length_dropLast]
  exact Nat.sub_lt (List.length_pos_of_ne_nil ‹_›) Nat.one_pos

/-- All project modules that the file at a place may require. -/
def eligible (s : Settings) (d : Disk) (home : Path) (file : Place) :
    Except DiskError (List Candidate) := do
  if file.path = home then return []
  else
    let modules ← modulesOfAll s d home (enclosing home file.path.parent)
    let beside ← peers s d home ⟨file.path.parent, true⟩ file
    return modules ++ beside

/-- The place in a project that a path leads to. -/
def find? (d : Disk) (here home : Path) (path : String) : Except DiskError (Option Place) :=
  match home.below? ((Path.ofString path).absolute here) with
  | none => return none
  | some names => descend d ⟨home, true⟩ names

/-- All project modules that the file at a path may require. -/
def modulesFor (s : Settings) (d : Disk) (here home : Path) (path : String) :
    Except DiskError (List Candidate) := do
  match ← find? d here home path with
  | none => return []
  | some file => if file.isFolder then return [] else eligible s d home file

section Found

variable {s : Settings} {d : Disk} {here home : Path} {path : String} {q : Place}

theorem modulesFor_of_error {e : DiskError} (h : find? d here home path = .error e) :
    modulesFor s d here home path = .error e := by
  rw [modulesFor, h]
  rfl

theorem modulesFor_of_none (h : find? d here home path = .ok none) :
    modulesFor s d here home path = .ok [] := by
  rw [modulesFor, h]
  rfl

/-- From a folder nothing may be required. -/
theorem modulesFor_of_isFolder (h : find? d here home path = .ok (some q))
    (hq : q.isFolder = true) :
    modulesFor s d here home path = .ok [] := by
  rw [modulesFor, h]
  exact if_pos hq

/-- From a file its eligible modules may be required. -/
theorem modulesFor_of_not_isFolder (h : find? d here home path = .ok (some q))
    (hq : q.isFolder = false) :
    modulesFor s d here home path = eligible s d home q := by
  rw [modulesFor, h]
  exact if_neg (Bool.eq_false_iff.mp hq)

end Found

section Depth

variable {d : Disk} {p q : Place} {n m : Nat}

/-- Some levels are as many as the disk has below a place. -/
structure Covers (d : Disk) (p : Place) (n : Nat) : Prop where
  /-- There is a level. -/
  pos : 0 < n
  /-- Nothing lies deeper. -/
  deep : ∀ item ∈ d.items, item.1.length < p.path.names.length + n

/-- From a place in a folder one level less will do. -/
theorem Covers.child (h : Covers d p (n + 1)) {name : String} (hq : q.path = p.path.child name)
    (hmem : q.path.names ∈ d.items.map Prod.fst) : Covers d q n := by
  have hlength : q.path.names.length = p.path.names.length + 1 := by
    rw [hq, Path.child, List.length_append, List.length_singleton]
  obtain ⟨item, hitem, hnames⟩ := List.mem_map.mp hmem
  constructor
  · have hdeep := h.deep item hitem
    rw [hnames] at hdeep
    omega
  · intro item hitem
    have hdeep := h.deep item hitem
    omega

/-- What a search does with the places of a list counts, and nothing else. -/
theorem collect_congr {pick pick' : Place → Except DiskError (List Place)} {ps : List Place}
    (h : ∀ p ∈ ps, pick p = pick' p) : collect pick ps = collect pick' ps := by
  induction ps with
  | nil => rfl
  | cons p rest ih =>
    have hrest : ∀ q ∈ rest, pick q = pick' q := fun q hq => h q (List.mem_cons_of_mem _ hq)
    rw [collect, collect, h p (List.mem_cons_self ..), ih hrest]

/-- More levels than the disk has change nothing. -/
theorem search_depth (hd : d.WellFormed) (turn : Place → Except DiskError Turn) (hp : p.path.Proper)
    (hn : Covers d p n) (hm : Covers d p m) : search d turn n p = search d turn m p := by
  induction n generalizing p m with
  | zero => exact absurd hn.pos (Nat.lt_irrefl 0)
  | succ n ih =>
    cases m with
    | zero => exact absurd hm.pos (Nat.lt_irrefl 0)
    | succ m =>
      rw [search, search]
      cases hchildren : p.children d with
      | error e => rfl
      | ok ps =>
        apply collect_congr
        intro q hq
        obtain ⟨name, hname, -, hmem⟩ := (of_children hd hp hchildren).2 q hq
        have hproper := proper_of_children hd hp hchildren hq
        cases turn q with
        | error e => rfl
        | ok t =>
          cases t with
          | take => rfl
          | skip => rfl
          | enter => exact ih hproper (hn.child hname hmem) (hm.child hname hmem)

/-- The greatest of some numbers is no smaller than where it is begun, and no smaller than any of
them. -/
theorem le_foldl_max {α : Type} (size : α → Nat) (l : List α) (n : Nat) :
    n ≤ l.foldl (fun n a => max n (size a)) n ∧
      ∀ a ∈ l, size a ≤ l.foldl (fun n a => max n (size a)) n := by
  induction l generalizing n with
  | nil => exact ⟨Nat.le_refl n, fun _ h => absurd h List.not_mem_nil⟩
  | cons b rest ih =>
    obtain ⟨hfirst, hrest⟩ := ih (max n (size b))
    rw [List.foldl_cons]
    constructor
    · exact Nat.le_trans (Nat.le_max_left ..) hfirst
    · intro a ha
      rcases List.mem_cons.mp ha with rfl | ha
      · exact Nat.le_trans (Nat.le_max_right ..) hfirst
      · exact hrest a ha

/-- The bound of a walk is enough. -/
theorem covers_depth (d : Disk) (f : Forest) (p : Place) : Covers d p (Walk.depth d f) := by
  constructor
  · exact Nat.succ_pos _
  · intro item hitem
    have hdisk := (le_foldl_max (fun i : List String × DiskItem => i.1.length) d.items 0).2
      item hitem
    have hforest := (le_foldl_max (fun n : Node => n.path.names.length) f.nodes.toList
      (d.items.foldl (fun n i => max n i.1.length) 0)).1
    rw [Walk.depth, ← Array.foldl_toList]
    omega

end Depth

end Place

end ModuleHints
