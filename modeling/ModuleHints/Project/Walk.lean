import ModuleHints.Unicode.Fold
import ModuleHints.Project.Forest

/-!
# Walking a tree

A walk reads a disk, may fail at a folder that can not be listed, and leaves the forest with whatever
listings it made on the way, also where it fails. Names are compared without regard to case; among
several that agree the first in order is taken.
-/

namespace ModuleHints

/-- A computation that walks trees. -/
abbrev Walk (α : Type) := ReaderT Disk (ExceptT DiskError (StateM Forest)) α

namespace Walk

/-- The result of a walk, and the forest after it. -/
def go {α : Type} (w : Walk α) (d : Disk) (f : Forest) : Except DiskError α × Forest :=
  Id.run (StateT.run (ExceptT.run (ReaderT.run w d)) f)

/-- What a folder holds, sorted by name. -/
def children (k : NodeId) : Walk (List NodeId) := fun d => ExceptT.mk fun f => f.children d k

/-- Something that is known of the forest without reading the disk. -/
def known {α : Type} (ask : Forest → α) : Walk α := do return ask (← get)

/-- The first node of a folder with a name. -/
def child? (folder : NodeId) (name : String) : Walk (Option NodeId) := do
  let held ← children folder
  known fun f => held.find? fun k => Unicode.sameFold (f.name k) name

/-- The node that names lead to, one folder after the other. -/
def descend (k : NodeId) : List String → Walk (Option NodeId)
  | [] => return some k
  | name :: rest => do
    match ← child? k name with
    | none => return none
    | some k => descend k rest

/-- The nodes that each of a list of nodes stands for, in order. -/
def collect (pick : NodeId → Walk (List NodeId)) : List NodeId → Walk (List NodeId)
  | [] => return []
  | k :: rest => do
    let first ← pick k
    let others ← collect pick rest
    return first ++ others

/-- The first node of a folder. -/
def first? (folder : NodeId) : Walk (Option NodeId) := do return (← children folder).head?

/-- More levels than any path of the disk or the forest has, which bounds every descent. -/
def depth (d : Disk) (f : Forest) : Nat :=
  let disk := d.items.foldl (fun n i => max n i.1.length) 0
  f.nodes.foldl (fun n k => max n k.path.names.length) disk + 1

/-- The bound on a descent that begins now. -/
def depthBound : Walk Nat := fun d => do return depth d (← get)

/-- A node that its folder does not list any more has no place among its siblings. -/
inductive Sibling where
  /-- The node is not listed. -/
  | unlisted
  /-- The node is the last one, or a root. -/
  | last
  /-- The node after it. -/
  | next (k : NodeId)
  deriving DecidableEq, Repr

/-- The sibling after a node in a list. -/
def siblingIn (k : NodeId) : List NodeId → Sibling
  | [] => .unlisted
  | [j] => if j = k then .last else .unlisted
  | j :: i :: rest => if j = k then .next i else siblingIn k (i :: rest)

/-- The sibling after a node. -/
def nextSibling (k : NodeId) : Walk Sibling := do
  match ← known fun f => f.parent? k with
  | none => return .last
  | some p => return siblingIn k (← children p)

end Walk

end ModuleHints
