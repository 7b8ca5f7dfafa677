import ModuleHints.Files.Disk

/-!
# Trees of files and folders

The nodes of all projects stand in one forest and are known by their places in it, so a node stays the
same node however often its folder is listed. A folder is listed from disk when its contents are first
asked for, and the listing is kept until it is forgotten. Forgetting parks the nodes of a listing: the
next listing takes back each parked node whose entry is still there as the same kind, and makes new
nodes for the rest.

A node is always younger than its parent, which is why every chain of parents ends.
-/

namespace ModuleHints

/-- The place of a node in its forest. -/
abbrev NodeId := Nat

/-- A file or folder of a project. -/
structure Node where
  /-- Where it is. -/
  path : Path
  /-- The folder it was found in; none for the root of a project. -/
  parent : Option NodeId
  /-- Whether it is a folder. -/
  isFolder : Bool
  /-- What it holds, as far as that is known. -/
  listing : Option (List NodeId) := none
  /-- What it held when its listing was last forgotten. -/
  parked : List NodeId := []
  deriving DecidableEq, Repr

namespace Node

/-- The last name of the node's path. -/
def name (n : Node) : String := n.path.name

/-- The node without its listing, whose nodes are parked. -/
def forget (n : Node) : Node :=
  match n.listing with
  | none => n
  | some held => { n with listing := none, parked := held }

/-- A node that forgets its listing has none. -/
theorem listing_forget (n : Node) : n.forget.listing = none := by
  unfold forget
  split
  next h => exact h
  next => rfl

/-- How a node is named in diagnostics. -/
def describe (n : Node) : String :=
  (if n.isFolder then "<Folder " else "<File ") ++ n.path.toString ++ ">"

end Node

/-- The nodes of all projects. -/
structure Forest where
  /-- The nodes by their places. -/
  nodes : Array Node := #[]
  deriving Repr

namespace Forest

/-- The node at a place. -/
def node? (f : Forest) (k : NodeId) : Option Node := f.nodes[k]?

/-- The folder a node was found in. -/
def parent? (f : Forest) (k : NodeId) : Option NodeId := (f.node? k).bind Node.parent

/-- The path of a node. -/
def path (f : Forest) (k : NodeId) : Path := ((f.node? k).map Node.path).getD ⟨.here, []⟩

/-- The last name of a node's path. -/
def name (f : Forest) (k : NodeId) : String := (f.path k).name

/-- Whether a node is a folder. -/
def isFolder (f : Forest) (k : NodeId) : Bool := (f.node? k).any Node.isFolder

/-- Whether a folder's present listing holds a node. -/
def lists (f : Forest) (folder k : NodeId) : Bool :=
  ((f.node? folder).bind Node.listing).any fun held => held.contains k

/-- The forest with one more node, and its place. -/
def grow (f : Forest) (n : Node) : NodeId × Forest := (f.nodes.size, ⟨f.nodes.push n⟩)

theorem node?_grow_self (f : Forest) (n : Node) : (f.grow n).2.node? (f.grow n).1 = some n := by
  simp [grow, node?]

theorem node?_grow_of_lt {f : Forest} {k : NodeId} (n : Node) (h : k < f.nodes.size) :
    (f.grow n).2.node? k = f.node? k := by
  simp [grow, node?, Array.getElem?_push, Nat.ne_of_lt h]

/-- The forest with a new root folder, and its place. -/
def plant (f : Forest) (home : Path) : NodeId × Forest :=
  f.grow { path := home, parent := none, isFolder := true }

/-- A node and the folders around it, nearest first. -/
def ancestors (f : Forest) (k : NodeId) : List NodeId :=
  match f.parent? k with
  | none => [k]
  | some p => if p < k then k :: f.ancestors p else [k]
termination_by k

/-- The root of the tree that holds a node. -/
def rootOf (f : Forest) (k : NodeId) : NodeId := (f.ancestors k).getLast?.getD k

/-- Whether present listings lead from a folder down to a node. -/
def reaches (f : Forest) (folder k : NodeId) : Bool :=
  if k = folder then true
  else
    match f.parent? k with
    | none => false
    | some p => if p < k then f.lists p k && f.reaches folder p else false
termination_by k

/-- Forgets the listings of a folder and of every folder that present listings lead to. -/
def refresh (f : Forest) (folder : NodeId) : Forest :=
  ⟨f.nodes.mapIdx fun k n => if f.reaches folder k then n.forget else n⟩

/-- Whether a node has the given name and kind. -/
def isEntry (f : Forest) (entry : String × Bool) (k : NodeId) : Bool :=
  (f.node? k).any fun n => n.name == entry.1 && n.isFolder == entry.2

/-- The nodes of the entries of a folder: parked ones where they fit, and else new ones. -/
def adopt (folder : NodeId) (place : Path) (parked : List NodeId) :
    List (String × Bool) → Forest → List NodeId × Forest
  | [], f => ([], f)
  | entry :: rest, f =>
    let (k, f) :=
      match parked.find? (f.isEntry entry) with
      | some k => (k, f)
      | none =>
        f.grow { path := place.child entry.1, parent := some folder, isFolder := entry.2 }
    let (ks, f) := adopt folder place parked rest f
    (k :: ks, f)

/-- The forest in which a folder has a listing and nothing parked. -/
def keepListing (f : Forest) (folder : NodeId) (held : List NodeId) : Forest :=
  ⟨f.nodes.modify folder fun n => { n with listing := some held, parked := [] }⟩

/-- What a folder holds, sorted by name. The disk is asked only where no listing is kept, and a folder
that can not be listed stays as it was. Files hold nothing. -/
def children (d : Disk) (k : NodeId) (f : Forest) : Except DiskError (List NodeId) × Forest :=
  match f.node? k with
  | none => (.ok [], f)
  | some n =>
    if !n.isFolder then (.ok [], f)
    else
      match n.listing with
      | some held => (.ok held, f)
      | none =>
        match d.list n.path with
        | .error e => (.error e, f)
        | .ok entries =>
          let (held, f) := adopt k n.path n.parked entries f
          (.ok held, f.keepListing k held)

end Forest

end ModuleHints
