import ModuleHints.Text.Quoted
import ModuleHints.Files.Path

/-!
# Disks

A disk is a finite set of files and folders by their absolute names; the root folder is always there.
A place is found by walking its names one by one, so something stands in the way exactly where the
walk meets a file or nothing. Names and places have a greatest length, a place whose name holds a NUL can not
be asked for at all, and some folders may refuse to be listed. What two slashes at the beginning of a place
mean is left to the system, and on these disks nothing is there: neither a file nor a home folder is found
at such a place.
-/

namespace ModuleHints

/-- Something on a disk. -/
inductive DiskItem where
  /-- A file with its bytes. -/
  | file (content : ByteArray)
  /-- A folder. -/
  | folder

/-- Whether something on a disk is a folder. -/
def DiskItem.isFolder : DiskItem → Bool
  | .file _ => false
  | .folder => true

/-- Why a place could not be opened. -/
inductive DiskFault where
  /-- There is nothing of that name. -/
  | missing
  /-- The folder refuses to be listed. -/
  | denied
  /-- A file stands where a folder is needed. -/
  | notFolder
  /-- A folder stands where a file is needed. -/
  | isFolder
  /-- The place or one of its names is too long. -/
  | tooLong
  /-- The place has a NUL in it, so that no system can be asked for it. -/
  | unnameable
  deriving DecidableEq, Repr

namespace DiskFault

/-- The number by which systems know the fault; what they can not be asked for has none. -/
def number? : DiskFault → Option Nat
  | missing => some 2
  | denied => some 13
  | notFolder => some 20
  | isFolder => some 21
  | tooLong => some 36
  | unnameable => none

/-- The fault in words. -/
def reason : DiskFault → String
  | missing => "No such file or directory"
  | denied => "Permission denied"
  | notFolder => "Not a directory"
  | isFolder => "Is a directory"
  | tooLong => "File name too long"
  | unnameable => "embedded null byte"

end DiskFault

/-- A place that could not be opened. -/
structure DiskError where
  /-- Why. -/
  fault : DiskFault
  /-- The place as it was asked for. -/
  place : String
  deriving DecidableEq, Repr

/-- Whether the system was asked and found the fault. -/
def DiskError.isFound (e : DiskError) : Bool := e.fault.number?.isSome

/-- The text of a failure. -/
def DiskError.message (e : DiskError) : String :=
  match e.fault.number? with
  | some number => "[Errno " ++ toString number ++ "] " ++ e.fault.reason ++ ": " ++ Text.quoted e.place
  | none => e.fault.reason

/-- A finite set of files and folders. -/
structure Disk where
  /-- What is on the disk, by absolute names. -/
  items : List (List String × DiskItem) := []
  /-- Folders that refuse to be listed. -/
  refusing : List Path := []

namespace Disk

/-- The greatest number of bytes of a name. -/
def maxName : Nat := 255

/-- The greatest number of bytes of a place. -/
def maxPlace : Nat := 4095

/-- What has exactly the given names. -/
def itemAt? (d : Disk) (names : List String) : Option DiskItem :=
  if names = [] then some .folder else d.items.lookup names

/-- The names of the place that written names lead to from a place on the disk. -/
def walk (d : Disk) (reached : List String) : List String → Except DiskFault (List String)
  | [] => .ok reached
  | n :: rest =>
    match d.itemAt? reached with
    | none => .error .missing
    | some (.file _) => .error .notFolder
    | some .folder =>
      if n = "" ∨ n = "." then walk d reached rest
      else if n = ".." then walk d reached.dropLast rest
      else if maxName < n.utf8ByteSize then .error .tooLong
      else if (d.itemAt? (reached ++ [n])).isSome then walk d (reached ++ [n]) rest
      else .error .missing

/-- The names of the place that a text writes, as seen from the current folder. Nothing is at a place
that begins with exactly two slashes. -/
def find (d : Disk) (here : Path) (place : String) : Except DiskFault (List String) :=
  if place.toList.contains '\x00' then .error .unnameable
  else if maxPlace < place.utf8ByteSize then .error .tooLong
  else
    match Path.anchorOf place.toList with
    | .network => .error .missing
    | .root => d.walk [] (Path.written place)
    | .here => if place.isEmpty then .error .missing else d.walk here.names (Path.written place)

/-- The bytes of the file that a text writes. -/
def read (d : Disk) (here : Path) (place : String) : Except DiskError ByteArray :=
  match d.find here place with
  | .error fault => .error ⟨fault, place⟩
  | .ok names =>
    match d.itemAt? names with
    | some (.file content) => .ok content
    | some .folder => .error ⟨.isFolder, place⟩
    | none => .error ⟨.missing, place⟩

/-- Names and kinds of what a folder holds, in the order in which the disk keeps them. -/
def entriesOf (d : Disk) (folder : List String) : List (String × Bool) :=
  d.items.filterMap fun (names, item) =>
    if names.dropLast = folder then names.getLast?.map fun n => (n, item.isFolder) else none

/-- Names and kinds of what a folder holds, sorted by name. A folder that refuses does so whatever
the disk holds. -/
def list (d : Disk) (folder : Path) : Except DiskError (List (String × Bool)) :=
  if d.refusing.contains folder then .error ⟨.denied, folder.toString⟩
  else
    match d.find folder folder.toString with
    | .error fault => .error ⟨fault, folder.toString⟩
    | .ok names =>
      match d.itemAt? names with
      | some .folder => .ok ((d.entriesOf names).mergeSort fun a b => a.1 ≤ b.1)
      | some (.file _) => .error ⟨.notFolder, folder.toString⟩
      | none => .error ⟨.missing, folder.toString⟩

/-- The disk without a place and all below it. -/
def remove (d : Disk) (p : Path) : Disk :=
  { d with items := d.items.filter fun (names, _) => !p.names.isPrefixOf names }

/-- The disk with one item put in place, whatever was there. -/
def put (d : Disk) (names : List String) (item : DiskItem) : Disk :=
  { d with items := (d.items.filter fun (other, _) => other ≠ names) ++ [(names, item)] }

/-- The disk with a folder where there was nothing. -/
def makeFolder (d : Disk) (names : List String) : Disk :=
  if (d.itemAt? names).isSome then d else d.put names .folder

/-- The disk with all the given folders, each made where there was nothing. -/
def makeFolders (d : Disk) (p : Path) : Disk :=
  (List.range p.names.length).foldl (fun d n => d.makeFolder (p.names.take (n + 1))) d

/-- The disk with a file, and the folders that lead to it. -/
def write (d : Disk) (p : Path) (content : ByteArray) : Disk :=
  (d.makeFolders p.parent).put p.names (.file content)

/-- The disk on which a folder refuses to be listed. -/
def deny (d : Disk) (p : Path) : Disk := { d with refusing := p :: d.refusing }

/-- The disk on which a folder may be listed. -/
def allow (d : Disk) (p : Path) : Disk := { d with refusing := d.refusing.filter (· ≠ p) }

end Disk

end ModuleHints
