import ModuleHints.Command.Run

/-!
# The command on a machine

A run of the command works on a disk that is given to it. Here that disk is taken from the machine: the
files that the arguments name, and what lies below the project's folder. Of other files only the names
matter, so their contents are left out. Nothing is decided here.
-/

namespace ModuleHints.Command

/-- Where a path is on the machine. -/
def spot (p : Path) : IO.FS.DirEntry := { root := p.parent.toString, fileName := p.name }

/-- What the machine has at a path. A file that can not be read counts as empty. -/
def itemOn (p : Path) : IO (Option DiskItem) := do
  if ← (spot p).path.isDir then
    return some .folder
  else if ← (spot p).path.pathExists then
    match ← (IO.FS.readBinFile (spot p).path).toBaseIO with
    | .ok content => return some (.file content)
    | .error _ => return some (.file ByteArray.empty)
  else
    return none

/-- The disk with what the machine has at a path and on the way to it. -/
def noticing (d : Disk) (here p : Path) : IO Disk := do
  let way := here.join p
  let mut d := d
  for n in List.range way.names.length do
    let place := (Path.mk way.anchor (way.names.take (n + 1))).absolute here
    match ← itemOn place with
    | some item => d := d.put place.names item
    | none => pure ()
  return d

/-- The disk with all that is below a folder, of which it must know nothing yet. A folder that the
machine does not list refuses. -/
partial def gathering (d : Disk) (folder : Path) : IO Disk := do
  match ← (spot folder).path.readDir.toBaseIO with
  | .error _ => return if (d.itemAt? folder.names).any DiskItem.isFolder then d.deny folder else d
  | .ok entries =>
    let mut d := d
    for entry in entries do
      let place := folder.child entry.fileName
      if ← entry.path.isDir then
        d ← gathering { d with items := (place.names, .folder) :: d.items } place
      else
        d := { d with items := (place.names, .file ByteArray.empty) :: d.items }
    return d

/-- The part of the machine's disk that a run with these arguments may look at. -/
def surveyed (a : Arguments) (here : Path) : IO Disk := do
  let home := a.projectFolder.absolute here
  let settings := (Arguments.pathOf? a.config).getD (a.projectFolder.child Settings.fileName)
  let d ← gathering (← noticing {} here home) home
  let d ← noticing d here settings
  noticing d here a.inputFile

/-- Shows how a run ended, and gives its status. -/
def Outcome.report : Outcome → IO UInt32
  | .helped out => do
    IO.print out
    return 0
  | .misused err => do
    IO.eprint err
    return 2
  | .ended status out err => do
    IO.eprint err
    IO.print out
    return status.toUInt32
  | .broken cause err => do
    IO.eprint (err ++ "error: " ++ cause.message ++ "\n")
    return 1

/-- Runs the words of a command line in the current folder of the machine. -/
def execute (words : List String) : IO UInt32 := do
  let here := Path.ofString (← IO.currentDir).toString
  let disk ← match parse words with
    | .ok a => surveyed a here
    | .error _ => pure {}
  (run words disk here).report

end ModuleHints.Command

/-- Runs the command. -/
def main (words : List String) : IO UInt32 := ModuleHints.Command.execute words
