import Scaffold.Calendar
import Scaffold.CommandLine
import Std.Time.DateTime.Timestamp

/-!
# The program

Takes the part of the file system that a command line can reach into a disk, carries the command
line out on it, and brings the file system to the state that the disk is left in.
-/

namespace Scaffold.Program

/-- Adds an entry with the directories above it. -/
def place (disk : Disk) (location : Location) (node : Node) : Disk :=
  let above := (List.range location.length).drop 1
  let tree := above.foldl
    (fun tree length => tree.put (location.take length) .plainDirectory) disk.tree
  { disk with tree := tree.put location node }

/-- The location that an absolute path leads to. -/
def locationOf (path : String) : Location :=
  (Path.ofString path).parts

/-- A location as an absolute path. -/
def pathOf (location : Location) : String :=
  "/" ++ "/".intercalate location

/-- Takes an entry of the file system into a disk, and what lies below it down to a depth. An entry
that cannot be followed becomes a link to nowhere. -/
def gather (depth : Nat) (location : Location) (disk : Disk) : IO Disk := do
  let path ← (IO.FS.realPath (pathOf location)).toBaseIO
  match path with
  | .error _ => return place disk location (.link "/\x01")
  | .ok path =>
    if ← path.isDir then
      let disk := place disk location .plainDirectory
      match depth with
      | 0 => return disk
      | depth + 1 =>
        (← path.readDir).foldlM
          (fun disk entry => gather depth (location ++ [entry.fileName]) disk) disk
    else if ← path.pathExists then
      return place disk location (.file (← IO.FS.readBinFile path) Disk.plainMode)
    else return disk

/-- Takes what a path leads to into a disk, if there is anything. -/
def gatherPath (depth : Nat) (path : Path) (disk : Disk) : IO Disk := do
  match disk.resolve path with
  | .error _ => return disk
  | .ok resolved =>
    let location := resolved.parts
    match ← (IO.FS.realPath (pathOf location)).toBaseIO with
    | .error _ => return disk
    | .ok real => if ← real.pathExists then gather depth location disk else return disk

/-- How deep the meta package is looked into. -/
def metaDepth : Nat := 16

/-- The part of the file system that a run with the given options can reach. -/
def reach (options : Options) (disk : Disk) : IO Disk := do
  let disk ← (CommandLine.givenPath options.config).elim (pure disk) (gatherPath 0 · disk)
  let disk ← (CommandLine.givenPath options.manifest).elim (pure disk)
    fun path => do gatherPath 0 path (← gatherPath 0 path.parent disk)
  match ((CommandLine.configOf options).runOn disk).1 with
  | .error _ => return disk
  | .ok config =>
    let disk ← gatherPath 0 (CommandLine.startOf options) disk
    match Run.rootOf config disk (CommandLine.startOf options) with
    | .error _ => return disk
    | .ok root => gatherPath metaDepth (Meta.directory config root) (← gatherPath 2 root disk)

/-- The rights that a digit of a mode stands for. -/
def rightsOf (digit : Nat) : IO.AccessRight :=
  { read := digit / 4 % 2 = 1, write := digit / 2 % 2 = 1, execution := digit % 2 = 1 }

/-- The rights that a mode stands for. -/
def fileRights (mode : Nat) : IO.FileRight :=
  { user := rightsOf (mode / 64), group := rightsOf (mode / 8), other := rightsOf mode }

/-- Brings one entry of the file system to what stands at its location. -/
def realize (location : Location) : Node → IO Unit
  | .directory mode => do
    IO.FS.createDirAll (pathOf location)
    IO.setAccessRights (pathOf location) (fileRights mode)
  | .link _ => pure ()
  | .file content mode => do
    IO.FS.writeBinFile (pathOf location) content
    IO.setAccessRights (pathOf location) (fileRights mode)

/-- Brings the file system from one tree to another. -/
def settle (before after : Tree) : IO Unit := do
  for (location, node) in before.entries.reverse do
    if (after.get? location).isNone then
      match node with
      | .directory _ => IO.FS.removeDirAll (pathOf location)
      | _ => IO.FS.removeFile (pathOf location)
  for (location, node) in after.entries do
    if before.get? location ≠ some node then realize location node

/-- The time of day, as seconds since the start of 1970. -/
def now : IO Nat := do
  return (← Std.Time.Timestamp.now).toSecondsSinceUnixEpoch.val.toNat

end Scaffold.Program

open Scaffold Scaffold.Program in
/-- Carries out a command line and gives its exit code. -/
def main (words : List String) : IO UInt32 := do
  let started ← IO.monoMsNow
  let cwd := locationOf (← IO.FS.realPath (← IO.currentDir)).toString
  let empty ← gather 0 cwd { cwd }
  let disk ← match Options.parse words with
    | .run options => reach options empty
    | _ => pure empty
  let (deed, workspace) := CommandLine.perform words (Calendar.timestamp (← now)) disk
  settle disk.tree workspace.disk.tree
  let elapsed := (← IO.monoMsNow) - started
  let ending := deed.ending (RunReport.elapsedText ⟨false, elapsed, -3⟩)
  IO.print ending.output
  IO.eprint (String.join (workspace.notices.map fun notice => notice.render ++ "\n"))
  IO.eprint ending.complaint
  return ending.exitCode.toUInt32
