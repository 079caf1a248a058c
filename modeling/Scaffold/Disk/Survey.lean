import Scaffold.Disk.Basic

/-!
# Whole parts of a file tree

Directories with those above them, directories with everything in them, and a survey of all that
can be seen below a directory.
-/

namespace Scaffold.Disk

/-- Makes a directory with those above it, unless it is there. -/
def makeDirectories (disk : Disk) (path : Path) : Except PathFault Disk :=
  if disk.isDirectory path then .ok disk
  else
    match disk.makeDirectory 0o777 path with
    | .error .missing => (chain path).foldlM ensureDirectory disk
    | outcome => outcome

/-- Writes a file and gives it the usual mode, with the directories above it. -/
def provideFile (disk : Disk) (path : Path) (content : ByteArray) : Except PathFault Disk := do
  let written ← (← disk.makeDirectories path.parent).writeFile path content
  match written.find path with
  | .ok (.taken location _) =>
    .ok { written with tree := written.tree.put location (.file content plainMode) }
  | _ => .ok written

/-- Removes an entry, a directory with everything in it. -/
def removeAll (disk : Disk) (path : Path) : Except PathFault Disk := do
  match disk.findEntry path with
  | .ok (.taken _ (.directory _)) => (← disk.emptyDirectory path).removeEmpty path
  | _ => disk.unlink path

/-- The directory at the top, or one between it and a location, does not give a right. -/
def isHeldBack (disk : Disk) (right : Right) (top location : Location) : Bool :=
  (List.range location.length).any fun length =>
    top.length ≤ length && !disk.tree.allows right (location.take length)

/-- An entry can be seen, but not be looked at, or its content not be read where that is asked
for. -/
def isRefused (disk : Disk) (withContent : Bool) (top : Location) (entry : Location × Node) :
    Bool :=
  disk.isHeldBack .pass top entry.1 ||
    match entry.2 with
    | .file _ _ => withContent && !disk.tree.allows .read entry.1
    | _ => false

/-- All entries that can be seen below a location. -/
def survey (disk : Disk) (withContent : Bool) (top : Location) :
    Except PathFault (List (Location × Node)) :=
  let entries := disk.tree.entries.filter fun (location, _) =>
    top.isPrefixOf location && top.length < location.length &&
      !disk.isHeldBack .read top location
  if entries.any (disk.isRefused withContent top) then .error .denied else .ok entries

end Scaffold.Disk
