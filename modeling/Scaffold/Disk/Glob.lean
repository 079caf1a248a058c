import Scaffold.Disk.Basic
import Scaffold.Text.Wildcard

/-!
# Patterns of paths

A pattern of paths is made of patterns of names. Two stars stand for any directories on the way. A
pattern that ends in a slash stands for directories only.
-/

namespace Scaffold

/-- A part of a pattern of paths. -/
inductive GlobPart where
  /-- A name as it is. -/
  | exactly (name : String)
  /-- A name that fits a pattern. -/
  | fitting (pattern : String)
  /-- The directory, and all directories below it. -/
  | below
  deriving DecidableEq, Repr

/-- A pattern of paths. -/
structure Glob where
  parts : List GlobPart
  directoriesOnly : Bool := false
  deriving DecidableEq, Repr

namespace Glob

/-- A part of a pattern; two stars have to stand alone. -/
def part? (text : String) : Option GlobPart :=
  if text == "**" then some .below
  else if Text.contains text "**" then none
  else if text.toList.any fun c => c == '*' || c == '?' || c == '[' then some (.fitting text)
  else some (.exactly text)

/-- The pattern that a text writes. -/
def parse? (text : String) : Option Glob := do
  let parts ← (Path.partsOf text.toList).mapM part?
  return { parts, directoriesOnly := Text.endsWith text "/" }

/-- The path of an entry of a directory. -/
def entry (directory : Path) (name : String) : Path :=
  { directory with parts := directory.parts ++ [name] }

/-- A question about what a path leads to; it fails where the path cannot be looked up. -/
def ask (disk : Disk) (test : Disk → Path → Bool) (path : Path) : Except PathFault Bool :=
  match disk.refusal? path with
  | some fault => .error fault
  | none => .ok (test disk path)

/-- A question on the way of a search, which passes over what may not be looked at. -/
def askOnTheWay (disk : Disk) (test : Disk → Path → Bool) (path : Path) : Except PathFault Bool :=
  match ask disk test path with
  | .error .denied => .ok false
  | answer => answer

/-- The entries of a directory, sorted by name; one that may not be read shows none. -/
def entries (disk : Disk) (directory : Path) : List Path :=
  (((disk.directory? directory).bind disk.names?).getD []).map (entry directory)

/-- A directory and all directories below it; links are not followed. The number bounds the
depth. -/
def directories (disk : Disk) : Nat → Path → List Path
  | 0, directory => [directory]
  | depth + 1, directory =>
    directory :: ((entries disk directory).filter fun path =>
      match disk.findEntry path with
      | .ok (.taken _ (.directory _)) => true
      | _ => false).flatMap (directories disk depth)

/-- The paths that parts of a pattern lead to from a directory. -/
def select (disk : Disk) (directoriesOnly : Bool) :
    List GlobPart → Path → Except PathFault (List Path)
  | [], path => .ok [path]
  | part :: rest, path => do
    let inner := !rest.isEmpty || directoriesOnly
    let found ←
      match part with
      | .below => pure (directories disk (disk.tree.entries.length + 1) path)
      | .exactly name =>
        [entry path name].filterM
          (askOnTheWay disk (if inner then Disk.isDirectory else Disk.isTaken))
      | .fitting pattern =>
        let fitting := (entries disk path).filter fun path => Text.fits pattern path.name
        if inner then fitting.filterM (askOnTheWay disk Disk.isDirectory) else pure fitting
    return (← found.mapM (select disk directoriesOnly rest)).flatten

/-- Parts are sorted by the first ones that differ. -/
def partsPrecede : List String → List String → Bool
  | [], _ => true
  | _ :: _, [] => false
  | first :: firsts, second :: seconds =>
    if first == second then partsPrecede firsts seconds else first ≤ second

/-- Paths are sorted by their parts. -/
def precedes (first second : Path) : Bool :=
  partsPrecede first.parts second.parts

/-- The paths below a directory that fit a pattern, sorted. A pattern of one part goes through the
entries of one directory, which are sorted by themselves. -/
def paths (glob : Glob) (disk : Disk) (directory : Path) : Except PathFault (List Path) :=
  if !disk.isDirectory directory then (disk.refusal? directory).elim (.ok []) .error
  else do
    let found ← select disk glob.directoriesOnly glob.parts directory
    return if glob.parts.length = 1 then found else (found.mergeSort precedes).eraseDups

/-- The files below a directory that fit a pattern, sorted. -/
def files (glob : Glob) (disk : Disk) (directory : Path) : Except PathFault (List Path) := do
  (← glob.paths disk directory).filterM (ask disk Disk.isFile)

end Glob

end Scaffold
