import Scaffold.Shell.Program.Basic

/-!
# Entries of a disk

What programs on files are made of: looking entries up, putting them in place and removing them.
-/

namespace Scaffold.Shell.Program

/-- Runs a step for each of some words, one after the other. -/
def forEach (step : Chars → Job → Job) (words : List Chars) (job : Job) : Job :=
  words.foldl (fun job word => step word job) job

/-- What stands at a path. -/
def node (disk : Disk) (followLast : Bool) (path : Chars) : Except PathFault (Location × Node) :=
  match locate disk followLast path with
  | .ok (.taken location node) => .ok (location, node)
  | .ok (.vacant _) => .error .missing
  | .error fault => .error fault

/-- The path leads to a directory. -/
def isDirectory (disk : Disk) (path : Chars) : Bool :=
  match node disk true path with
  | .ok (_, .directory _) => true
  | _ => false

/-- The names in a directory, sorted, as bytes. -/
def namesIn (disk : Disk) (location : Location) : List Chars :=
  ((disk.tree.names location).map bytesOf).mergeSort Pattern.precedes

/-- Replaces the entry at a location. -/
def put (disk : Disk) (location : Location) (node : Node) : Disk :=
  { disk with tree := disk.tree.put location node }

/-- Removes the entry at a location with everything below it. -/
def drop (disk : Disk) (location : Location) : Disk :=
  { disk with tree := (disk.tree.clear location).erase location }

/-- The directory can be read where it stands. -/
def isReadable (disk : Disk) (location : Location) : Bool :=
  disk.tree.allows .read location && disk.tree.isOpen location.dropLast

/-- The mode of files that a program makes. -/
def newMode (job : Job) : Nat :=
  0o666 &&& (0o777 - job.mask % 512)

/-- Writes the content of a file: over one that is there, keeping its mode, or as a new one. -/
def write (job : Job) (path content : Chars) (appends : Bool := false) : Except PathFault Job :=
  match locate job.disk true path with
  | .ok (.taken location (.file old mode)) =>
    if job.disk.tree.allows .write location then
      let kept := if appends then old else ByteArray.empty
      .ok { job with disk := put job.disk location (.file (kept ++ toBytes content) mode) }
    else .error .denied
  | .ok (.taken _ _) => .error .directory
  | .ok (.vacant location) =>
    (job.disk.place location (.file (toBytes content) (newMode job))).map fun disk =>
      { job with disk }
  | .error fault => .error fault

/-- The letters of a mode. -/
def modeLetters (kind : Char) (mode : Nat) : Chars :=
  let bit (shift : Nat) (c : Char) := if (mode >>> shift) % 2 = 1 then c else '-'
  kind :: [bit 8 'r', bit 7 'w', bit 6 'x', bit 5 'r', bit 4 'w', bit 3 'x', bit 2 'r', bit 1 'w',
    bit 0 'x']

/-- The mode that an octal number or a list of changes gives. -/
def mode? (mask : Nat) (isDirectory : Bool) (old : Nat) (text : Chars) : Option Nat :=
  if !text.isEmpty && text.all fun c => '0' ≤ c && c ≤ '7' then
    let value := text.foldl (fun value c => 8 * value + (c.toNat - '0'.toNat)) 0
    if value ≤ 0o7777 then some value else none
  else
    (Text.splitOn "," text).foldlM
      (fun mode clause =>
        let who := clause.takeWhile fun c => "ugoa".toList.contains c
        let classes : Nat :=
          if who.isEmpty || who.contains 'a' then 0o777
          else
            (if who.contains 'u' then 0o700 else 0) + (if who.contains 'g' then 0o070 else 0) +
              (if who.contains 'o' then 0o007 else 0)
        let marks : Nat :=
          (if classes &&& 0o700 != 0 && !isDirectory then 0o4000 else 0) +
            if classes &&& 0o070 != 0 && !isDirectory then 0o2000 else 0
        match clause.drop who.length with
        | sign :: letters =>
          if !"+-=".toList.contains sign || letters.any fun c => !"rwxX".toList.contains c then none
          else
            let bits :=
              (if letters.contains 'r' then 0o444 else 0) +
                (if letters.contains 'w' then 0o222 else 0) +
                if letters.contains 'x' ||
                    (letters.contains 'X' && (isDirectory || mode &&& 0o111 != 0)) then 0o111
                else 0
            let bits := bits &&& classes
            let bits := if who.isEmpty then bits &&& (0o777 - mask % 512) else bits
            let without (mode bits : Nat) := mode - (mode &&& bits)
            some
              (if sign == '+' then mode ||| bits
               else if sign == '-' then without mode bits
               else without mode (classes ||| marks) ||| bits)
        | [] => none)
      old

end Scaffold.Shell.Program
