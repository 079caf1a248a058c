import Scaffold.Disk.Tree
import Scaffold.Text.Line

/-!
# Reading and changing a file tree

A disk is a tree with a working directory. Every change gives the disk after it, or fails and
leaves the disk as it was.
-/

namespace Scaffold

/-- A file tree with a working directory. -/
structure Disk where
  tree : Tree := {}
  cwd : Location := []
  deriving DecidableEq

namespace Disk

/-- The location that a path starts from. -/
def start (disk : Disk) (path : Path) : Location :=
  if path.isAbsolute then [] else disk.cwd

/-- A path that leads nowhere may be one that cannot be asked for. -/
def asked (path : Path) (outcome : Except PathFault Place) : Except PathFault Place :=
  match outcome with
  | .ok (.taken location node) => .ok (.taken location node)
  | other =>
    if path.parts.any fun part => part.toList.contains '\x00' then .error .unspeakable else other

/-- Where a path leads, links followed. -/
def find (disk : Disk) (path : Path) : Except PathFault Place :=
  asked path (disk.tree.follow true Tree.linkLimit (disk.start path) path.parts)

/-- Where a path leads, a link at its end not followed. -/
def findEntry (disk : Disk) (path : Path) : Except PathFault Place :=
  asked path (disk.tree.follow false Tree.linkLimit (disk.start path) path.parts)

/-- The location of the directory that a path leads to. -/
def directory? (disk : Disk) (path : Path) : Option Location :=
  match disk.find path with
  | .ok (.taken location (.directory _)) => some location
  | _ => none

/-- The path leads to a directory. -/
def isDirectory (disk : Disk) (path : Path) : Bool :=
  (disk.directory? path).isSome

/-- The path leads to a file. -/
def isFile (disk : Disk) (path : Path) : Bool :=
  match disk.find path with
  | .ok (.taken _ (.file _ _)) => true
  | _ => false

/-- The bytes of the file that a path leads to. -/
def fileContent (disk : Disk) (path : Path) : Except PathFault ByteArray :=
  match disk.find path with
  | .ok (.taken location (.file content _)) =>
    if disk.tree.allows .read location then .ok content else .error .denied
  | .ok (.taken _ _) => .error .directory
  | .ok (.vacant _) => .error .missing
  | .error fault => .error fault

/-- The path leads to an entry. -/
def isTaken (disk : Disk) (path : Path) : Bool :=
  match disk.find path with
  | .ok (.taken _ _) => true
  | _ => false

/-- Why a path cannot be looked up at all: a name on its way is too long, or a directory may not be
passed through. -/
def refusal? (disk : Disk) (path : Path) : Option PathFault :=
  match disk.find path with
  | .error .tooLong => some .tooLong
  | .error .denied => some .denied
  | _ => none

/-- The names in a directory, sorted, if it may be read. -/
def names? (disk : Disk) (directory : Location) : Option (List String) :=
  if disk.tree.allows .read directory then some (disk.tree.names directory) else none

/-- The absolute path without links and `..` parts. -/
def resolve (disk : Disk) (path : Path) : Except PathFault Path :=
  if path.parts.any fun part => part.toList.contains '\x00' then .error .unspeakable
  else (disk.tree.resolve (disk.start path) path.parts).map fun location => ⟨.root, location⟩

/-- The text of a file's bytes with newlines unified; nothing where the bytes are not text. -/
def decode? (content : ByteArray) : Option String :=
  (String.fromUTF8? content).map fun text => String.ofList (Text.unifyNewlines text.toList)

/-- Puts an entry in place, if its directory may be altered. -/
def place (disk : Disk) (location : Location) (node : Node) : Except PathFault Disk :=
  if disk.tree.isAlterable location.dropLast then
    .ok { disk with tree := disk.tree.put location node }
  else .error .denied

/-- Takes an entry away, if its directory may be altered. -/
def displace (disk : Disk) (location : Location) : Except PathFault Disk :=
  if disk.tree.isAlterable location.dropLast then
    .ok { disk with tree := disk.tree.erase location }
  else .error .denied

/-- Removes the file or link that a path leads to. -/
def unlink (disk : Disk) (path : Path) : Except PathFault Disk :=
  match disk.findEntry path with
  | .ok (.taken _ (.directory _)) => .error .directory
  | .ok (.taken location _) => disk.displace location
  | .ok (.vacant _) => .error .missing
  | .error fault => .error fault

/-- The name of a temporary file beside a file of this name, which has fourteen characters more, is
not too long. -/
def fitsTemporaryName (name : String) : Bool :=
  name.utf8ByteSize + 14 ≤ Tree.nameLimit

/-- The location that a path names if no `..` part leads out of a link. -/
def lexical (disk : Disk) (path : Path) : Path :=
  ⟨.root, Tree.lexical (disk.start path ++ path.parts)⟩

/-- Puts a file in place at once, over a file or link that is there. It is written beside its place
first, so the directory has to exist under the plain reading of its path too. -/
def replaceFile (disk : Disk) (path : Path) (content : ByteArray) (mode : Nat) :
    Except PathFault Disk :=
  match disk.findEntry path with
  | .error fault => .error fault
  | .ok (.taken _ (.directory _)) => .error .directory
  | .ok (.taken location _) => written location
  | .ok (.vacant location) => written location
where
  written (location : Location) : Except PathFault Disk :=
    if !fitsTemporaryName path.name then .error .tooLong
    else
      match disk.directory? (disk.lexical path.parent) with
      | none => .error .missing
      | some beside =>
        if disk.tree.isAlterable beside then disk.place location (.file content mode)
        else .error .denied

/-- The mode of files that are made without one. -/
def plainMode : Nat := 0o644

/-- Writes a file through links, keeping the mode of one that is there. -/
def writeFile (disk : Disk) (path : Path) (content : ByteArray) : Except PathFault Disk :=
  match disk.find path with
  | .ok (.taken location (.file _ mode)) =>
    if disk.tree.allows .write location then
      .ok { disk with tree := disk.tree.put location (.file content mode) }
    else .error .denied
  | .ok (.taken _ _) => .error .directory
  | .ok (.vacant location) => disk.place location (.file content plainMode)
  | .error fault => .error fault

/-- The part of a mode that is kept for what is made new: only the owner may write. -/
def maskedMode (mode : Nat) : Nat :=
  mode &&& 0o755

/-- Makes a directory where nothing is yet. -/
def makeDirectory (disk : Disk) (mode : Nat) (path : Path) : Except PathFault Disk :=
  match disk.findEntry path with
  | .ok (.vacant location) => disk.place location (.directory (maskedMode mode))
  | .ok (.taken _ _) => .error .occupied
  | .error fault => .error fault

/-- Makes a directory unless it is there. -/
def ensureDirectory (disk : Disk) (path : Path) : Except PathFault Disk :=
  if disk.isDirectory path then .ok disk else disk.makeDirectory 0o777 path

/-- The paths of the directories that lead to a path, itself included, the shortest first. -/
def chain (path : Path) : List Path :=
  (List.range path.parts.length).map fun count =>
    { path with parts := path.parts.take (count + 1) }

/-- Everything in a directory may be removed: it and all directories below it may be read, and those
with entries altered. -/
def isClearable (disk : Disk) (top : Location) : Bool :=
  ((top, .plainDirectory) :: disk.tree.entries).all fun (location, node) =>
    match node with
    | .directory _ =>
      !top.isPrefixOf location ||
        (disk.tree.allows .read location &&
          ((disk.tree.names location).isEmpty || disk.tree.isAlterable location))
    | _ => true

/-- Removes everything in a directory; a link to one is not followed. Where something in it cannot
be removed, nothing is: what a removal takes away before it fails is left out. -/
def emptyDirectory (disk : Disk) (path : Path) : Except PathFault Disk :=
  match disk.findEntry path with
  | .ok (.taken location (.directory _)) =>
    if disk.isClearable location then .ok { disk with tree := disk.tree.clear location }
    else .error .denied
  | .ok (.taken _ _) => .error .notDirectory
  | .ok (.vacant _) => .error .missing
  | .error fault => .error fault

/-- Removes an empty directory. It cannot be named from inside. -/
def removeEmpty (disk : Disk) (path : Path) : Except PathFault Disk :=
  match disk.findEntry path with
  | .ok (.taken location (.directory _)) =>
    if path.name == ".." || !(path.isAbsolute || !path.parts.isEmpty) ||
        !(disk.tree.names location).isEmpty then .error .occupied
    else disk.displace location
  | .ok (.taken _ _) => .error .notDirectory
  | .ok (.vacant _) => .error .missing
  | .error fault => .error fault

end Disk

end Scaffold
