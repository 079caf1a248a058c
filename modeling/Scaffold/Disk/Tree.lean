import Scaffold.Path

/-!
# File trees

A tree maps locations to directories, files and links. A location is the list of names that lead
to it from the root, which is always a directory. Everything belongs to one owner, and the mode of
an entry says what the owner may do with it.
-/

namespace Scaffold

/-- The names that lead to an entry from the root. -/
abbrev Location := List String

/-- Contents are compared byte by byte. -/
instance decidableEqContent : DecidableEq ByteArray := ByteArray.instDecidableEq

/-- What stands at a location. -/
inductive Node where
  | directory (mode : Nat)
  | file (content : ByteArray) (mode : Nat)
  | link (target : String)
  deriving DecidableEq

/-- What may be done with an entry. -/
inductive Right where
  | read
  | write
  /-- A file is run, or a directory is passed through. -/
  | pass
  deriving DecidableEq, Repr

/-- The bit of a mode that gives the owner a right. -/
def Right.bit : Right → Nat
  | read => 0o400
  | write => 0o200
  | pass => 0o100

/-- The entry gives a right to its owner; a link gives all of them. -/
def Node.grants (right : Right) : Node → Bool
  | .directory mode => mode &&& right.bit != 0
  | .file _ mode => mode &&& right.bit != 0
  | .link _ => true

/-- A directory as it is made unless another mode is asked for. -/
def Node.plainDirectory : Node := .directory 0o755

/-- The entries of a file tree. -/
structure Tree where
  entries : List (Location × Node) := []
  deriving DecidableEq

namespace Tree

/-- What stands at a location. -/
def get? (tree : Tree) (location : Location) : Option Node :=
  if location.isEmpty then some .plainDirectory else tree.entries.lookup location

/-- Replaces the entry at a location, or adds it. -/
def putEntry (location : Location) (node : Node) :
    List (Location × Node) → List (Location × Node)
  | [] => [(location, node)]
  | (l, n) :: rest =>
    if l == location then (l, node) :: rest else (l, n) :: putEntry location node rest

/-- The tree with a node at a location. -/
def put (tree : Tree) (location : Location) (node : Node) : Tree :=
  ⟨putEntry location node tree.entries⟩

/-- The tree without the entry at a location. -/
def erase (tree : Tree) (location : Location) : Tree :=
  ⟨tree.entries.filter fun entry => entry.1 != location⟩

/-- The tree without everything below a location. -/
def clear (tree : Tree) (location : Location) : Tree :=
  ⟨tree.entries.filter fun entry => !(location.isPrefixOf entry.1 && entry.1 != location)⟩

/-- What stands at a location, if anything does, gives a right. -/
def allows (tree : Tree) (right : Right) (location : Location) : Bool :=
  (tree.get? location).all (Node.grants right)

/-- Entries may be made in a directory and removed from it. -/
def isAlterable (tree : Tree) (directory : Location) : Bool :=
  tree.allows .write directory && tree.allows .pass directory

/-- All directories that lead to a location, itself included, may be passed through. -/
def isOpen (tree : Tree) (location : Location) : Bool :=
  (List.range (location.length + 1)).all fun length => tree.allows .pass (location.take length)

/-- The location lies directly in a directory. -/
def isChildOf (directory location : Location) : Bool :=
  !location.isEmpty && location.dropLast == directory

/-- The names in a directory, sorted. -/
def names (tree : Tree) (directory : Location) : List String :=
  ((tree.entries.filter fun entry => isChildOf directory entry.1).map fun entry =>
    entry.1.getLast?.getD "").mergeSort fun a b => a ≤ b

end Tree

/-- Why a path cannot be used. -/
inductive PathFault where
  | missing
  | notDirectory
  /-- A directory stands where something else is needed. -/
  | directory
  /-- Something stands where nothing may. -/
  | occupied
  /-- A right is not given. -/
  | denied
  | loop
  /-- A name is longer than any entry's. -/
  | tooLong
  /-- A name holds the character that ends paths, which none can hold. -/
  | unspeakable
  deriving DecidableEq, Repr

/-- Where a path leads: to an entry, or to a place where one could be made. -/
inductive Place where
  | taken (location : Location) (node : Node)
  | vacant (location : Location)
  deriving DecidableEq

/-- The outcome of following names until they end or a link turns up. -/
inductive Descent where
  | ended (place : Except PathFault Place)
  /-- A link, to be followed from a location with names still to come. -/
  | detour (location : Location) (target : String) (names : List String)

namespace Tree

/-- The longest name in bytes. -/
def nameLimit : Nat := 255

/-- The outcome of names that lead to where there is no entry. -/
def vacancy (location : Location) (name : String) (rest : List String) : Except PathFault Place :=
  if nameLimit < name.utf8ByteSize then .error .tooLong
  else if rest.isEmpty then .ok (.vacant (location ++ [name]))
  else .error .missing

/-- Follows names from a directory, which has to be one that may be passed through. A link at the
very end is followed only where asked for. A dot stays in the directory, and so does an empty name,
which only asks for one. -/
def descend (tree : Tree) (followLast : Bool) (base : Location) : List String → Descent
  | [] => .ended (.ok (.taken base ((tree.get? base).getD .plainDirectory)))
  | name :: rest =>
    if name == "" then tree.descend followLast base rest
    else if !tree.allows .pass base then .ended (.error .denied)
    else if name == ".." then tree.descend followLast base.dropLast rest
    else if name == "." then tree.descend followLast base rest
    else
      let next := base ++ [name]
      match tree.get? next with
      | none => .ended (vacancy base name rest)
      | some (.directory _) => tree.descend followLast next rest
      | some (.file content mode) =>
        .ended (if rest.isEmpty then .ok (.taken next (.file content mode))
          else .error .notDirectory)
      | some (.link target) =>
        if rest.isEmpty && !followLast then .ended (.ok (.taken next (.link target)))
        else .detour base target rest

/-- How many links a path may lead through. -/
def linkLimit : Nat := 40

/-- The names that a link's target is made of. One that ends in a slash or a dot has to be a
directory, which the name at its end demands. -/
def targetNames (target : String) : List String :=
  (Path.ofString target).parts ++
    if Text.endsWith target "/" then [""] else if Text.endsWith target "/." then ["."] else []

/-- Where a link's target starts from. -/
def targetStart (location : Location) (target : String) : Location :=
  if (Path.ofString target).isAbsolute then [] else location

/-- Where names lead from a directory, through at most the given number of links. -/
def follow (tree : Tree) (followLast : Bool) : Nat → Location → List String →
    Except PathFault Place
  | links, base, names =>
    match tree.descend followLast base names with
    | .ended place => place
    | .detour location target rest =>
      match links with
      | 0 => .error .loop
      | links + 1 =>
        tree.follow followLast links (targetStart location target) (targetNames target ++ rest)

/-- The location of names without links and `..` parts; what is missing, or cannot be looked at,
stays as it is written. Links in `pending` are being followed already, and `through` follows
others. Names behind a link that leads to itself are left over, and make up the error with it. -/
def walk (tree : Tree)
    (through : List Location → Location → List String → Except Location Location)
    (pending : List Location) (base : Location) : List String → Except Location Location
  | [] => .ok base
  | name :: rest =>
    if name == ".." then tree.walk through pending base.dropLast rest
    else
      let next := base ++ [name]
      match if tree.isOpen base then tree.get? next else none with
      | some (.link target) =>
        if pending.contains next then .error (next ++ rest)
        else
          match through (next :: pending) (targetStart base target)
              (Path.ofString target).parts with
          | .ok location => tree.walk through pending location rest
          | .error left => .error (left ++ rest)
      | _ => tree.walk through pending next rest

/-- A walk through links, nested at most so deep. -/
def walkLinks (tree : Tree) : Nat → List Location → Location → List String →
    Except Location Location
  | 0 => tree.walk fun _ base names => .error (base ++ names)
  | depth + 1 => tree.walk (tree.walkLinks depth)

/-- A location without `..` parts, whatever stands there. -/
def lexical (names : List String) : Location :=
  names.foldl (fun location name => if name == ".." then location.dropLast else location ++ [name])
    []

/-- The location that names stand for, seen from a directory. Names that lead in a circle stand
for none. -/
def resolve (tree : Tree) (base : Location) (names : List String) : Except PathFault Location :=
  match tree.walkLinks (tree.entries.length + 1) [] base names with
  | .ok location => .ok location
  | .error left =>
    match tree.follow true linkLimit [] (lexical left) with
    | .error .loop => .error .loop
    | _ => .ok (lexical left)

end Tree

end Scaffold
