import Scaffold.Text.Basic

/-!
# Paths

A path is a list of parts, absolute or not. Repeated slashes and `.` parts are dropped, `..` parts
are kept, and exactly two leading slashes mark a root of their own.
-/

namespace Scaffold

/-- Where a path starts from. -/
inductive Anchor where
  | relative
  | root
  /-- The root that is written with two slashes. -/
  | doubleRoot
  deriving DecidableEq, Repr

/-- A path as its anchor and parts. -/
structure Path where
  anchor : Anchor := .relative
  parts : List String := []
  deriving DecidableEq, Repr, Inhabited

namespace Path

/-- The anchor of a written path. -/
def anchorOf : Chars → Anchor
  | '/' :: '/' :: '/' :: _ => .root
  | '/' :: '/' :: _ => .doubleRoot
  | '/' :: _ => .root
  | _ => .relative

/-- The parts of a written path. -/
def partsOf (text : Chars) : List String :=
  ((Text.splitOn "/" text).filter fun part => !(part.isEmpty || part == ['.'])).map String.ofList

/-- The path that a text writes. -/
def ofString (text : String) : Path :=
  ⟨anchorOf text.toList, partsOf text.toList⟩

/-- The path as text. -/
def render (path : Path) : String :=
  let parts := "/".intercalate path.parts
  match path.anchor with
  | .relative => if path.parts.isEmpty then "." else parts
  | .root => "/" ++ parts
  | .doubleRoot => "//" ++ parts

/-- The path does not depend on the working directory. -/
def isAbsolute (path : Path) : Bool :=
  path.anchor != .relative

/-- The second path seen from the first one; an absolute one stands by itself. -/
def join (path other : Path) : Path :=
  if other.isAbsolute then other else ⟨path.anchor, path.parts ++ other.parts⟩

/-- A path below another one. -/
def child (path : Path) (name : String) : Path :=
  path.join (ofString name)

/-- The last part, empty where there is none. -/
def name (path : Path) : String :=
  path.parts.getLast?.getD ""

/-- The path without its last part. -/
def parent (path : Path) : Path :=
  { path with parts := path.parts.dropLast }

/-- A name cut at its last dot, unless that is its first or last character. -/
def splitName (name : String) : String × String :=
  let backwards := name.toList.reverse
  let extension := backwards.takeWhile (· != '.')
  let rest := backwards.drop extension.length
  if extension.isEmpty || rest.length < 2 then (name, "")
  else (String.ofList (rest.drop 1).reverse, String.ofList ('.' :: extension.reverse))

/-- The name without its extension. -/
def stem (path : Path) : String :=
  (splitName path.name).1

/-- The extension of the name with its dot. -/
def extension (path : Path) : String :=
  (splitName path.name).2

end Path

end Scaffold
