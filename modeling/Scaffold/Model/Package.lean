import Scaffold.Model.Store
import Scaffold.Text.Line

/-!
# Packages and generated files

A package is the unit of generation: one store, one primary entity and any number of others. What
it yields are files, each a name inside the package's directory and a content.
-/

namespace Scaffold

/-- A store with its entities. -/
structure Package where
  name : String
  path : String
  importPath : String
  store : Option Store := none
  mainEntity : Option Entity := none
  /-- The entities other than the primary one. -/
  entities : List Entity := []
  deriving DecidableEq, Repr, Inhabited

namespace Package

/-- The primary entity and the others. -/
def allEntities (package : Package) : List Entity :=
  package.mainEntity.toList ++ package.entities

/-- A one-line description. -/
def describe (package : Package) : String :=
  "<Package " ++ package.name ++ " (" ++ toString package.allEntities.length ++ " entities)>"

end Package

/-- A file to be written into a package's directory. -/
structure GeneratedFile where
  path : String
  content : String
  deriving DecidableEq, Repr, Inhabited

/-- The number of line feeds of the content. -/
def GeneratedFile.lineCount (file : GeneratedFile) : Nat :=
  Text.lineFeeds file.content

/-- The size of the content in bytes. -/
def GeneratedFile.sizeBytes (file : GeneratedFile) : Nat :=
  file.content.utf8ByteSize

end Scaffold
