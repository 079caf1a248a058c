import Scaffold.Model.Property
import Scaffold.Model.Signature

/-!
# Entities

An entity is a record type of a package, read from a marked struct. Which entity of a package is
its primary one follows from the names alone.
-/

namespace Scaffold

/-- A record type: its fields, the methods added to its interface, and what is written by hand. -/
structure Entity where
  name : String
  packageName : String
  importPath : String := ""
  interfaceSuffix : String := "Entity"
  properties : List Property := []
  extraMethods : List Signature := []
  /-- The table name that a hand-written method returns. -/
  tableName : Option String := none
  /-- The table alias that a hand-written method returns. -/
  tableAlias : Option String := none
  hasPrivateConstructor : Bool := false
  hasPublicConstructor : Bool := false
  /-- The entity holds the texts of another one in some language. -/
  isLocalized : Bool := false
  sourcePath : Option String := none
  deriving DecidableEq, Repr, Inhabited

namespace Entity

/-- The lower-case name; output files are named after it. -/
def lowerName (entity : Entity) : String :=
  Text.lower entity.name

/-- The entity carries the name of its package. -/
def isPrimary (entity : Entity) : Bool :=
  entity.lowerName == entity.packageName

/-- The name of the interface that the entity implements. -/
def interfaceName (entity : Entity) : String :=
  Naming.titled entity.name ++ entity.interfaceSuffix

/-- The receiver in generated methods. -/
def variableName (entity : Entity) : String :=
  Naming.initial entity.name

/-- The variable in generated tests, where `t` is taken. -/
def testVariableName (entity : Entity) : String :=
  if entity.variableName == "t" then "tt" else entity.variableName

/-- The constructor that returns the interface. -/
def publicConstructorName (entity : Entity) : String :=
  "New" ++ entity.interfaceName

/-- The constructor that returns the struct. -/
def privateConstructorName (entity : Entity) : String :=
  "new" ++ entity.name

/-- The alias of the table where none is written by hand: the capitals of the interface name
without its suffix, in lower case. -/
def defaultTableAlias (entity : Entity) : String :=
  let name := entity.interfaceName
  Naming.initials <|
    if Text.endsWith name entity.interfaceSuffix then
      String.ofList (name.toList.take (name.length - entity.interfaceSuffix.length))
    else name

/-- Some field holds raw bytes. -/
def containsBytes (entity : Entity) : Bool :=
  entity.properties.any fun property => property.type == "[]byte"

/-- The first field of that name. -/
def property? (entity : Entity) (name : String) : Option Property :=
  entity.properties.find? fun property => property.name == name

/-- A one-line description. -/
def describe (entity : Entity) : String :=
  "<Entity " ++ entity.name ++ (if entity.isPrimary then " primary" else "") ++ " (" ++
    toString entity.properties.length ++ " properties)>"

end Entity

end Scaffold
