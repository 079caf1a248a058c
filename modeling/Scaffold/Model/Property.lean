import Scaffold.Naming

/-!
# Properties

A property is a field of an entity's struct. The names of its accessors follow from its own name:
the identity field and the type field have fixed ones.
-/

namespace Scaffold

/-- The name of the field that identifies a record. -/
def identityField : String := "id"

/-- The name of the field that holds a record's type. -/
def typeField : String := "_type"

/-- A field with its type and the comment that follows it. -/
structure Property where
  name : String
  type : String
  comment : String := ""
  deriving DecidableEq, Repr, Inhabited

namespace Property

/-- The field identifies the record. -/
def isIdentity (property : Property) : Bool :=
  property.name == identityField

/-- The type is a pointer. -/
def isPointer (property : Property) : Bool :=
  property.type.toList.head? == some '*'

/-- The name of the method that reads the field. -/
def getterName (property : Property) : String :=
  if property.name == identityField then "ID"
  else if property.name == typeField then "Type"
  else Naming.titled property.name

/-- The name of the method that writes the field. -/
def setterName (property : Property) : String :=
  if property.name == typeField then "SetType" else "Set" ++ Naming.titled property.name

/-- A one-line description. -/
def describe (property : Property) : String :=
  "<Property " ++ property.name ++ " " ++ property.type ++ ">"

end Property

end Scaffold
