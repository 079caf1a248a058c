import Scaffold.Config
import Scaffold.Go.Decl
import Scaffold.Model.Entity
import Scaffold.Source.Import

/-!
# The file of an entity

An interface, the table's name and alias for a primary entity, a getter and a setter for every
field, and constructors where none are written by hand.
-/

namespace Scaffold.Entity

/-- The fields that the interface shows. -/
def interfaceProperties (config : Config) (entity : Entity) : List Property :=
  let skipped := config.interfaceSkipFields ++
    (if entity.isLocalized then config.localizedSkipFields else [])
  entity.properties.filter fun property => !skipped.contains property.name

/-- The creator of a record may be unknown. -/
def hasOptionalCreator (config : Config) (entity : Entity) : Bool :=
  (entity.property? config.creatorField).any fun creator =>
    creator.type == config.optionalCreatorType

/-- The interface that the entity's interface embeds. -/
def capability (config : Config) (entity : Entity) : String :=
  if entity.isLocalized then config.localizedModelCapability
  else if entity.hasOptionalCreator config then
    config.baseModelCapability ++ config.optionalCreatorSuffix
  else config.baseModelCapability

/-- The getter of a field as a signature. -/
def getterSignature (property : Property) : Signature :=
  ⟨property.getterName, [], [⟨"", property.type⟩]⟩

/-- The setter of a field as a signature. -/
def setterSignature (property : Property) : Signature :=
  ⟨property.setterName, [⟨property.name, property.type⟩], []⟩

/-- The accessors of a field: the identity field has no setter. -/
def accessorSignatures (property : Property) : List Signature :=
  getterSignature property :: (if property.isIdentity then [] else [setterSignature property])

/-- The interface of the entity. -/
def interfaceDecl (config : Config) (entity : Entity) : Go.Decl :=
  let accessors := (entity.interfaceProperties config).flatMap accessorSignatures
  .interface none entity.interfaceName
    (entity.capability config :: (accessors ++ entity.extraMethods).map Signature.render)

/-- The receiver of the entity's methods. -/
def receiver (entity : Entity) : Go.Receiver :=
  ⟨entity.variableName, entity.name⟩

/-- The method that returns the table's name. -/
def tableNameMethod (entity : Entity) : Go.Func :=
  { doc := some "TableName returns the table name that belongs to the current model."
    receiver := some entity.receiver
    signature := ⟨"TableName", [], [⟨"", "string"⟩]⟩
    body := ["return \"" ++ entity.name ++ "\""] }

/-- The method that returns the table's alias. -/
def tableAliasMethod (entity : Entity) : Go.Func :=
  { doc := some "TableAlias returns the unique resolved table alias for use in queries."
    receiver := some entity.receiver
    signature := ⟨"TableAlias", [], [⟨"", "string"⟩]⟩
    body := ["return \"" ++ entity.defaultTableAlias ++ "\""] }

/-- The table methods of a primary entity that are not written by hand. -/
def tableMethods (entity : Entity) : List Go.Func :=
  if entity.isPrimary then
    (if entity.tableName.isNone then [entity.tableNameMethod] else []) ++
      (if entity.tableAlias.isNone then [entity.tableAliasMethod] else [])
  else []

/-- The method that reads a field. -/
def getter (entity : Entity) (property : Property) : Go.Func :=
  { doc := some (property.getterName ++ " returns " ++ property.name ++ ".")
    receiver := some entity.receiver
    signature := getterSignature property
    body := ["return " ++ entity.variableName ++ "." ++ property.name] }

/-- The receiver of a setter: another name where the field's own name would hide it. -/
def setterReceiver (entity : Entity) (property : Property) : String :=
  if property.name == entity.variableName then entity.variableName ++ "Entity"
  else entity.variableName

/-- The method that writes a field. -/
def setter (entity : Entity) (property : Property) : Go.Func :=
  let receiver := entity.setterReceiver property
  { doc := some (property.setterName ++ " sets the " ++ property.name ++ ".")
    receiver := some ⟨receiver, entity.name⟩
    signature := setterSignature property
    body := [receiver ++ "." ++ property.name ++ " = " ++ property.name] }

/-- The method that tells whether a record was updated. -/
def updateCheck (config : Config) (entity : Entity) : Go.Func :=
  let reference := config.updatedReferenceField
  { doc := some ("IsUpdated returns true if " ++ Naming.titled reference ++ " is set.")
    receiver := some entity.receiver
    signature := ⟨"IsUpdated", [], [⟨"", "bool"⟩]⟩
    body := ["return " ++ entity.variableName ++ "." ++ reference ++ " != nil"] }

/-- The methods that a field gives rise to. -/
def accessors (config : Config) (entity : Entity) (property : Property) : List Go.Func :=
  entity.getter property ::
    if property.isIdentity then []
    else entity.setter property ::
      (if property.name == config.updatedTriggerField then [entity.updateCheck config] else [])

/-- All methods of the entity's file, in order. -/
def methods (config : Config) (entity : Entity) : List Go.Func :=
  entity.tableMethods ++ entity.properties.flatMap (entity.accessors config)

/-- The constructors that are not written by hand. -/
def constructors (entity : Entity) : List Go.Func :=
  let struct : Go.Func :=
    { signature := ⟨entity.privateConstructorName, [], [⟨"", "*" ++ entity.name⟩]⟩
      body := ["return &" ++ entity.name ++ Go.braced ""] }
  let interface : Go.Func :=
    { doc := some ("New returns a new instance of " ++ entity.interfaceName ++ ".")
      signature := ⟨entity.publicConstructorName, [], [⟨"", entity.interfaceName⟩]⟩
      body := ["return " ++ entity.privateConstructorName ++ "()"] }
  (if entity.hasPrivateConstructor then [] else [struct]) ++
    (if entity.hasPublicConstructor then [] else [interface])

/-- A use of the package `time` at a place that no qualifier or word precedes. -/
def timeUse? (previous : Option Char) (text : Chars) : Option (Unit × Chars) :=
  if previous.any fun c => Text.isWord c || c == '.' then none
  else (Source.literal "time." text).map fun rest => ((), rest)

/-- The type mentions the package `time`. -/
def usesTime (type : String) : Bool :=
  (Source.firstMatch? timeUse? type.toList).isSome

/-- The imports of the entity's file. -/
def imports (config : Config) (entity : Entity) : List Import :=
  ⟨config.databaseImport, ""⟩ ::
    (if entity.properties.any fun property => usesTime property.type then [⟨"time", ""⟩] else [])

/-- The entity's file. -/
def file (config : Config) (entity : Entity) : Go.File :=
  { generator := config.generatorName
    package := entity.packageName
    imports := entity.imports config
    decls := .implements entity.interfaceName entity.name :: entity.interfaceDecl config ::
      (entity.methods config ++ entity.constructors).map .func }

/-- The text of the entity's file. -/
def render (config : Config) (entity : Entity) : String :=
  (entity.file config).render

end Scaffold.Entity
