import Scaffold.Build.Signature
import Scaffold.Config
import Scaffold.Source.Marker
import Scaffold.Source.Method

/-!
# Entities from source

The entity of a file is its marked struct, with the methods that a companion interface adds to it
and the methods and functions that are already written by hand.
-/

namespace Scaffold.Entity

/-- The methods that the companion interface of a struct declares. -/
def readExtraMethods (structName : String) (source : Chars) : Except Error (List Signature) :=
  match Source.findExtraInterface (Text.lower structName).toList source with
  | none => .ok []
  | some body => do
    let methods ← Error.ofSource (Source.readInterface body)
    methods.mapM fun method => Signature.ofText method.name method.params method.results

/-- The entity that a source declares; faults carry no path yet. -/
def read (config : Config) (source packageName importPath : String)
    (sourcePath : Option String) : Except Error Entity := do
  let text := source.toList
  let block ← Error.ofSource (Source.findMarkedStruct config.entityMarker.toList text)
  let fields ← Error.ofSource (Source.readFields block.body.toList)
  let properties ← fields.mapM fun field => field.checked.orError
  let declared : Entity :=
    { name := block.name
      packageName
      importPath
      interfaceSuffix := config.interfaceSuffix
      properties
      isLocalized := Text.endsWith block.name config.localizedSuffix
      sourcePath }
  let entity ← declared.checked.orError
  let extraMethods ← readExtraMethods block.name text
  return { entity with
    extraMethods
    tableName := if entity.isPrimary then Source.findTableName text else none
    tableAlias := if entity.isPrimary then Source.findTableAlias text else none
    hasPrivateConstructor := Source.hasFunction entity.privateConstructorName.toList text
    hasPublicConstructor := Source.hasFunction entity.publicConstructorName.toList text }

/-- The entity that a source declares. -/
def ofSource (config : Config) (source packageName importPath : String)
    (sourcePath : Option String) : Except Error Entity :=
  (read config source packageName importPath sourcePath).mapError (Error.inFile sourcePath)

end Scaffold.Entity
