import Scaffold.Text.Basic

/-!
# Conventions

Every name, marker and file-layout rule that reading and generating go by. The defaults describe the
layout that packages have unless a configuration says otherwise.
-/

namespace Scaffold

/-- The conventions of a run. -/
structure Config where
  /-- The name in the header of generated files. -/
  generatorName : String := "storesynth"
  sourceExtension : String := "go"
  /-- What the names of generated files contain. -/
  generatedMarker : String := "_synthesized"
  testFileSuffix : String := "_test"
  fileMode : Nat := 0o600
  directoryMode : Nat := 0o700
  /-- The comment that makes a struct an entity. -/
  entityMarker : String := "@synthesize"
  /-- The comment on fields that are not stored. -/
  noDbFieldDirective : String := "@synthesize-no-db-field"
  storesDirectoryName : String := "stores"
  storeFileName : String := "store"
  /-- What may follow the package's name in the name of the primary entity's file. -/
  entityFileSuffix : String := "entity"
  /-- The primary entity's file of packages that follow no rule. -/
  primaryEntityExceptions : List (String × String) := [("product", "model")]
  mockDirectorySuffixes : List String := ["mock"]
  importRoot : String := "github.com/espal-digital-development/espal-core/stores"
  databaseImport : String := "github.com/espal-digital-development/espal-core/database"
  errorsImport : String := "github.com/juju/errors"
  sqlImport : String := "database/sql"
  interfaceSuffix : String := "Entity"
  /-- The ending of a name that marks an entity as localized. -/
  localizedSuffix : String := "Translation"
  /-- The interface that entities embed. -/
  baseModelCapability : String := "database.Model"
  /-- What is added to it where the creator may be unknown. -/
  optionalCreatorSuffix : String := "WithOptionalCreator"
  /-- The interface that localized entities embed. -/
  localizedModelCapability : String := "database.TranslationModel"
  creatorField : String := "createdByID"
  /-- The type that makes the creator optional. -/
  optionalCreatorType : String := "*string"
  /-- The field whose accessors the update check follows. -/
  updatedTriggerField : String := "updatedBySurname"
  /-- The field that the update check looks at. -/
  updatedReferenceField : String := "updatedByID"
  /-- Fields that no interface shows. -/
  interfaceSkipFields : List String :=
    ["id", "createdByID", "updatedByID", "createdAt", "updatedAt", "createdByFirstName",
     "createdBySurname", "updatedByFirstName", "updatedBySurname"]
  /-- Fields that the interfaces of localized entities do not show either. -/
  localizedSkipFields : List String := ["language", "field", "value"]
  /-- Fields that are scanned only where creators are asked for. -/
  creatorScanFields : List String :=
    ["createdByFirstName", "createdBySurname", "updatedByFirstName", "updatedBySurname"]
  storeDatabaseField : String := "selecterDatabase"
  storeInterfaceName : String := "Store"
  runFormatter : Bool := true
  formatterCommand : List String := ["go", "fmt", "./..."]
  buildMeta : Bool := true
  metaDirectoryName : String := "storesmeta"
  deriving DecidableEq, Repr, Inhabited

namespace Config

/-- The name of the source file with the given stem. -/
def fileName (config : Config) (stem : String) : String :=
  stem ++ "." ++ config.sourceExtension

/-- The name of the test file with the given stem. -/
def testFileName (config : Config) (stem : String) : String :=
  config.fileName (stem ++ config.testFileSuffix)

/-- The directive on fields begins with the marker of entities. -/
def directiveExtendsMarker (config : Config) : Bool :=
  Text.startsWith config.noDbFieldDirective config.entityMarker

end Config

end Scaffold
