import Scaffold.Config
import Scaffold.Schema.Reader

/-!
# Reading conventions

A configuration is an object whose members are conventions; those left out keep their defaults.
-/

namespace Scaffold.Config

/-- The names of all conventions. -/
def memberNames : List String :=
  ["generator_name", "source_extension", "generated_marker", "test_file_suffix", "file_mode",
   "directory_mode", "entity_marker", "no_db_field_directive", "stores_directory_name",
   "store_file_name", "entity_file_suffix", "primary_entity_exceptions",
   "mock_directory_suffixes", "import_root", "database_import", "errors_import", "sql_import",
   "interface_suffix", "translation_suffix", "base_model_capability",
   "optional_creator_capability_suffix", "translation_model_capability", "creator_field",
   "optional_creator_type", "updated_trigger_field", "updated_reference_field",
   "interface_skip_fields", "translation_skip_fields", "creator_scan_fields",
   "store_database_field", "store_interface_name", "run_formatter", "formatter_command",
   "build_meta", "meta_directory_name"]

/-- A file extension: leading dots are dropped after its length has been checked. -/
def extension : Schema.Reader String := fun value =>
  (fun text => String.ofList (text.toList.dropWhile (· == '.'))) <$> Schema.text 1 value

/-- The conventions that the members of an object set. -/
def ofMembers (members : Schema.Members) : Checked Config :=
  let name (key : String) (default : String) := Schema.member members key (Schema.text 1) default
  let free (key : String) (default : String) := Schema.member members key (Schema.text 0) default
  let names (key : String) (default : List String) :=
    Schema.member members key (Schema.list (Schema.text 0)) default
  let mode (key : String) (default : Nat) :=
    Schema.member members key (Schema.naturalUpTo 0o777) default
  let flag (key : String) (default : Bool) := Schema.member members key Schema.flag default
  let base : Config := {}
  Config.mk
    <$> name "generator_name" base.generatorName
    <*> Schema.member members "source_extension" extension base.sourceExtension
    <*> name "generated_marker" base.generatedMarker
    <*> name "test_file_suffix" base.testFileSuffix
    <*> mode "file_mode" base.fileMode
    <*> mode "directory_mode" base.directoryMode
    <*> name "entity_marker" base.entityMarker
    <*> name "no_db_field_directive" base.noDbFieldDirective
    <*> name "stores_directory_name" base.storesDirectoryName
    <*> name "store_file_name" base.storeFileName
    <*> name "entity_file_suffix" base.entityFileSuffix
    <*> Schema.member members "primary_entity_exceptions" (Schema.table (Schema.text 0))
      base.primaryEntityExceptions
    <*> names "mock_directory_suffixes" base.mockDirectorySuffixes
    <*> name "import_root" base.importRoot
    <*> name "database_import" base.databaseImport
    <*> name "errors_import" base.errorsImport
    <*> name "sql_import" base.sqlImport
    <*> name "interface_suffix" base.interfaceSuffix
    <*> name "translation_suffix" base.localizedSuffix
    <*> free "base_model_capability" base.baseModelCapability
    <*> free "optional_creator_capability_suffix" base.optionalCreatorSuffix
    <*> free "translation_model_capability" base.localizedModelCapability
    <*> free "creator_field" base.creatorField
    <*> free "optional_creator_type" base.optionalCreatorType
    <*> free "updated_trigger_field" base.updatedTriggerField
    <*> free "updated_reference_field" base.updatedReferenceField
    <*> names "interface_skip_fields" base.interfaceSkipFields
    <*> names "translation_skip_fields" base.localizedSkipFields
    <*> names "creator_scan_fields" base.creatorScanFields
    <*> name "store_database_field" base.storeDatabaseField
    <*> name "store_interface_name" base.storeInterfaceName
    <*> flag "run_formatter" base.runFormatter
    <*> Schema.member members "formatter_command" (Schema.nonEmptyList (Schema.text 0))
      base.formatterCommand
    <*> flag "build_meta" base.buildMeta
    <*> name "meta_directory_name" base.metaDirectoryName

/-- The conventions that a document sets. -/
def ofJson : Schema.Reader Config :=
  Schema.object memberNames ofMembers

end Scaffold.Config
