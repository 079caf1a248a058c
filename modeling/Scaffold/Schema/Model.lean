import Scaffold.Error
import Scaffold.Model.Package
import Scaffold.Schema.Reader

/-!
# Reading models

Properties, signatures, services, entities, stores, packages and files as objects of a document.
Names and types may not be empty.
-/

namespace Scaffold

/-- A non-empty text, as names and types are. -/
def Schema.name : Schema.Reader String := Schema.text 1

/-- A text that may be empty. -/
def Schema.anyText : Schema.Reader String := Schema.text 0

/-- A text or nothing. -/
def Schema.maybeText : Schema.Reader (Option String) := Schema.optional (Schema.text 0)

/-- A parameter or result. -/
def Param.ofJson : Schema.Reader Param :=
  Schema.object ["name", "type"] fun members =>
    Param.mk
      <$> Schema.member members "name" Schema.anyText ""
      <*> Schema.required members "type" Schema.name

/-- A signature. -/
def Signature.ofJson : Schema.Reader Signature :=
  Schema.object ["name", "parameters", "return_values"] fun members =>
    Signature.mk
      <$> Schema.required members "name" Schema.name
      <*> Schema.member members "parameters" (Schema.list Param.ofJson) []
      <*> Schema.member members "return_values" (Schema.list Param.ofJson) []

/-- A property. -/
def Property.ofJson : Schema.Reader Property :=
  Schema.object ["name", "type", "comment"] fun members =>
    Property.mk
      <$> Schema.required members "name" Schema.name
      <*> Schema.required members "type" Schema.name
      <*> Schema.member members "comment" Schema.anyText ""

/-- A service. -/
def Service.ofJson : Schema.Reader Service :=
  Schema.object ["name", "type"] fun members =>
    Service.mk
      <$> Schema.required members "name" Schema.name
      <*> Schema.required members "type" Schema.name

/-- The names of an entity's members. -/
def Entity.memberNames : List String :=
  ["name", "package_name", "import_path", "interface_suffix", "properties",
   "extra_interface_methods", "table_name", "table_alias", "has_private_constructor",
   "has_public_constructor", "is_translation", "source_path"]

/-- An entity. -/
def Entity.ofJson : Schema.Reader Entity :=
  Schema.object memberNames fun members =>
    Entity.mk
      <$> Schema.required members "name" Schema.name
      <*> Schema.required members "package_name" Schema.name
      <*> Schema.member members "import_path" Schema.anyText ""
      <*> Schema.member members "interface_suffix" Schema.name "Entity"
      <*> Schema.member members "properties" (Schema.list Property.ofJson) []
      <*> Schema.member members "extra_interface_methods" (Schema.list Signature.ofJson) []
      <*> Schema.member members "table_name" Schema.maybeText none
      <*> Schema.member members "table_alias" Schema.maybeText none
      <*> Schema.member members "has_private_constructor" Schema.flag false
      <*> Schema.member members "has_public_constructor" Schema.flag false
      <*> Schema.member members "is_translation" Schema.flag false
      <*> Schema.member members "source_path" Schema.maybeText none

/-- What is told of an entity and follows from its members. -/
def Entity.derivedNames : List String :=
  ["is_primary", "interface_name", "variable_name", "test_variable_name",
   "public_constructor_name", "private_constructor_name", "default_table_alias",
   "contains_bytes_type"]

/-- The entity with one member set to a value of a document. -/
def Entity.setMember (entity : Entity) (name : String) (value : Json) : Checked Entity :=
  let set {α : Type} (read : Schema.Reader α) (put : α → Entity) : Checked Entity :=
    put <$> (read value).within (.key name)
  match name with
  | "name" => set Schema.name fun v => { entity with name := v }
  | "package_name" => set Schema.name fun v => { entity with packageName := v }
  | "import_path" => set Schema.anyText fun v => { entity with importPath := v }
  | "interface_suffix" => set Schema.name fun v => { entity with interfaceSuffix := v }
  | "properties" => set (Schema.list Property.ofJson) fun v => { entity with properties := v }
  | "extra_interface_methods" =>
    set (Schema.list Signature.ofJson) fun v => { entity with extraMethods := v }
  | "table_name" => set Schema.maybeText fun v => { entity with tableName := v }
  | "table_alias" => set Schema.maybeText fun v => { entity with tableAlias := v }
  | "has_private_constructor" =>
    set Schema.flag fun v => { entity with hasPrivateConstructor := v }
  | "has_public_constructor" => set Schema.flag fun v => { entity with hasPublicConstructor := v }
  | "is_translation" => set Schema.flag fun v => { entity with isLocalized := v }
  | "source_path" => set Schema.maybeText fun v => { entity with sourcePath := v }
  | _ => .bad [⟨[.key name], .noSuchAttribute⟩]

/-- The names of a store's members. -/
def Store.memberNames : List String :=
  ["struct_name", "package_name", "methods", "method_names", "services", "imports",
   "import_aliases", "has_private_constructor", "has_public_constructor",
   "has_build_queries_method", "main_entity", "source_path"]

/-- A store. -/
def Store.ofJson : Schema.Reader Store :=
  Schema.object memberNames fun members =>
    Store.mk
      <$> Schema.required members "struct_name" Schema.name
      <*> Schema.required members "package_name" Schema.name
      <*> Schema.member members "methods" (Schema.list Signature.ofJson) []
      <*> Schema.member members "method_names" (Schema.list Schema.anyText) []
      <*> Schema.member members "services" (Schema.list Service.ofJson) []
      <*> Schema.member members "imports" (Schema.list Schema.anyText) []
      <*> Schema.member members "import_aliases" (Schema.table Schema.anyText) []
      <*> Schema.member members "has_private_constructor" Schema.flag false
      <*> Schema.member members "has_public_constructor" Schema.flag false
      <*> Schema.member members "has_build_queries_method" Schema.flag false
      <*> Schema.member members "main_entity" (Schema.optional Entity.ofJson) none
      <*> Schema.member members "source_path" Schema.maybeText none

/-- What is told of a store and follows from its members. -/
def Store.derivedNames : List String := ["variable_name"]

/-- The store with one member set to a value of a document. -/
def Store.setMember (store : Store) (name : String) (value : Json) : Checked Store :=
  let set {α : Type} (read : Schema.Reader α) (put : α → Store) : Checked Store :=
    put <$> (read value).within (.key name)
  match name with
  | "struct_name" => set Schema.name fun v => { store with structName := v }
  | "package_name" => set Schema.name fun v => { store with packageName := v }
  | "methods" => set (Schema.list Signature.ofJson) fun v => { store with methods := v }
  | "method_names" => set (Schema.list Schema.anyText) fun v => { store with methodNames := v }
  | "services" => set (Schema.list Service.ofJson) fun v => { store with services := v }
  | "imports" => set (Schema.list Schema.anyText) fun v => { store with imports := v }
  | "import_aliases" =>
    set (Schema.table Schema.anyText) fun v => { store with importAliases := v }
  | "has_private_constructor" => set Schema.flag fun v => { store with hasPrivateConstructor := v }
  | "has_public_constructor" => set Schema.flag fun v => { store with hasPublicConstructor := v }
  | "has_build_queries_method" => set Schema.flag fun v => { store with hasBuildQueries := v }
  | "main_entity" =>
    set (Schema.optional Entity.ofJson) fun v => { store with mainEntity := v }
  | "source_path" => set Schema.maybeText fun v => { store with sourcePath := v }
  | _ => .bad [⟨[.key name], .noSuchAttribute⟩]

/-- What is told of every model and cannot be set. -/
def Schema.commonNames : List String := ["model_extra", "model_fields_set", "__fields_set__"]

/-- Sets a member of a model. Derived names cannot be set; others that start with an underscore are
notes that no model looks at. -/
def Schema.assign {α : Type} (derivedNames : List String) (model : α) (name : String)
    (set : Unit → Checked α) : Except Error α :=
  if (commonNames ++ derivedNames).contains name then .error .derived
  else if name.toList.head? == some '_' then .ok model
  else
    match set () with
    | .good model => .ok model
    | .bad problems => .error (.invalid problems)

/-- A package. -/
def Package.ofJson : Schema.Reader Package :=
  Schema.object ["name", "path", "import_path", "store", "main_entity", "entities"]
    fun members =>
      Package.mk
        <$> Schema.required members "name" Schema.name
        <*> Schema.required members "path" Schema.name
        <*> Schema.required members "import_path" Schema.name
        <*> Schema.member members "store" (Schema.optional Store.ofJson) none
        <*> Schema.member members "main_entity" (Schema.optional Entity.ofJson) none
        <*> Schema.member members "entities" (Schema.list Entity.ofJson) []

/-- A file; the counts that it may carry are checked and computed anew. -/
def GeneratedFile.ofJson : Schema.Reader GeneratedFile :=
  Schema.object ["path", "content", "line_count", "size_bytes"] fun members =>
    (fun path content _ _ => ⟨path, content⟩)
      <$> Schema.required members "path" Schema.name
      <*> Schema.required members "content" Schema.anyText
      <*> Schema.member members "line_count" Schema.natural 0
      <*> Schema.member members "size_bytes" Schema.natural 0

end Scaffold
