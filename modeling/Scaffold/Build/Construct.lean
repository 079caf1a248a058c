import Scaffold.Error
import Scaffold.Model.Package

/-!
# Well-formed models

Models made from source text obey the same rule as models read from documents: names and types are
not empty.
-/

namespace Scaffold

/-- A text that is not empty, or the problem that it is. -/
def Checked.nonEmpty (member text : String) : Checked String :=
  if text.isEmpty then .bad [⟨[.key member], .stringTooShort⟩] else .good text

/-- The checked value, or the error that tells its problems. -/
def Checked.orError {α : Type} (value : Checked α) : Except Error α :=
  value.toExcept Error.invalid

/-- A parameter with a type. -/
def Param.checked (param : Param) : Checked Param :=
  Param.mk param.name <$> .nonEmpty "type" param.type

/-- A signature with a name. -/
def Signature.checked (signature : Signature) : Checked Signature :=
  (fun name => { signature with name }) <$> .nonEmpty "name" signature.name

/-- A property with a name and a type. -/
def Property.checked (property : Property) : Checked Property :=
  (fun name type => { property with name, type })
    <$> .nonEmpty "name" property.name <*> .nonEmpty "type" property.type

/-- A service with a name and a type. -/
def Service.checked (service : Service) : Checked Service :=
  Service.mk <$> .nonEmpty "name" service.name <*> .nonEmpty "type" service.type

/-- An entity with a name, a package and an interface suffix. -/
def Entity.checked (entity : Entity) : Checked Entity :=
  (fun name packageName interfaceSuffix => { entity with name, packageName, interfaceSuffix })
    <$> .nonEmpty "name" entity.name <*> .nonEmpty "package_name" entity.packageName
    <*> .nonEmpty "interface_suffix" entity.interfaceSuffix

/-- A store with a struct and a package. -/
def Store.checked (store : Store) : Checked Store :=
  (fun structName packageName => { store with structName, packageName })
    <$> .nonEmpty "struct_name" store.structName <*> .nonEmpty "package_name" store.packageName

/-- A package with a name, a path and an import path. -/
def Package.checked (package : Package) : Checked Package :=
  (fun name path importPath => { package with name, path, importPath })
    <$> .nonEmpty "name" package.name <*> .nonEmpty "path" package.path
    <*> .nonEmpty "import_path" package.importPath

/-- A file with a name. -/
def GeneratedFile.checked (file : GeneratedFile) : Checked GeneratedFile :=
  (fun path => { file with path }) <$> .nonEmpty "path" file.path

end Scaffold
