import Scaffold.Render.Entity
import Scaffold.Render.EntityTest
import Scaffold.Render.Store

/-!
# The files of a package

Two files for every entity, the primary one first, and then the store's file.
-/

namespace Scaffold

/-- The names of an entity's file and test file. -/
def Entity.fileNames (config : Config) (entity : Entity) : String × String :=
  let stem := entity.lowerName ++ config.generatedMarker
  (config.fileName stem, config.testFileName stem)

/-- The file and the test file of an entity. -/
def Entity.files (config : Config) (entity : Entity) : Except Error (List GeneratedFile) := do
  let (name, testName) := entity.fileNames config
  let main ← (GeneratedFile.mk name (entity.render config)).checked.orError
  let tests ← entity.renderTest config
  let test ← (GeneratedFile.mk testName tests).checked.orError
  return [main, test]

/-- The name of the store's file. -/
def Config.storeOutputName (config : Config) : String :=
  config.fileName (config.storeFileName ++ config.generatedMarker)

/-- The file of a store. -/
def Store.files (config : Config) (store : Store) : Except Error (List GeneratedFile) := do
  let text ← store.render config
  let file ← (GeneratedFile.mk config.storeOutputName text).checked.orError
  return [file]

namespace Package

/-- The files of the package's entities. -/
def entityFiles (config : Config) (package : Package) : Except Error (List GeneratedFile) :=
  (package.allEntities.mapM (Entity.files config)).map List.flatten

/-- All files of the package. -/
def files (config : Config) (package : Package) : Except Error (List GeneratedFile) := do
  let entities ← package.entityFiles config
  match package.store with
  | none => return entities
  | some store => return entities ++ (← store.files config)

/-- What is told when the files are made. -/
def notices (config : Config) (package : Package) : List Notice :=
  match package.entityFiles config, package.store with
  | .ok _, some store => store.notices config
  | _, _ => []

end Package

end Scaffold
