import Scaffold.Notice
import Scaffold.Render.EntityTest
import Scaffold.Report

/-!
# Checks across models

Every model is well formed by itself. What is checked here holds between models: secondary entities
are not primary, outputs do not overwrite each other, every stored field has a test value and a
test name of its own, and the store knows its primary entity.
-/

namespace Scaffold

/-- The distinct elements of a list with their counts, in the order of their first occurrence. -/
def countDistinct (items : List String) : List (String × Nat) :=
  items.eraseDups.map fun item => (item, items.count item)

namespace Entity

/-- What findings about an entity carry. -/
def context (entity : Entity) : Json :=
  .obj [("entity", .str entity.name), ("path", (entity.sourcePath.map Json.str).getD .null)]

/-- An error about the entity. -/
def error (entity : Entity) (code message : String) : Finding :=
  ⟨.error, code, message, entity.context⟩

/-- The entity has no identity field. -/
def checkIdentity (entity : Entity) : List Finding :=
  if (entity.property? identityField).isSome then []
  else
    [⟨.warning, "MISSING_IDENTITY_FIELD",
      s!"Entity `{entity.name}` has no `{identityField}` field; the generated ID test will not " ++
        "compile.",
      entity.context⟩]

/-- Fields that are declared more than once. -/
def checkDuplicates (entity : Entity) : List Finding :=
  ((countDistinct (entity.properties.map Property.name)).filter fun (_, count) => 1 < count).map
    fun (name, count) =>
      entity.error "DUPLICATE_FIELD"
        s!"Field `{name}` is declared {count} times in `{entity.name}`"

/-- A stored field without a test value, or with the name of a fixed test. -/
def checkTest (entity : Entity) (property : Property) : List Finding :=
  (if (testLiteral? property.type).isSome then []
   else
    [entity.error "NO_TEST_LITERAL"
      s!"No test literal for type `{property.type}` of `{entity.name}.{property.name}`"]) ++
  (if fixedTestSuffixes.contains property.getterName then
    [entity.error "TEST_NAME_CLASH"
      (s!"Field `{entity.name}.{property.name}` would generate " ++
        s!"`Test{entity.name}{property.getterName}`, which is a fixed test")]
   else [])

/-- The checks of an entity by itself. -/
def check (config : Config) (entity : Entity) : Report :=
  ⟨entity.checkIdentity ++ entity.checkDuplicates ++
    (entity.testableProperties config).flatMap entity.checkTest⟩

end Entity

namespace Package

/-- Only the primary entity carries the name of the package. -/
def checkSecondary (package : Package) : Report :=
  ⟨(package.entities.filter Entity.isPrimary).map fun entity =>
    entity.error "SECONDARY_IS_PRIMARY"
      s!"Expected a non-primary entity for `{entity.name}` at `{package.path}`"⟩

/-- No two entities, and no entity and the store, write the same file. -/
def checkOutputs (config : Config) (package : Package) : Report :=
  let names := package.allEntities.map Entity.lowerName
  let duplicates := (countDistinct names).filter fun (_, count) => 1 < count
  let about (name : String) : Json := .obj [("entity", .str name)]
  ⟨(duplicates.map fun (name, count) =>
      ⟨.error, "DUPLICATE_OUTPUT",
       s!"{count} entities in `{package.path}` would write " ++
         s!"`{name}{config.generatedMarker}.{config.sourceExtension}`",
       about name⟩) ++
    (if names.contains config.storeFileName then
      [⟨.error, "STORE_OUTPUT_CLASH",
        s!"Entity `{config.storeFileName}` in `{package.path}` would overwrite the " ++
          "synthesized store file",
        about config.storeFileName⟩]
     else [])⟩

/-- The package is complete and its store belongs to its primary entity. -/
def checkLink (package : Package) : Report :=
  let about : Json := .obj [("path", .str package.path)]
  match package.store, package.mainEntity with
  | some store, some entity =>
    if store.mainEntity.any fun linked => linked.name == entity.name then {}
    else
      ⟨[⟨.error, "STORE_NOT_LINKED",
         s!"Store `{store.structName}` is not linked to the primary entity", about⟩]⟩
  | _, _ =>
    ⟨[⟨.error, "INCOMPLETE_PACKAGE",
       s!"Package `{package.name}` lacks a store or a primary entity", about⟩]⟩

/-- All checks of a package and of its entities. -/
def check (config : Config) (package : Package) : Report :=
  let whole := (package.checkLink.append package.checkSecondary).append
    (package.checkOutputs config)
  package.allEntities.foldl (fun report entity => report.append (entity.check config)) whole

/-- What is told of the report on a package. -/
def checkNotices (package : Package) (report : Report) : List Notice :=
  (report.warnings.map fun warning => ⟨.warning, warning.render⟩) ++
    (if report.isValid then []
     else [⟨.error, s!"Package {package.name} invalid. {report.summary}"⟩])

end Package

end Scaffold
