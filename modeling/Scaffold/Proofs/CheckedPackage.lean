import Scaffold.Check
import Scaffold.Proofs.Outcome
import Scaffold.Render.Package

/-!
# Checked packages can be rendered

The checks of a package and the rendering of its files are separate code. A report without errors
says enough for every file to be made: each stored field has a test value, and the store is linked
to an entity. The order of the files is that of the entities, the store's file last.
-/

namespace Scaffold

variable {config : Config} {entity : Entity}

namespace Report

@[simp] theorem isValid_append (report other : Report) :
    (report.append other).isValid = (report.isValid && other.isValid) := by
  simp [append, isValid, List.any_append]

/-- Appending reports keeps a report valid exactly when each of them is. -/
theorem isValid_foldl_append {α : Type} (report : Report) (part : α → Report) (items : List α) :
    (items.foldl (fun whole item => whole.append (part item)) report).isValid = true ↔
      report.isValid = true ∧ ∀ item ∈ items, (part item).isValid = true := by
  induction items generalizing report with
  | nil => simp
  | cons item rest ih => simp [ih, and_assoc]

end Report

namespace Entity

/-- A checked entity has a test value for every field that gets a test. -/
theorem testLiteral?_isSome_of_check
    (h : (entity.check config).isValid = true) {property : Property}
    (hp : property ∈ entity.testableProperties config) :
    (testLiteral? property.type).isSome = true := by
  by_contra hnone
  have hfinding : entity.error "NO_TEST_LITERAL"
      s!"No test literal for type `{property.type}` of `{entity.name}.{property.name}`" ∈
        (entity.check config).findings := by
    simp only [check, List.mem_append, List.mem_flatMap]
    refine Or.inr ⟨property, hp, ?_⟩
    simp [checkTest, hnone]
  simp only [Report.isValid, Bool.not_eq_true', List.any_eq_false] at h
  exact h _ hfinding rfl

/-- Where every field that gets a test has a test value, each is taken with its value. -/
theorem mapM_withLiteral (h : ∀ property ∈ entity.testableProperties config,
      (testLiteral? property.type).isSome = true) :
    (entity.testableProperties config).mapM entity.withLiteral =
      .ok ((entity.testableProperties config).map fun property =>
        (property, (testLiteral? property.type).getD "")) := by
  apply Outcome.mapM_eq_ok_map
  intro property hproperty
  obtain ⟨literal, hliteral⟩ := Option.isSome_iff_exists.mp (h property hproperty)
  simp [withLiteral, hliteral]

/-- The text of an entity's test file, empty where there can be none. -/
def testText (config : Config) (entity : Entity) : String :=
  (entity.renderTest config).toOption.getD ""

/-- A checked entity has a test file. -/
theorem renderTest_of_check (h : (entity.check config).isValid = true) :
    entity.renderTest config = .ok (entity.testText config) := by
  have hliterals := mapM_withLiteral fun _ => testLiteral?_isSome_of_check h
  simp only [testText, renderTest, testFile, hliterals]
  rfl

end Entity

/-- No source file has an empty name: there is a dot in it. -/
theorem Config.fileName_ne_empty (config : Config) (stem : String) : config.fileName stem ≠ "" := by
  intro hempty
  have hlength := congrArg String.length hempty
  simp [Config.fileName] at hlength

/-- A generated file with a source file's name is well formed. -/
theorem GeneratedFile.checked_fileName (config : Config) (stem content : String) :
    (GeneratedFile.mk (config.fileName stem) content).checked.orError =
      .ok ⟨config.fileName stem, content⟩ := by
  have hname : (config.fileName stem).isEmpty = false := by
    simpa using config.fileName_ne_empty stem
  simp only [GeneratedFile.checked, Checked.nonEmpty, hname]
  rfl

/-- The two files of a checked entity, the test file second. -/
theorem Entity.files_of_check (h : (entity.check config).isValid = true) :
    entity.files config = .ok
      [⟨(entity.fileNames config).1, entity.render config⟩,
       ⟨(entity.fileNames config).2, entity.testText config⟩] := by
  simp only [Entity.files, Entity.fileNames, Config.testFileName, renderTest_of_check h,
    GeneratedFile.checked_fileName]
  rfl

/-- The file of a store that is linked to an entity. -/
theorem Store.files_of_linked {store : Store} (h : store.mainEntity = some entity) :
    ∃ text, store.render config = .ok text ∧
      store.files config = .ok [⟨config.storeOutputName, text⟩] := by
  obtain ⟨file, hfile⟩ : ∃ file, store.file config = .ok file := by
    simp only [Store.file, h]
    exact ⟨_, rfl⟩
  have hrender : store.render config = .ok file.render := by
    simp only [Store.render, hfile]
    rfl
  refine ⟨file.render, hrender, ?_⟩
  simp only [Store.files, hrender, Config.storeOutputName, GeneratedFile.checked_fileName]
  rfl

variable {package : Package}

namespace Package

/-- The parts that a valid report on a package is made of. -/
theorem check_isValid_iff :
    (package.check config).isValid = true ↔
      (package.checkLink.isValid = true ∧ package.checkSecondary.isValid = true ∧
        (package.checkOutputs config).isValid = true) ∧
      ∀ entity ∈ package.allEntities, (entity.check config).isValid = true := by
  simp [check, Report.isValid_foldl_append, and_assoc]

/-- A package whose link is checked is complete, and its store knows an entity. -/
theorem complete_of_checkLink (h : package.checkLink.isValid = true) :
    ∃ main store linked, package.mainEntity = some main ∧ package.store = some store ∧
      store.mainEntity = some linked := by
  unfold checkLink at h
  split at h
  · next store main hs hm =>
    cases hl : store.mainEntity with
    | none => simp [hl, Report.isValid] at h
    | some linked => exact ⟨main, store, linked, hm, hs, hl⟩
  · simp [Report.isValid] at h

/-- The files of a checked package, by entity and then the store's. -/
theorem files_of_check (h : (package.check config).isValid = true) :
    ∃ main store storeText, package.mainEntity = some main ∧ package.store = some store ∧
      store.render config = .ok storeText ∧
      package.files config = .ok ((main :: package.entities).flatMap (fun entity =>
          [⟨(entity.fileNames config).1, entity.render config⟩,
           ⟨(entity.fileNames config).2, entity.testText config⟩]) ++
        [⟨config.storeOutputName, storeText⟩]) := by
  obtain ⟨⟨hlink, -, -⟩, hentities⟩ := check_isValid_iff.mp h
  obtain ⟨main, store, linked, hm, hs, hl⟩ := complete_of_checkLink hlink
  obtain ⟨storeText, hrender, hstore⟩ := @Store.files_of_linked config linked store hl
  refine ⟨main, store, storeText, hm, hs, hrender, ?_⟩
  have hall : package.allEntities = main :: package.entities := by simp [allEntities, hm]
  have hfiles : package.entityFiles config = .ok ((main :: package.entities).flatMap fun entity =>
      [⟨(entity.fileNames config).1, entity.render config⟩,
       ⟨(entity.fileNames config).2, entity.testText config⟩]) := by
    rw [entityFiles, Outcome.mapM_eq_ok_map fun entity hentity =>
      Entity.files_of_check (hentities entity hentity), List.flatMap_def, hall]
    rfl
  simp only [files, hfiles, hs, hstore]
  rfl

/-- A package without errors in its report renders completely: two files for each entity, the
primary one first, and the store's file at the end. -/
theorem files_complete_of_check {config : Config} {package : Package}
    (h : (package.check config).isValid = true) :
    ∃ main store storeText files, package.mainEntity = some main ∧ package.store = some store ∧
      (∀ entity ∈ main :: package.entities,
        entity.renderTest config = .ok (entity.testText config)) ∧
      store.render config = .ok storeText ∧
      package.files config = .ok files ∧
      files = (main :: package.entities).flatMap (fun entity =>
          [⟨(entity.fileNames config).1, entity.render config⟩,
           ⟨(entity.fileNames config).2, entity.testText config⟩]) ++
        [⟨config.storeOutputName, storeText⟩] ∧
      files.length = 2 * package.allEntities.length + 1 := by
  obtain ⟨main, store, storeText, hm, hs, hrender, hfiles⟩ := files_of_check h
  have hall : package.allEntities = main :: package.entities := by simp [allEntities, hm]
  have hentities := (check_isValid_iff.mp h).2
  rw [hall] at hentities
  refine ⟨main, store, storeText, _, hm, hs,
    fun entity hentity => Entity.renderTest_of_check (hentities entity hentity), hrender, hfiles,
    rfl, ?_⟩
  simp only [hall, List.length_append, List.length_flatMap, List.length_cons, List.length_nil,
    List.map_const', List.sum_replicate_nat]
  omega

/-- A package with a second entity, pointers, raw bytes, and a field of a type without test value
that is not stored. -/
def sample : Package :=
  let user : Entity :=
    { name := "User"
      packageName := "user"
      properties := [⟨"id", "string", ""⟩, ⟨"active", "*bool", ""⟩, ⟨"avatar", "[]byte", "raw"⟩,
        ⟨"groups", "map[string]bool", "@synthesize-no-db-field"⟩] }
  { name := "user"
    path := "stores/user"
    importPath := "example.com/stores/user"
    store := some { structName := "UsersStore", packageName := "user", mainEntity := some user }
    mainEntity := some user
    entities := [{ name := "UserTranslation", packageName := "user", isLocalized := true }] }

theorem files_complete_of_check_sample :
    (sample.check {}).isValid = true ∧
      ∃ files, sample.files {} = .ok files ∧ files.length = 5 := by
  have hvalid : (sample.check {}).isValid = true := by decide
  obtain ⟨_, _, _, files, -, -, -, -, hfiles, -, hlength⟩ := files_complete_of_check hvalid
  exact ⟨hvalid, files, hfiles, hlength⟩

end Package

end Scaffold
