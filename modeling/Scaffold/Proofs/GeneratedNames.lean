import Mathlib.Data.List.Perm.Basic
import Scaffold.Proofs.DistinctOutputs

/-!
# Names of generated functions

The tests and the methods of an entity are named after its fields. A check of the entity compares
the names of its fields with each other and with the fixed tests. It does not compare the names that
are spelled from them, so these are distinct only where the getters are.
-/

namespace Scaffold

namespace Go.File

/-- The functions and methods that a file declares, in order. -/
def funcs (file : File) : List Func :=
  file.decls.filterMap fun
    | .func declaration => some declaration
    | _ => none

/-- The names of the functions without a receiver. -/
def functionNames (file : File) : List String :=
  (file.funcs.filter fun func => func.receiver.isNone).map fun func => func.signature.name

/-- The names of the methods. -/
def methodNames (file : File) : List String :=
  (file.funcs.filter fun func => func.receiver.isSome).map fun func => func.signature.name

end Go.File

/-- The setter of a field is spelled from its getter. -/
theorem Property.setterName_eq {property : Property} (h : property.isIdentity = false) :
    property.setterName = "Set" ++ property.getterName := by
  have hname : (property.name == identityField) = false := h
  rw [setterName, getterName, if_neg (Bool.eq_false_iff.mp hname)]
  split_ifs <;> rfl

namespace Entity

variable {config : Config} {entity : Entity}

/-- A checked entity has fields with distinct names. -/
theorem nodup_names_of_check (h : (entity.check config).isValid = true) :
    (entity.properties.map Property.name).Nodup := by
  simp only [Report.isValid, Bool.not_eq_true', List.any_eq_false, check,
    List.forall_mem_append] at h
  refine nodup_iff_countDistinct.mpr fun entry hentry hcount => ?_
  refine h.1.2 _ (List.mem_map.mpr ⟨entry, List.mem_filter.mpr ⟨hentry, ?_⟩, rfl⟩) rfl
  simpa using hcount

/-- No test of a field of a checked entity has the name of a fixed test. -/
theorem getterName_not_fixed_of_check (h : (entity.check config).isValid = true)
    {property : Property} (hproperty : property ∈ entity.testableProperties config) :
    property.getterName ∉ fixedTestSuffixes := by
  intro hfixed
  simp only [Report.isValid, Bool.not_eq_true', List.any_eq_false, check,
    List.forall_mem_append] at h
  obtain ⟨finding, hfinding, hlevel⟩ :
      ∃ finding ∈ entity.checkTest property, finding.level = .error := by
    rw [checkTest, if_pos (List.contains_iff_mem.mpr hfixed)]
    exact ⟨_, List.mem_append_right _ (List.mem_singleton_self _), rfl⟩
  exact h.2 finding (List.mem_flatMap.mpr ⟨property, hproperty, hfinding⟩) (by rw [hlevel]; rfl)

/-! ## Tests -/

/-- The tests of an entity: the fixed ones and one for each stored field. -/
theorem functionNames_testFile {file : Go.File} (h : entity.testFile config = .ok file) :
    file.functionNames =
      (fixedTestSuffixes ++ (entity.testableProperties config).map Property.getterName).map
        ("Test" ++ entity.name ++ ·) := by
  obtain ⟨literals, hliterals, hfile⟩ := Outcome.bind_eq_ok_iff.mp h
  obtain rfl := Except.ok.inj hfile
  have hproperties : literals.map Prod.fst = (entity.testableProperties config).map id := by
    refine Outcome.map_eq_of_mapM (fun property pair hpair => ?_) hliterals
    unfold withLiteral at hpair
    split at hpair <;> cases hpair
    rfl
  rw [List.map_id] at hproperties
  rw [← hproperties]
  simp [Go.File.functionNames, Go.File.funcs, List.filter_map, List.filterMap_map, fixedTests,
    fixedTestSuffixes, testFunc, roundTripTest, Function.comp_def]

theorem nodup_functionNames_iff (h : (entity.check config).isValid = true) {file : Go.File}
    (hfile : entity.testFile config = .ok file) :
    file.functionNames.Nodup ↔
      ((entity.testableProperties config).map Property.getterName).Nodup := by
  have hinjective : Function.Injective ("Test" ++ entity.name ++ · : String → String) :=
    fun _ _ => by simp
  rw [functionNames_testFile hfile, List.nodup_map_iff hinjective, List.nodup_append']
  have hfixed : fixedTestSuffixes.Nodup := by decide
  refine ⟨fun hall => hall.2.1, fun hgetters => ⟨hfixed, hgetters, fun name hname hgetter => ?_⟩⟩
  obtain ⟨property, hproperty, rfl⟩ := List.mem_map.mp hgetter
  exact getterName_not_fixed_of_check h hproperty hname

/-! ## Methods -/

/-- The update check follows the accessors of the field. -/
def isUpdateTrigger (config : Config) (property : Property) : Bool :=
  !property.isIdentity && property.name == config.updatedTriggerField

/-- The names of the methods that an entity has beside getters and setters. -/
def fixedMethodNames (config : Config) (entity : Entity) : List String :=
  entity.tableMethods.map (fun func => func.signature.name) ++
    if entity.properties.any (isUpdateTrigger config) then ["IsUpdated"] else []

/-- The names of the setters. -/
def setterNames (entity : Entity) : List String :=
  (entity.properties.filter fun property => !property.isIdentity).map Property.setterName

/-- The names of the methods that a field gives rise to. -/
theorem map_name_accessors (config : Config) (entity : Entity) (property : Property) :
    (entity.accessors config property).map (fun func => func.signature.name) =
      [property.getterName] ++ ((if !property.isIdentity then [property.setterName] else []) ++
        if isUpdateTrigger config property then ["IsUpdated"] else []) := by
  unfold accessors isUpdateTrigger
  cases property.isIdentity with
  | true => rfl
  | false => cases property.name == config.updatedTriggerField <;> rfl

theorem funcs_file (config : Config) (entity : Entity) :
    (entity.file config).funcs = entity.methods config ++ entity.constructors := by
  simp [Go.File.funcs, file, List.filterMap_map, interfaceDecl]

theorem methodNames_file (config : Config) (entity : Entity) :
    (entity.file config).methodNames =
      entity.tableMethods.map (fun func => func.signature.name) ++
        entity.properties.flatMap fun property =>
          (entity.accessors config property).map fun func => func.signature.name := by
  have hmethods : ∀ func ∈ entity.methods config, func.receiver.isSome = true := by
    simp only [methods, List.forall_mem_append, List.forall_mem_flatMap]
    constructor
    · unfold tableMethods
      split_ifs <;> simp [tableNameMethod, tableAliasMethod]
    · intro property _
      unfold accessors
      split_ifs <;> simp [getter, setter, updateCheck]
  have hconstructors : ∀ func ∈ entity.constructors, func.receiver.isSome = false := by
    unfold constructors
    split_ifs <;> simp
  rw [Go.File.methodNames, funcs_file, List.filter_append, List.filter_eq_self.mpr hmethods,
    List.filter_eq_nil_iff.mpr (by simpa using hconstructors), List.append_nil, methods,
    List.map_append, List.map_flatMap]

/-- Of fields with distinct names one at most brings the update check. -/
theorem flatMap_isUpdateTrigger {properties : List Property}
    (h : (properties.map Property.name).Nodup) :
    (properties.flatMap fun property =>
      if isUpdateTrigger config property then ["IsUpdated"] else []) =
        if properties.any (isUpdateTrigger config) then ["IsUpdated"] else [] := by
  induction properties with
  | nil => rfl
  | cons first rest ih =>
    obtain ⟨hfirst, hrest⟩ := List.nodup_cons.mp h
    rw [List.flatMap_cons, ih hrest, List.any_cons]
    cases htrigger : isUpdateTrigger config first with
    | false => rfl
    | true =>
      have hnone : rest.any (isUpdateTrigger config) = false := by
        rw [List.any_eq_false]
        intro other hother hsame
        simp only [isUpdateTrigger, Bool.and_eq_true, beq_iff_eq] at htrigger hsame
        exact hfirst (htrigger.2 ▸ hsame.2 ▸ List.mem_map_of_mem hother)
      rw [hnone]
      rfl

theorem flatMap_setterName (properties : List Property) :
    (properties.flatMap fun property =>
      if !property.isIdentity then [property.setterName] else []) =
        (properties.filter fun property => !property.isIdentity).map Property.setterName := by
  induction properties with
  | nil => rfl
  | cons first rest ih =>
    rw [List.flatMap_cons, ih, List.filter_cons]
    split_ifs <;> rfl

/-- The methods of a checked entity: those with fixed names, a getter for each field, and a setter
for each field but the identity. -/
theorem methodNames_perm (h : (entity.check config).isValid = true) :
    (entity.file config).methodNames.Perm
      (entity.fixedMethodNames config ++
        (entity.properties.map Property.getterName ++ entity.setterNames)) := by
  have haccessors := (List.map_append_flatMap_perm entity.properties Property.getterName
    fun property => (if !property.isIdentity then [property.setterName] else []) ++
      if isUpdateTrigger config property then ["IsUpdated"] else [])
  have hrest := List.flatMap_append_perm entity.properties
    (fun property => if !property.isIdentity then [property.setterName] else [])
    (fun property => if isUpdateTrigger config property then ["IsUpdated"] else [])
  rw [flatMap_setterName, ← setterNames, flatMap_isUpdateTrigger (nodup_names_of_check h)] at hrest
  simp only [methodNames_file, map_name_accessors, List.singleton_append, fixedMethodNames,
    List.append_assoc]
  refine (haccessors.symm.trans ((hrest.symm.append_left _).trans ?_)).append_left _
  rw [← List.append_assoc]
  exact List.perm_append_comm

theorem fixedMethodNames_sublist (config : Config) (entity : Entity) :
    (entity.fixedMethodNames config).Sublist ["TableName", "TableAlias", "IsUpdated"] := by
  have htable : (entity.tableMethods.map fun func => func.signature.name).Sublist
      ["TableName", "TableAlias"] := by
    unfold tableMethods
    split_ifs <;> simp [tableNameMethod, tableAliasMethod]
  have hupdate : (if entity.properties.any (isUpdateTrigger config) then ["IsUpdated"]
      else []).Sublist ["IsUpdated"] := by
    split_ifs <;> simp
  exact htable.append hupdate

/-- Setters are spelled from the getters of their fields. -/
theorem setterNames_eq (entity : Entity) :
    entity.setterNames = ((entity.properties.filter fun property => !property.isIdentity).map
      Property.getterName).map ("Set" ++ ·) := by
  rw [setterNames, List.map_map]
  refine List.map_congr_left fun property hproperty => Property.setterName_eq ?_
  simpa using (List.mem_filter.mp hproperty).2

theorem nodup_setterNames (h : (entity.properties.map Property.getterName).Nodup) :
    entity.setterNames.Nodup := by
  rw [setterNames_eq]
  exact (h.sublist (List.filter_sublist.map _)).map fun _ _ => by simp

theorem disjoint_setterNames (config : Config) (entity : Entity) :
    List.Disjoint (entity.fixedMethodNames config) entity.setterNames := by
  intro name hfixed hsetter
  have hhead : ∀ fixed ∈ ["TableName", "TableAlias", "IsUpdated"],
      fixed.toList.head? ≠ some 'S' := by decide
  rw [setterNames_eq] at hsetter
  obtain ⟨getter, -, rfl⟩ := List.mem_map.mp hsetter
  exact hhead _ ((fixedMethodNames_sublist config entity).subset hfixed) (by simp)

theorem nodup_methodNames_iff (h : (entity.check config).isValid = true) :
    (entity.file config).methodNames.Nodup ↔
      (entity.properties.map Property.getterName).Nodup ∧
        ∀ property ∈ entity.properties, property.getterName ∉ entity.fixedMethodNames config ∧
          property.getterName ∉ entity.setterNames := by
  rw [(methodNames_perm h).nodup_iff, List.nodup_append', List.nodup_append',
    List.disjoint_append_right]
  constructor
  · rintro ⟨-, ⟨hgetters, -, hsetter⟩, hfixed, -⟩
    refine ⟨hgetters, fun property hproperty => ⟨fun hname => ?_, fun hname => ?_⟩⟩
    · exact hfixed hname (List.mem_map_of_mem hproperty)
    · exact hsetter (List.mem_map_of_mem hproperty) hname
  · rintro ⟨hgetters, hnames⟩
    have hfixed : List.Disjoint (entity.fixedMethodNames config)
        (entity.properties.map Property.getterName) := by
      intro name hname hgetter
      obtain ⟨property, hproperty, rfl⟩ := List.mem_map.mp hgetter
      exact (hnames property hproperty).1 hname
    have hsetter : List.Disjoint (entity.properties.map Property.getterName)
        entity.setterNames := by
      intro name hgetter hname
      obtain ⟨property, hproperty, rfl⟩ := List.mem_map.mp hgetter
      exact (hnames property hproperty).2 hname
    exact ⟨(fixedMethodNames_sublist config entity).nodup (by decide),
      ⟨hgetters, nodup_setterNames hgetters, hsetter⟩, hfixed, disjoint_setterNames config entity⟩

/-- The tests of a checked entity have distinct names just when its stored fields have distinct
getters. Its methods have distinct names just when all its fields have distinct getters, none of
them the name of a setter or of a method with a fixed name. -/
theorem generated_names_distinct_iff (h : (entity.check config).isValid = true) :
    (∃ file, entity.testFile config = .ok file ∧ entity.renderTest config = .ok file.render ∧
      (file.functionNames.Nodup ↔
        ((entity.testableProperties config).map Property.getterName).Nodup)) ∧
    ((entity.file config).methodNames.Nodup ↔
      (entity.properties.map Property.getterName).Nodup ∧
        ∀ property ∈ entity.properties, property.getterName ∉ entity.fixedMethodNames config ∧
          property.getterName ∉ entity.setterNames) := by
  refine ⟨?_, nodup_methodNames_iff h⟩
  have hrender := renderTest_of_check h
  rw [renderTest] at hrender ⊢
  cases hfile : entity.testFile config with
  | error error => rw [hfile] at hrender; cases hrender
  | ok file => exact ⟨file, rfl, rfl, nodup_functionNames_iff h hfile⟩

/-- An entity with the fields that have accessors of their own kind. -/
def auditedSample : Entity :=
  { name := "Thing"
    packageName := "thing"
    properties := [⟨"id", "string", ""⟩, ⟨"_type", "*string", ""⟩, ⟨"updatedByID", "*string", ""⟩,
      ⟨"updatedBySurname", "*string", ""⟩, ⟨"table", "string", "@synthesize-no-db-field"⟩] }

theorem generated_names_distinct_iff_sample :
    (auditedSample.check {}).isValid = true ∧
      (∃ file, auditedSample.testFile {} = .ok file ∧ file.functionNames.Nodup) ∧
      (auditedSample.file {}).methodNames.Nodup := by
  have hvalid : (auditedSample.check {}).isValid = true := by decide
  obtain ⟨⟨file, hfile, -, htests⟩, hmethods⟩ := generated_names_distinct_iff hvalid
  exact ⟨hvalid, ⟨file, hfile, htests.mpr (by decide)⟩, hmethods.mpr (by decide)⟩

/-- An entity with two fields that differ in the case of their first letter. -/
def capitalSample : Entity :=
  { name := "Thing"
    packageName := "thing"
    properties := [⟨"id", "string", ""⟩, ⟨"name", "string", ""⟩, ⟨"Name", "string", ""⟩] }

/-- An entity with a field that is named after its table. -/
def tableSample : Entity :=
  { name := "Thing"
    packageName := "thing"
    properties := [⟨"id", "string", ""⟩, ⟨"tableName", "string", ""⟩] }

/-- The check passes over fields that share a getter, and over a getter that is a method with a
fixed name. -/
theorem generated_names_collide :
    (∀ property ∈ capitalSample.properties ++ tableSample.properties,
      Source.isIdentifier property.name.toList = true) ∧
    ((capitalSample.check {}).isValid = true ∧
      (∃ file, capitalSample.testFile {} = .ok file ∧ ¬ file.functionNames.Nodup) ∧
      ¬ (capitalSample.file {}).methodNames.Nodup) ∧
    (tableSample.check {}).isValid = true ∧ ¬ (tableSample.file {}).methodNames.Nodup := by
  refine ⟨by decide, ⟨by decide, ⟨_, rfl, ?_⟩, ?_⟩, by decide, ?_⟩ <;> decide

end Entity

end Scaffold
