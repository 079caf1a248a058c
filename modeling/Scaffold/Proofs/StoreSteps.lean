import Scaffold.Build.Store
import Scaffold.Proofs.SignatureRoundTrip

/-!
# What the steps of building a store change

Resolving imports changes no other part of a store. The name of every method of the store's struct
is recorded before its signature is looked at, so that the recorded names are those that the sources
declare, whatever becomes of the signatures.
-/

namespace Scaffold

theorem Service.eq_of_checked {service found : Service}
    (h : service.checked.orError = .ok found) : found = service := by
  unfold Service.checked Checked.nonEmpty at h
  split_ifs at h <;> cases h
  rfl

namespace Store

variable {first second third store later : Store} {imports : List Import} {name : String}

/-- A store with other imports. -/
def withImports (store : Store) (paths : List String) (aliases : List (String × String)) : Store :=
  { store with imports := paths, importAliases := aliases }

/-- Two stores differ in their imports at most. -/
def SameCore (first second : Store) : Prop :=
  ∃ paths aliases, second = first.withImports paths aliases

theorem SameCore.refl (store : Store) : SameCore store store :=
  ⟨store.imports, store.importAliases, rfl⟩

theorem SameCore.trans (h : SameCore first second) (h' : SameCore second third) :
    SameCore first third := by
  obtain ⟨paths, aliases, rfl⟩ := h
  obtain ⟨paths', aliases', rfl⟩ := h'
  exact ⟨paths', aliases', rfl⟩

theorem SameCore.methodNames (h : SameCore first second) :
    second.methodNames = first.methodNames := by
  obtain ⟨_, _, rfl⟩ := h
  rfl

theorem SameCore.structName (h : SameCore first second) :
    second.structName = first.structName := by
  obtain ⟨_, _, rfl⟩ := h
  rfl

theorem SameCore.services (h : SameCore first second) : second.services = first.services := by
  obtain ⟨_, _, rfl⟩ := h
  rfl

theorem SameCore.methods (h : SameCore first second) : second.methods = first.methods := by
  obtain ⟨_, _, rfl⟩ := h
  rfl

theorem SameCore.mainEntity (h : SameCore first second) :
    second.mainEntity = first.mainEntity := by
  obtain ⟨_, _, rfl⟩ := h
  rfl

/-- An import changes nothing but the imports. -/
theorem sameCore_addImport (store : Store) (path name : String) :
    SameCore store (store.addImport path name) := by
  rw [addImport]
  split
  · exact .refl store
  · exact ⟨_, _, rfl⟩

theorem sameCore_foldl {α : Type} {step : Store → α → Store}
    (h : ∀ store item, SameCore store (step store item)) (items : List α) (store : Store) :
    SameCore store (items.foldl step store) := by
  induction items generalizing store with
  | nil => exact .refl store
  | cons item rest ih => exact (h store item).trans (ih _)

/-- Resolving qualifiers changes the imports only. -/
theorem sameCore_resolveImports (store : Store) (imports : List Import)
    (qualifiers : List String) : SameCore store (store.resolveImports imports qualifiers) := by
  refine sameCore_foldl (fun store qualifier => ?_) qualifiers store
  unfold resolveImport
  split
  · exact .refl store
  · exact sameCore_addImport store _ _

/-- The imports that generated code needs, in the order in which they are added. -/
def fixedImports (config : Config) (store : Store) : List String :=
  (if store.hasFetch then [] else [config.errorsImport, config.databaseImport, config.sqlImport]) ++
    if store.hasBuildQueries && !store.hasPrivateConstructor && !store.hasPublicConstructor then
      [config.errorsImport]
    else []

/-- Finishing a store adds imports. -/
theorem finalize_eq (config : Config) (store : Store) :
    store.finalize config =
      (store.fixedImports config).foldl (fun store path => store.addImport path "") store := by
  obtain ⟨paths, aliases, hsame⟩ := sameCore_foldl
    (fun store path => sameCore_addImport store path "")
    [config.errorsImport, config.databaseImport, config.sqlImport] store
  unfold finalize fixedImports
  rw [List.foldl_append]
  cases hfetch : store.hasFetch with
  | true =>
    simp only [if_true, List.foldl_nil]
    split_ifs <;> rfl
  | false =>
    simp only [Bool.false_eq_true, if_false, hsame, withImports]
    split_ifs <;> rfl

/-- Finishing a store changes nothing but the imports. -/
theorem sameCore_finalize (config : Config) (store : Store) :
    SameCore store (store.finalize config) := by
  rw [finalize_eq]
  exact sameCore_foldl (fun store path => sameCore_addImport store path "") _ store

variable {methods : List Source.Method}

/-- A name that is added is there, and no other is. -/
theorem mem_methodNames_addMethodName {other : String} :
    other ∈ (store.addMethodName name).methodNames ↔ other ∈ store.methodNames ∨ other = name := by
  unfold addMethodName
  split_ifs with hknown
  · have hmem : name ∈ store.methodNames := by simpa using hknown
    constructor
    · exact Or.inl
    · rintro (hother | rfl)
      · exact hother
      · exact hmem
  · simp

theorem addMethodName_of_mem (h : name ∈ store.methodNames) : store.addMethodName name = store := by
  rw [addMethodName, if_pos (by simpa using h)]

/-- Recording a name changes no other part of a store. -/
theorem addMethodName_eq (store : Store) (name : String) :
    ∃ names, store.addMethodName name = { store with methodNames := names } := by
  unfold addMethodName
  split_ifs <;> exact ⟨_, rfl⟩

/-- The recorded names are those from before and those of the methods. -/
theorem mem_methodNames_addMethodNames :
    name ∈ (store.addMethodNames methods).methodNames ↔
      name ∈ store.methodNames ∨ ∃ method ∈ methods, method.name = name := by
  induction methods generalizing store with
  | nil => simp [addMethodNames]
  | cons method rest ih =>
    have hstep : store.addMethodNames (method :: rest) =
        (store.addMethodName method.name).addMethodNames rest := rfl
    rw [hstep, ih, mem_methodNames_addMethodName, List.exists_mem_cons_iff, or_assoc,
      @eq_comm _ name]

/-- Recording names changes no other part of a store. -/
theorem addMethodNames_eq (store : Store) (methods : List Source.Method) :
    ∃ names, store.addMethodNames methods = { store with methodNames := names } := by
  induction methods generalizing store with
  | nil => exact ⟨store.methodNames, rfl⟩
  | cons method rest ih =>
    obtain ⟨names, hrest⟩ := ih (store.addMethodName method.name)
    obtain ⟨first, hfirst⟩ := addMethodName_eq store method.name
    exact ⟨names, hrest.trans (by rw [hfirst])⟩

theorem structName_addMethodNames :
    (store.addMethodNames methods).structName = store.structName := by
  obtain ⟨names, heq⟩ := addMethodNames_eq store methods
  rw [heq]

/-- Collecting signatures of methods whose names are recorded records no further name. -/
theorem addPublicMethods_names (h : ∀ method ∈ methods, method.name ∈ store.methodNames) :
    (addPublicMethods imports methods store).1.methodNames = store.methodNames ∧
      (addPublicMethods imports methods store).1.structName = store.structName := by
  induction methods generalizing store with
  | nil => exact ⟨rfl, rfl⟩
  | cons method rest ih =>
    rw [List.forall_mem_cons] at h
    rw [addPublicMethods]
    split_ifs with hknown
    · exact ih h.2
    · split
      · exact ⟨rfl, rfl⟩
      · next signature hsignature =>
        have hname := (Signature.ofText_ok_iff.mp hsignature).1
        have hadded : store.addMethod signature =
            { store with methods := store.methods ++ [signature] } :=
          addMethodName_of_mem (by rw [hname]; exact h.1)
        have hsame := sameCore_resolveImports (store.addMethod signature) imports
          (Source.findQualifiers (method.params.toList ++ ' ' :: method.results.toList))
        have hnames := hsame.methodNames
        have hstruct := hsame.structName
        rw [hadded] at hnames hstruct hsame
        rw [hadded]
        have hrest := @ih (resolveImports _ _ _) (by rw [hnames]; exact h.2)
        exact ⟨hrest.1.trans hnames, hrest.2.trans hstruct⟩

/-- A source declares a method of a struct. -/
def Declares (structName name source : String) : Prop :=
  ∃ methods, Source.findMethods source.toList = .ok methods ∧
    ∃ method ∈ methods, method.receiverType = structName ∧ method.name = name

/-- A struct has a method exactly if its source declares it. -/
theorem exists_methodsOf_iff {structName source : String}
    (h : methodsOf structName source.toList = .ok methods) :
    (∃ method ∈ methods, method.name = name) ↔ Declares structName name source := by
  simp only [methodsOf, Outcome.bind_eq_ok_iff, Error.ofSource_ok_iff] at h
  obtain ⟨found, hfound, hmethods⟩ := h
  obtain rfl := Except.ok.inj hmethods
  simp only [Declares, hfound, Except.ok.injEq, List.mem_filter, beq_iff_eq]
  constructor
  · rintro ⟨method, ⟨hmem, htype⟩, hname⟩
    exact ⟨found, rfl, method, hmem, htype, hname⟩
  · rintro ⟨_, rfl, method, hmem, htype, hname⟩
    exact ⟨method, ⟨hmem, htype⟩, hname⟩

/-- Methods that are recorded and whose public ones are collected. -/
theorem addPublicMethods_addMethodNames (keep : Source.Method → Bool) :
    (∀ name, name ∈ (addPublicMethods imports (methods.filter keep)
        (store.addMethodNames methods)).1.methodNames ↔
      name ∈ store.methodNames ∨ ∃ method ∈ methods, method.name = name) ∧
    (addPublicMethods imports (methods.filter keep) (store.addMethodNames methods)).1.structName =
      store.structName := by
  obtain ⟨hnames, hstruct⟩ := @addPublicMethods_names (store.addMethodNames methods) imports
    (methods.filter keep) fun method hmethod =>
      mem_methodNames_addMethodNames.mpr (Or.inr ⟨method, (List.mem_filter.mp hmethod).1, rfl⟩)
  refine ⟨fun name => ?_, hstruct.trans structName_addMethodNames⟩
  rw [hnames, mem_methodNames_addMethodNames]

/-- A file that is taken up adds the names of the methods that it declares. -/
theorem harvest_names {source : String} {collectPublic : Bool} {path : Option String} {count : Nat}
    (h : store.harvest source collectPublic path = (later, .ok count)) :
    later.structName = store.structName ∧
      ∀ name, name ∈ later.methodNames ↔
        name ∈ store.methodNames ∨ Declares store.structName name source := by
  unfold harvest at h
  simp only at h
  split at h
  · cases h
  next methods hmethods =>
    simp only [← exists_methodsOf_iff hmethods]
    cases collectPublic with
    | false =>
      obtain ⟨rfl, -⟩ := Prod.mk.inj h
      exact ⟨structName_addMethodNames, fun name => mem_methodNames_addMethodNames⟩
    | true =>
      obtain ⟨rfl, -⟩ := Prod.mk.inj h
      obtain ⟨hnames, hstruct⟩ := @addPublicMethods_addMethodNames store
        (Source.findImports source.toList) methods Source.Method.isPublic
      exact ⟨hstruct, hnames⟩

theorem eq_of_checked (h : store.checked.orError = .ok later) : later = store := by
  unfold Store.checked Checked.nonEmpty at h
  split_ifs at h <;> cases h
  rfl

/-- Services go to the end of the store's services; of the rest only the imports change. -/
theorem addService_ok {service : Service} (h : addService imports store service = .ok later) :
    later = { store with services := store.services ++ [service] }.resolveImports imports
      [service.qualifier] := by
  obtain ⟨found, hfound, hlater⟩ := Outcome.bind_eq_ok_iff.mp h
  rw [Service.eq_of_checked hfound] at hlater
  exact (Except.ok.inj hlater).symm

/-- Services leave the names of the methods and of the struct. -/
theorem foldlM_addService_names {services : List Service}
    (h : services.foldlM (addService imports) store = .ok later) :
    later.methodNames = store.methodNames ∧ later.structName = store.structName := by
  induction services generalizing store with
  | nil =>
    obtain rfl := Except.ok.inj h
    exact ⟨rfl, rfl⟩
  | cons service rest ih =>
    obtain ⟨middle, hmiddle, hrest⟩ := Outcome.bind_eq_ok_iff.mp h
    have hsame := sameCore_resolveImports { store with services := store.services ++ [service] }
      imports [service.qualifier]
    rw [← addService_ok hmiddle] at hsame
    exact ⟨(ih hrest).1.trans hsame.methodNames, (ih hrest).2.trans hsame.structName⟩

/-- The store of a struct, before its services and methods are collected. -/
def declared (source packageName : String) (mainEntity : Entity) (sourcePath : Option String)
    (structName : String) (methods : List Source.Method) : Store :=
  { structName
    packageName
    hasPrivateConstructor := Source.hasFunction "new".toList source.toList
    hasPublicConstructor := Source.hasFunction "New".toList source.toList
    hasBuildQueries := methods.any fun method => method.name == "buildQueries"
    mainEntity := some mainEntity
    sourcePath }

/-- The parts of reading a store that succeeds. A store with a public constructor, or without
services and public methods, is taken as it is declared. -/
theorem ofSource_ok {source packageName : String} {mainEntity : Option Entity}
    {path : Option String} (h : ofSource source packageName mainEntity path = .ok store) :
    ∃ entity block methods, mainEntity = some entity ∧
      Source.findStruct source.toList = .ok block ∧
      methodsOf block.name source.toList = .ok methods ∧
      (store = (declared source packageName entity path block.name methods).addMethodNames methods ∨
        (declared source packageName entity path block.name methods).hasPublicConstructor = false ∧
        ∃ middle, (Source.readServices block.body.toList).foldlM
            (addService (Source.findImports source.toList))
            ((declared source packageName entity path block.name methods).addMethodNames methods) =
              .ok middle ∧
          addPublicMethods (Source.findImports source.toList)
            (methods.filter Source.Method.isPublic) middle = (store, .ok ())) := by
  cases mainEntity with
  | none => cases h
  | some entity =>
    have hread : read source packageName entity path = .ok store := by
      unfold ofSource at h
      cases hread : read source packageName entity path with
      | error error => simp [hread, Except.mapError] at h
      | ok found => simpa [hread, Except.mapError] using h
    simp only [read, Outcome.bind_eq_ok_iff, Error.ofSource_ok_iff] at hread
    obtain ⟨block, hblock, methods, hmethods, found, hfound, hrest⟩ := hread
    obtain rfl := eq_of_checked hfound
    refine ⟨entity, block, methods, rfl, hblock, hmethods, ?_⟩
    split_ifs at hrest with hskip
    · exact Or.inl (Except.ok.inj hrest).symm
    · obtain ⟨middle, hmiddle, hrest⟩ := Outcome.bind_eq_ok_iff.mp hrest
      rcases hadd : addPublicMethods (Source.findImports source.toList)
        (methods.filter Source.Method.isPublic) middle with ⟨last, error | done⟩ <;>
        rw [hadd] at hrest <;> cases hrest
      rw [Bool.or_eq_true, not_or, Bool.not_eq_true, Bool.not_eq_true] at hskip
      obtain ⟨names, heq⟩ := addMethodNames_eq
        (declared source packageName entity path block.name methods) methods
      exact Or.inr ⟨(congrArg hasPublicConstructor heq).symm.trans hskip.2, middle, hmiddle, hadd⟩

/-- The names that a new store records are those of the methods that its source declares. -/
theorem ofSource_names {source packageName : String} {mainEntity : Option Entity}
    {path : Option String} (h : ofSource source packageName mainEntity path = .ok store) :
    ∀ name, name ∈ store.methodNames ↔ Declares store.structName name source := by
  obtain ⟨entity, block, methods, -, -, hmethods, hstore⟩ := ofSource_ok h
  have hstart : ∀ name, name ∈ ((declared source packageName entity path block.name
      methods).addMethodNames methods).methodNames ↔ Declares block.name name source := by
    intro name
    rw [mem_methodNames_addMethodNames, exists_methodsOf_iff hmethods]
    exact or_iff_right List.not_mem_nil
  rcases hstore with rfl | ⟨-, middle, hmiddle, hadd⟩
  · rw [structName_addMethodNames]
    exact hstart
  · obtain ⟨hnames, hstruct⟩ := foldlM_addService_names hmiddle
    rw [structName_addMethodNames] at hstruct
    have hknown : ∀ method ∈ methods.filter Source.Method.isPublic,
        method.name ∈ middle.methodNames := by
      intro method hmethod
      rw [hnames]
      exact mem_methodNames_addMethodNames.mpr
        (Or.inr ⟨method, (List.mem_filter.mp hmethod).1, rfl⟩)
    obtain ⟨hnames', hstruct'⟩ := @addPublicMethods_names middle
      (Source.findImports source.toList) _ hknown
    rw [hadd] at hnames' hstruct'
    intro name
    rw [hnames', hnames, hstruct', hstruct]
    exact hstart name

end Store

end Scaffold
