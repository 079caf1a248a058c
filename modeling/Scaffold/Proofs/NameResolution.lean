import Scaffold.Proofs.StoreFile
import Scaffold.Proofs.StoreImports

/-!
# Names in a store's file

The types of services and the signatures of methods reach other packages by the imports of the files
they were written in. The store's file has to import the same packages under the same names. It
does so as far as the first import of each path decides.
-/

namespace Scaffold

namespace Source

/-- The name of a method is a word, and its lists are texts with one space between words. -/
theorem of_findMethods {source : Chars} {methods : List Method}
    (h : findMethods source = .ok methods) : ∀ method ∈ methods,
      IsWord method.name.toList ∧
      (∃ list, method.params.toList = Text.collapse list) ∧
      ∃ clause, method.results.toList = Text.collapse clause := by
  intro method hmethod
  obtain ⟨start, hstart, hread⟩ := Outcome.exists_of_mapM h method hmethod
  obtain ⟨_, _, _, -, hline⟩ := mem_matchesFrom hstart
  rw [onLineStart] at hline
  split_ifs at hline
  simp only [methodStart?, Option.bind_eq_bind, Option.bind_eq_some_iff] at hline
  obtain ⟨_, -, _, -, _, -, _, -, _, -, _, -, ⟨name, _⟩, hname, hline⟩ := hline
  split_ifs at hline
  obtain ⟨rfl, -⟩ := Prod.mk.inj (Option.some.inj hline)
  simp only [readMethod, Outcome.bind_eq_ok_iff] at hread
  obtain ⟨list, -, clause, -, hread⟩ := hread
  obtain rfl := Except.ok.inj hread
  refine ⟨?_, ⟨list.1.drop 1, String.toList_ofList⟩, clause, String.toList_ofList⟩
  rw [String.toList_ofList]
  exact (of_word? hname).2

theorem not_mem_dot_of_methodsOf {structName source : String} {methods : List Method}
    (h : Store.methodsOf structName source.toList = .ok methods) :
    ∀ method ∈ methods, '.' ∉ method.name.toList := by
  simp only [Store.methodsOf, Outcome.bind_eq_ok_iff, Error.ofSource_ok_iff] at h
  obtain ⟨found, hfound, hmethods⟩ := h
  obtain rfl := Except.ok.inj hmethods
  intro method hmethod
  exact not_mem_dot_of_isWord (of_findMethods hfound method (List.mem_filter.mp hmethod).1).1.2

end Source

namespace Store

/-- What a store's file writes with names of other packages. -/
inductive Item where
  | service (declared : Service)
  | method (signature : Signature)

namespace Item

/-- The text of an item in the store's file. -/
def text : Item → String
  | .service declared => declared.type
  | .method signature => signature.render

/-- The qualifiers that are looked up for an item. -/
def qualifiers : Item → List String
  | .service declared => [declared.qualifier]
  | .method signature => Source.findQualifiers signature.render.toList

/-- The store has the item. -/
def IsPart (store : Store) : Item → Prop
  | .service declared => declared ∈ store.services
  | .method signature => signature ∈ store.methods

/-- The store's file has the section that the item is written in: the constructor or the
interface. -/
def isEmitted (config : Config) (store : Store) : Item → Bool
  | .service _ => !(store.hasPrivateConstructor || store.hasPublicConstructor)
  | .method _ => !store.clashesWithInterface config

end Item

/-- The items of a store, each with the imports of its source file, in the order in which they were
collected. -/
inductive Collected : Store → List (Item × List Import) → Prop
  | declared {source packageName : String} {mainEntity : Option Entity} {path : Option String}
      {store : Store} : ofSource source packageName mainEntity path = .ok store →
      Collected store ((store.services.map Item.service ++ store.methods.map Item.method).map
        fun item => (item, Source.findImports source.toList))
  | harvested {store later : Store} {items : List (Item × List Import)} {source : String}
      {path : Option String} {count : Nat} : Collected store items →
      store.harvest source true path = (later, .ok count) →
      Collected later (items ++ (later.methods.drop store.methods.length).map
        fun signature => (Item.method signature, Source.findImports source.toList))

/-- The imports that items are resolved to, in order. -/
def candidates (items : List (Item × List Import)) : List Import :=
  items.flatMap fun (item, imports) => Import.resolved imports item.qualifiers

/-- The store has its entity and the items, and has taken up the imports that they are resolved
to. -/
structure Holds (store : Store) (items : List (Item × List Import)) : Prop where
  entity : store.mainEntity.isSome = true
  part : ∀ pair ∈ items, pair.1.IsPart store
  seen : ∀ pair ∈ items, ∀ qualifier ∈ Source.findQualifiers pair.1.text.toList,
    qualifier ∈ pair.1.qualifiers
  takesUp : store.TakesUp (candidates items)

variable {store later : Store} {items : List (Item × List Import)} {imports : List Import}
  {qualifier : String} {item : Item}

theorem candidates_append (first second : List (Item × List Import)) :
    candidates (first ++ second) = candidates first ++ candidates second :=
  List.flatMap_append

/-- A store without imports holds no items. -/
theorem holds_nil (hentity : store.mainEntity.isSome = true) (himports : store.imports = [])
    (haliases : store.importAliases = []) : Holds store [] :=
  ⟨hentity, by simp, by simp, by simp [haliases], by simp [himports], by simp [candidates],
    by rw [importList, himports]; rfl⟩

/-- The recorded names are no part of what a store holds. -/
theorem Holds.withNames (h : Holds store items) (names : List String) :
    Holds { store with methodNames := names } items := by
  refine ⟨h.entity, fun pair hpair => ?_, h.seen, h.takesUp.congr rfl rfl⟩
  have hpart := h.part pair hpair
  cases hitem : pair.1 <;> simpa [hitem, Item.IsPart] using hpart

/-- One more item brings the imports that it is resolved to. -/
theorem Holds.add (h : Holds store items) (hentity : later.mainEntity = store.mainEntity)
    (hkept : ∀ other : Item, other.IsPart store → other.IsPart later)
    (himports : later.imports = store.imports)
    (haliases : later.importAliases = store.importAliases) (hitem : item.IsPart later)
    (hseen : ∀ qualifier ∈ Source.findQualifiers item.text.toList,
      qualifier ∈ item.qualifiers) (imports : List Import) :
    Holds (later.resolveImports imports item.qualifiers) (items ++ [(item, imports)]) := by
  have hcore := sameCore_resolveImports later imports item.qualifiers
  have hpart : ∀ other : Item, other.IsPart later →
      other.IsPart (later.resolveImports imports item.qualifiers) := by
    intro other hother
    cases other <;> simpa [Item.IsPart, hcore.services, hcore.methods] using hother
  refine ⟨?_, ?_, ?_, ?_⟩
  · rw [hcore.mainEntity, hentity]
    exact h.entity
  · rw [List.forall_mem_append, List.forall_mem_singleton]
    exact ⟨fun pair hpair => hpart _ (hkept _ (h.part pair hpair)), hpart item hitem⟩
  · rw [List.forall_mem_append, List.forall_mem_singleton]
    exact ⟨h.seen, hseen⟩
  · rw [resolveImports_eq, candidates_append]
    simpa [candidates] using
      (h.takesUp.congr himports haliases).addImports (Import.resolved imports item.qualifiers)

theorem holds_of_foldlM_addService {services : List Service} (h : Holds store items)
    (hservices : ∀ service ∈ services, ∀ qualifier ∈ Source.findQualifiers service.type.toList,
      qualifier = service.qualifier)
    (hok : services.foldlM (addService imports) store = .ok later) :
    Holds later (items ++ services.map fun service => (Item.service service, imports)) ∧
      later.services = store.services ++ services ∧ later.methods = store.methods := by
  induction services generalizing store items with
  | nil =>
    obtain rfl := Except.ok.inj hok
    simpa using h
  | cons service rest ih =>
    rw [List.forall_mem_cons] at hservices
    obtain ⟨middle, hmiddle, hrest⟩ := Outcome.bind_eq_ok_iff.mp hok
    obtain rfl := addService_ok hmiddle
    have hadd := @Holds.add store { store with services := store.services ++ [service] } items
      (.service service) h rfl (fun other hother => by cases other <;> simp_all [Item.IsPart]) rfl
      rfl (by simp [Item.IsPart]) (by simpa [Item.text, Item.qualifiers] using hservices.1) imports
    obtain ⟨hholds, hsame, hmethods⟩ := ih hadd hservices.2 hrest
    have hcore := sameCore_resolveImports { store with services := store.services ++ [service] }
      imports (Item.service service).qualifiers
    rw [hcore.services, List.append_assoc] at hsame
    rw [hcore.methods] at hmethods
    rw [List.append_assoc] at hholds
    exact ⟨hholds, hsame, hmethods⟩

/-- Added methods bring the imports of their qualifiers, which their written lines share. -/
theorem holds_of_addPublicMethods {methods : List Source.Method} (h : Holds store items)
    (hnames : ∀ method ∈ methods, '.' ∉ method.name.toList)
    (hok : addPublicMethods imports methods store = (later, .ok ())) :
    ∃ added, later.methods = store.methods ++ added ∧ later.services = store.services ∧
      Holds later (items ++ added.map fun signature => (Item.method signature, imports)) := by
  induction methods generalizing store items with
  | nil =>
    obtain ⟨rfl, -⟩ := Prod.mk.inj hok
    exact ⟨[], by simp, rfl, by simpa using h⟩
  | cons method rest ih =>
    rw [List.forall_mem_cons] at hnames
    rw [addPublicMethods] at hok
    split_ifs at hok
    · exact ih h hnames.2 hok
    · split at hok
      · cases hok
      · next signature hsignature =>
        simp only at hok
        rw [← Signature.findQualifiers_ofText hsignature hnames.1] at hok
        obtain ⟨names, hadded⟩ : ∃ names, store.addMethod signature =
            { store with methods := store.methods ++ [signature], methodNames := names } := by
          unfold addMethod addMethodName
          split_ifs <;> exact ⟨_, rfl⟩
        have hadd := @Holds.add store (store.addMethod signature) items (.method signature) h
          (by rw [hadded]) (fun other hother => by cases other <;> simp_all [Item.IsPart])
          (by rw [hadded]) (by rw [hadded]) (by simp [Item.IsPart, hadded])
          (fun _ hqualifier => hqualifier) imports
        obtain ⟨added, hmethods, hservices, hholds⟩ := ih hadd hnames.2 hok
        have hcore := sameCore_resolveImports (store.addMethod signature) imports
          (Item.method signature).qualifiers
        rw [hcore.methods, hadded, List.append_assoc] at hmethods
        rw [hcore.services, hadded] at hservices
        rw [List.append_assoc] at hholds
        exact ⟨signature :: added, hmethods, hservices, hholds⟩

/-- Collecting items takes up the imports that they are resolved to. With a constructor written by
hand nothing is collected. -/
theorem Collected.holds (h : Collected store items) : Holds store items := by
  induction h with
  | @declared source packageName mainEntity path store hok =>
    obtain ⟨entity, block, methods, -, -, hmethods, hstore⟩ := ofSource_ok hok
    obtain ⟨names, hnames⟩ := addMethodNames_eq
      (Store.declared source packageName entity path block.name methods) methods
    rw [hnames] at hstore
    rcases hstore with rfl | ⟨-, middle, hmiddle, hadd⟩
    · exact holds_nil rfl rfl rfl
    · obtain ⟨hholds, hservices, hempty⟩ := holds_of_foldlM_addService (holds_nil rfl rfl rfl)
        (fun service hservice qualifier hqualifier =>
          Source.eq_qualifier_of_mem_readServices hservice
            (Source.mem_findQualifiers.mp hqualifier)) hmiddle
      obtain ⟨added, hadded, hsame, hstore⟩ := holds_of_addPublicMethods hholds
        (fun method hmethod => Source.not_mem_dot_of_methodsOf hmethods method
          (List.mem_filter.mp hmethod).1) hadd
      rw [hempty] at hadded
      rw [hservices] at hsame
      simpa [hadded, hsame, Store.declared, Function.comp_def] using hstore
  | @harvested store later items source path count _ hharvest ih =>
    unfold harvest at hharvest
    simp only at hharvest
    split at hharvest
    · cases hharvest
    next methods hmethods =>
      obtain ⟨names, hnames⟩ := addMethodNames_eq store methods
      simp only [Bool.not_true, Bool.false_eq_true, if_false, hnames] at hharvest
      rcases hadd : addPublicMethods (Source.findImports source.toList)
        (methods.filter Source.Method.isPublic) { store with methodNames := names } with
        ⟨last, error | done⟩ <;> rw [hadd] at hharvest
      · cases hharvest
      · obtain ⟨rfl, -⟩ := Prod.mk.inj hharvest
        obtain ⟨added, hadded, -, hlater⟩ := holds_of_addPublicMethods (ih.withNames names)
          (fun method hmethod => Source.not_mem_dot_of_methodsOf hmethods method
            (List.mem_filter.mp hmethod).1) hadd
        rw [hadded, List.drop_left]
        exact hlater

/-- The imports that a store is given: those that its items are resolved to, then those that
generated code needs. -/
def given (config : Config) (store : Store) (items : List (Item × List Import)) : List Import :=
  candidates items ++ (store.fixedImports config).map fun path => ⟨path, ""⟩

/-- A finished store holds the first import of each path that it was given. -/
theorem Holds.finalize (h : Holds store items) (config : Config) :
    TakesUp (store.finalize config) (given config store items) := by
  rw [finalize_eq_addImports]
  exact h.takesUp.addImports _

theorem mem_candidates {entry : Import}
    (hitem : (item, imports) ∈ items) (hqualifier : qualifier ∈ item.qualifiers)
    (hentry : imports.find? (fun entry => entry.qualifier == qualifier) = some entry) :
    entry.normal ∈ candidates items := by
  refine List.mem_flatMap.mpr ⟨(item, imports), hitem, List.mem_filterMap.mpr ?_⟩
  exact ⟨qualifier, hqualifier, by rw [hentry]; rfl⟩

/-- Where the section of an item is written, the file uses the qualifiers of the item. -/
theorem Item.exists_decl {config : Config}
    (hpart : item.IsPart store) (hemitted : item.isEmitted config store = true)
    (hqualifier : qualifier ∈ Source.findQualifiers item.text.toList) (entity : Entity) :
    ∃ decl ∈ store.decls config entity, qualifier ∈ Source.qualifiersIn decl.render.toList := by
  rw [Source.mem_findQualifiers] at hqualifier
  cases item with
  | service declared =>
    exact exists_decl_of_service hpart ((Bool.not_eq_true' _).mp hemitted) hqualifier
  | method signature =>
    exact exists_decl_of_method hpart ((Bool.not_eq_true' _).mp hemitted) hqualifier

/-- No import is left out of the file whose qualifier a declaration uses. -/
theorem exists_file {config : Config} {entity : Entity} (hentity : store.mainEntity = some entity) :
    ∃ file, store.file config = .ok file ∧ ∀ qualifier,
      (∃ decl ∈ store.decls config entity, qualifier ∈ Source.qualifiersIn decl.render.toList) →
        (file.imports.filter fun item => item.qualifier == qualifier) =
          store.importList.filter fun item => item.qualifier == qualifier := by
  rw [file, hentity]
  refine ⟨_, rfl, fun qualifier hused => ?_⟩
  rw [← List.mem_flatMap, ← Go.qualifiersIn_renderDecls ⟨config.generatorName, store.packageName,
    [], store.decls config entity⟩, ← Source.mem_findQualifiers] at hused
  rw [referencedImports, importList, List.filter_map, List.filter_map, List.filter_filter]
  refine congrArg (List.map store.importOf) (List.filter_congr fun path _ => ?_)
  rw [Function.comp_apply, Bool.and_eq_left_iff_imp, beq_iff_eq]
  rintro rfl
  exact List.contains_iff_mem.mpr hused

/-- Under a qualifier that an item is written with, the file imports what the store was given. -/
theorem Holds.exists_file {config : Config}
    (h : Holds store items) (hitem : (item, imports) ∈ items)
    (hqualifier : qualifier ∈ Source.findQualifiers item.text.toList)
    (hemitted : item.isEmitted config store = true) :
    ∃ file, (store.finalize config).file config = .ok file ∧
      (file.imports.filter fun entry => entry.qualifier == qualifier) =
        (Import.firsts (given config store items)).filter fun entry =>
          entry.qualifier == qualifier := by
  obtain ⟨entity, hentity⟩ := Option.isSome_iff_exists.mp h.entity
  have hused := Item.exists_decl (h.part _ hitem) hemitted hqualifier entity
  rw [← (h.finalize config).eq]
  obtain ⟨paths, aliases, hsame⟩ := sameCore_finalize config store
  rw [hsame]
  obtain ⟨file, hfile, himports⟩ := @Store.exists_file (store.withImports paths aliases) config
    entity hentity
  exact ⟨file, hfile, himports qualifier hused⟩

/-- The store's file keeps the resolution of a name just when, of the first imports of each path
that the store was given, the one of the path that the name is resolved to and no other is reached
by it. -/
theorem resolution_kept_iff (config : Config) (h : Collected store items) {item : Item}
    (hitem : (item, imports) ∈ items) {qualifier : String}
    (hqualifier : qualifier ∈ Source.findQualifiers item.text.toList) {entry : Import}
    (hentry : imports.find? (fun entry => entry.qualifier == qualifier) = some entry)
    (hemitted : item.isEmitted config store = true) :
    ∃ file, (store.finalize config).file config = .ok file ∧
      (store.finalize config).render config = .ok file.render ∧
      (file.imports ≠ [] → Go.HasImports file.render file.imports) ∧
      ((file.imports.filter fun entry => entry.qualifier == qualifier).map Import.path =
          [entry.path] ↔
        ∀ kept ∈ Import.firsts (given config store items),
          (kept.path = entry.path ↔ kept.qualifier = qualifier)) := by
  have hholds := h.holds
  have htakes := hholds.finalize config
  have hpath : entry.path ∈ (store.finalize config).imports := htakes.complete entry.normal
    (List.mem_append_left _ (mem_candidates hitem (hholds.seen _ hitem _ hqualifier) hentry))
  obtain ⟨file, hfile, himports⟩ := hholds.exists_file hitem hqualifier hemitted
  refine ⟨file, hfile, by rw [render, hfile]; rfl, Go.hasImports_render, ?_⟩
  rw [himports, ← htakes.eq]
  refine Import.map_path_filter_eq_singleton_iff ?_ ?_ <;> rw [map_path_importList]
  · exact htakes.nodup
  · exact hpath

/-! ## A store with a service of another package -/

def pooledSource : String :=
  "import p1 \"example.com/pool\"\ntype S struct \x7b\n\tdb *p1.Pool\n\x7d\n"

/-- The store of that source with a method of a further file, and further imports. -/
def pooledStore (methods : List Signature) (paths : List String) : Store :=
  { structName := "S"
    packageName := "a"
    methods
    methodNames := methods.map Signature.name
    services := [⟨"db", "*p1.Pool"⟩]
    imports := "example.com/pool" :: paths
    importAliases := [("example.com/pool", "p1")]
    mainEntity := some { name := "A", packageName := "a" } }

/-- A further file that declares a method with one parameter. -/
def methodSource (path name type : String) : String :=
  "import " ++ path ++ "\nfunc (s *S) " ++ name ++ "(value " ++ type ++ ") \x7b\n\x7d\n"

/-- What was collected for such a store, where one method came from a further file. -/
def pooledItems (method : Signature) (further : String) : List (Item × List Import) :=
  [(.service ⟨"db", "*p1.Pool"⟩, Source.findImports pooledSource.toList),
    (.method method, Source.findImports further.toList)]

private theorem collected_pooledItems {further : String} {method : Signature} {paths : List String}
    (h : (pooledStore [] []).harvest further true none = (pooledStore [method] paths, .ok 1)) :
    Collected (pooledStore [method] paths) (pooledItems method further) :=
  have hdeclared : ofSource pooledSource "a" (some { name := "A", packageName := "a" }) none =
      .ok (pooledStore [] []) := by decide +kernel
  .harvested (.declared hdeclared) h

/-- A further file that imports the package under the same name reaches it in the store's file. -/
theorem resolution_kept_iff_sample :
    ∃ file, ((pooledStore [⟨"Open", [⟨"value", "p1.Pool"⟩], []⟩] []).finalize {}).file {} =
        .ok file ∧
      (file.imports.filter fun entry => entry.qualifier == "p1").map Import.path =
        ["example.com/pool"] := by
  have hcollected := @collected_pooledItems
    (methodSource "p1 \"example.com/pool\"" "Open" "p1.Pool")
    ⟨"Open", [⟨"value", "p1.Pool"⟩], []⟩ [] (by decide +kernel)
  obtain ⟨file, hfile, -, -, hiff⟩ := @resolution_kept_iff _ _ _ {} hcollected _
    (List.mem_cons_of_mem _ (List.mem_singleton_self _)) "p1" (by decide +kernel)
    ⟨"example.com/pool", "p1"⟩ (by decide +kernel) (by decide +kernel)
  exact ⟨file, hfile, hiff.mpr (by decide +kernel)⟩

/-- The file of a store does not keep the resolution of a name: it imports other paths under it. -/
def Loses (store : Store) (item : Item) (imports : List Import) (qualifier path : String)
    (found : List String) : Prop :=
  ∃ items entry file, Collected store items ∧ (item, imports) ∈ items ∧
    qualifier ∈ Source.findQualifiers item.text.toList ∧
    imports.find? (fun entry => entry.qualifier == qualifier) = some entry ∧ entry.path = path ∧
    item.isEmitted {} store = true ∧ (store.finalize {}).file {} = .ok file ∧
    (file.imports.filter fun entry => entry.qualifier == qualifier).map Import.path = found ∧
    found ≠ [path]

private theorem loses_of_harvest {further qualifier : String} {method : Signature}
    {paths found : List String} {entry : Import}
    (h : (pooledStore [] []).harvest further true none = (pooledStore [method] paths, .ok 1))
    (hqualifier : qualifier ∈ Source.findQualifiers method.render.toList)
    (hentry : (Source.findImports further.toList).find?
      (fun entry => entry.qualifier == qualifier) = some entry)
    (hfound : ((Import.firsts (given {} (pooledStore [method] paths)
      (pooledItems method further))).filter fun entry => entry.qualifier == qualifier).map
        Import.path = found) (hne : found ≠ [entry.path]) :
    Loses (pooledStore [method] paths) (.method method) (Source.findImports further.toList)
      qualifier entry.path found := by
  have hcollected := collected_pooledItems h
  have hitem : (.method method, Source.findImports further.toList) ∈ pooledItems method further :=
    List.mem_cons_of_mem _ (List.mem_singleton_self _)
  obtain ⟨file, hfile, himports⟩ := @Holds.exists_file _ _ _ _ _ {} hcollected.holds hitem
    hqualifier rfl
  rw [← himports] at hfound
  exact ⟨_, entry, file, hcollected, hitem, hqualifier, hentry, rfl, rfl, hfile, hfound, hne⟩

/-- Names are lost where two files name one package differently, and where a name reaches another
package in the code that is generated. -/
theorem resolution_lost :
    Loses (pooledStore [⟨"Open", [⟨"value", "pool.Pool"⟩], []⟩] [])
        (.method ⟨"Open", [⟨"value", "pool.Pool"⟩], []⟩)
        (Source.findImports (methodSource "\"example.com/pool\"" "Open" "pool.Pool").toList)
        "pool" "example.com/pool" [] ∧
      Loses (pooledStore [⟨"Fail", [⟨"value", "errors.Kind"⟩], []⟩] ["errors"])
        (.method ⟨"Fail", [⟨"value", "errors.Kind"⟩], []⟩)
        (Source.findImports (methodSource "\"errors\"" "Fail" "errors.Kind").toList)
        "errors" "errors" ["errors", "github.com/juju/errors"] :=
  ⟨@loses_of_harvest (methodSource "\"example.com/pool\"" "Open" "pool.Pool") "pool"
      ⟨"Open", [⟨"value", "pool.Pool"⟩], []⟩ [] [] ⟨"example.com/pool", ""⟩ (by decide +kernel)
      (by decide +kernel) (by decide +kernel) (by decide +kernel) (by decide),
    @loses_of_harvest (methodSource "\"errors\"" "Fail" "errors.Kind") "errors"
      ⟨"Fail", [⟨"value", "errors.Kind"⟩], []⟩ ["errors"] ["errors", "github.com/juju/errors"]
      ⟨"errors", ""⟩ (by decide +kernel) (by decide +kernel) (by decide +kernel)
      (by decide +kernel) (by decide)⟩

end Store

end Scaffold
