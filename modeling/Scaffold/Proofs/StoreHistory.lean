import Mathlib.Data.List.Infix
import Mathlib.Logic.Relation
import Scaffold.Proofs.StoreImports

/-!
# How a store is built

A store is read from one file, takes up the methods of further files, and is given the imports of
generated code. Each of these steps is a chain of small changes, which is all that an invariant of
stores has to be checked against. What a store has collected stays: lists only grow at their ends,
hold nothing twice, and aliases belong to imports.
-/

namespace Scaffold.Store

open Relation

variable {config : Config} {sources : List String} {store later last : Store} {source : String}

/-- A small change to a store that is built from sources: a name is recorded, or something is added.
That is a service, the signature of a method that is not known yet, an import of one of the sources,
or one that generated code needs. -/
inductive Change (config : Config) (sources : List String) : Store → Store → Prop
  | name {store : Store} (name : String) : Change config sources store (store.addMethodName name)
  | service {store : Store} {service : Service} {body : Chars} :
      service ∈ Source.readServices body →
      Change config sources store { store with services := store.services ++ [service] }
  | method {store : Store} {signature : Signature} {source : String} {methods : List Source.Method}
      {method : Source.Method} : Source.findMethods source.toList = .ok methods →
      method ∈ methods →
      Signature.ofText method.name method.params method.results = .ok signature →
      (∀ known ∈ store.methods, known.name ≠ method.name) →
      Change config sources store (store.addMethod signature)
  | taken {store : Store} {item : Import} {source : String} : source ∈ sources →
      item ∈ Source.findImports source.toList →
      Change config sources store (store.addImport item.path item.normal.localName)
  | fixed {store : Store} {path : String} :
      path ∈ [config.errorsImport, config.databaseImport, config.sqlImport] →
      Change config sources store (store.addImport path "")

/-- A chain of small changes. -/
def Changes (config : Config) (sources : List String) : Store → Store → Prop :=
  ReflTransGen (Change config sources)

/-- What every small change keeps, a chain keeps. -/
theorem Changes.keeps {holds : Store → Prop} (h : Changes config sources store later)
    (hstep : ∀ {store later}, Change config sources store later → holds store → holds later)
    (hstart : holds store) : holds later := by
  induction h with
  | refl => exact hstart
  | tail _ hchange ih => exact hstep hchange ih

/-- Changes from sources are changes from more sources. -/
theorem Changes.mono {more : List String} (h : Changes config sources store later)
    (hmore : sources ⊆ more) : Changes config more store later := by
  refine ReflTransGen.mono ?_ _ _ h
  intro _ _ hchange
  cases hchange with
  | name name => exact .name name
  | service hservice => exact .service hservice
  | method hmethods hmethod hsignature hfresh => exact .method hmethods hmethod hsignature hfresh
  | taken hsource hitem => exact .taken (hmore hsource) hitem
  | fixed hpath => exact .fixed hpath

/-! ## Steps as chains -/

/-- A loop changes a store as its steps do. -/
theorem changes_foldl {α : Type} {step : Store → α → Store} {items : List α}
    (h : ∀ store, ∀ item ∈ items, Changes config sources store (step store item)) (store : Store) :
    Changes config sources store (items.foldl step store) := by
  induction items generalizing store with
  | nil => exact .refl
  | cons item rest ih =>
    obtain ⟨hitem, hrest⟩ := List.forall_mem_cons.mp fun item hitem store => h store item hitem
    exact (hitem store).trans (ih (fun store item hitem => hrest item hitem store) _)

theorem changes_addMethodNames (store : Store) (methods : List Source.Method) :
    Changes config sources store (store.addMethodNames methods) :=
  changes_foldl (fun _ method _ => .single (.name method.name)) store

/-- Resolving qualifiers takes up found imports one by one. -/
theorem changes_resolveImports (hsource : source ∈ sources) (store : Store)
    (qualifiers : List String) :
    Changes config sources store
      (store.resolveImports (Source.findImports source.toList) qualifiers) := by
  refine changes_foldl (fun store qualifier _ => ?_) store
  unfold resolveImport
  split
  · exact .refl
  · next item hitem => exact .single (.taken hsource (List.mem_of_find?_eq_some hitem))

/-- Public methods are added one by one. -/
theorem changes_addPublicMethods (hsource : source ∈ sources)
    {found methods : List Source.Method} (hfound : Source.findMethods source.toList = .ok found)
    (hmethods : methods ⊆ found) (store : Store) :
    Changes config sources store
      (addPublicMethods (Source.findImports source.toList) methods store).1 := by
  induction methods generalizing store with
  | nil => exact .refl
  | cons method rest ih =>
    obtain ⟨hmethod, hrest⟩ := List.cons_subset.mp hmethods
    rw [addPublicMethods]
    split_ifs with hknown
    · exact ih hrest store
    · split
      · exact .refl
      · next signature hsignature =>
        have hfresh : ∀ known ∈ store.methods, known.name ≠ method.name := by
          simpa using hknown
        have hadd : Changes config sources store (store.addMethod signature) :=
          .single (.method hfound hmethod hsignature hfresh)
        exact (hadd.trans (changes_resolveImports hsource _ _)).trans (ih hrest _)

/-- Services are added one by one. -/
theorem changes_foldlM_addService (hsource : source ∈ sources) {body : Chars}
    {services : List Service} (hservices : services ⊆ Source.readServices body)
    (h : services.foldlM (addService (Source.findImports source.toList)) store = .ok later) :
    Changes config sources store later := by
  induction services generalizing store with
  | nil =>
    obtain rfl := Except.ok.inj h
    exact .refl
  | cons service rest ih =>
    obtain ⟨hservice, hrest⟩ := List.cons_subset.mp hservices
    obtain ⟨middle, hmiddle, hlater⟩ := Outcome.bind_eq_ok_iff.mp h
    obtain rfl := addService_ok hmiddle
    have hadd : Changes config sources store
        { store with services := store.services ++ [service] } := .single (.service hservice)
    exact (hadd.trans (changes_resolveImports hsource _ _)).trans (ih hrest hlater)

theorem findMethods_of_methodsOf {structName source : String} {methods : List Source.Method}
    (h : methodsOf structName source.toList = .ok methods) :
    ∃ found, Source.findMethods source.toList = .ok found ∧ methods ⊆ found := by
  simp only [methodsOf, Outcome.bind_eq_ok_iff, Error.ofSource_ok_iff] at h
  obtain ⟨found, hfound, hmethods⟩ := h
  obtain rfl := Except.ok.inj hmethods
  exact ⟨found, hfound, List.filter_subset_self _⟩

/-- Taking up a file is a chain of changes, also where it ends in a fault. -/
theorem changes_harvest (hsource : source ∈ sources) (store : Store)
    (collectPublic : Bool) (path : Option String) :
    Changes config sources store (store.harvest source collectPublic path).1 := by
  unfold harvest
  simp only
  split
  · exact .refl
  · next methods hmethods =>
    obtain ⟨found, hfound, hsubset⟩ := findMethods_of_methodsOf hmethods
    have hnames := @changes_addMethodNames config sources store methods
    split_ifs
    · exact hnames
    · exact hnames.trans (changes_addPublicMethods hsource hfound
        (fun method hmethod => hsubset (List.mem_filter.mp hmethod).1) _)

/-- Finishing a store is a series of changes. -/
theorem changes_finalize (config : Config) (sources : List String) (store : Store) :
    Changes config sources store (store.finalize config) := by
  rw [finalize_eq]
  refine changes_foldl (fun store path hpath => .single (.fixed ?_)) store
  rcases List.mem_append.mp hpath with hpath | hpath
  · split_ifs at hpath
    · cases hpath
    · exact hpath
  · split_ifs at hpath
    · exact List.mem_cons.mpr (Or.inl (List.mem_singleton.mp hpath))
    · cases hpath

/-- A store that is read from its file is its declaration with a chain of changes. -/
theorem changes_ofSource {source packageName : String} {entity : Entity} {path : Option String}
    (h : ofSource source packageName (some entity) path = .ok store) :
    ∃ block methods, Source.findStruct source.toList = .ok block ∧
      methodsOf block.name source.toList = .ok methods ∧
      Changes config [source] (declared source packageName entity path block.name methods)
        store := by
  obtain ⟨known, block, methods, hknown, hblock, hmethods, hstore⟩ := ofSource_ok h
  obtain rfl := Option.some.inj hknown
  obtain ⟨found, hfound, hsubset⟩ := findMethods_of_methodsOf hmethods
  refine ⟨block, methods, hblock, hmethods, ?_⟩
  have hnames := @changes_addMethodNames config [source]
    (declared source packageName entity path block.name methods) methods
  rcases hstore with rfl | ⟨-, middle, hmiddle, hadd⟩
  · exact hnames
  · have hservices := @changes_foldlM_addService config [source] _ _ source
      (List.mem_singleton_self source) _ _ (fun _ h => h) hmiddle
    have hpublic := @changes_addPublicMethods config [source] source (List.mem_singleton_self _)
      found (methods.filter Source.Method.isPublic) hfound
      (fun method hmethod => hsubset (List.mem_filter.mp hmethod).1) middle
    rw [hadd] at hpublic
    exact (hnames.trans hservices).trans hpublic

/-! ## Histories -/

/-- The stores that come about when one is read from its file, takes up further files, and is given
the imports of generated code, with the sources in the order in which they were read. -/
inductive Built (config : Config) (packageName : String) (entity : Entity) :
    List String → Store → Prop
  | declared {source : String} {path : Option String} {store : Store} :
      ofSource source packageName (some entity) path = .ok store →
      Built config packageName entity [source] store
  | harvested {sources : List String} {store later : Store} {source : String}
      {collectPublic : Bool} {path : Option String} {count : Nat} :
      Built config packageName entity sources store →
      store.harvest source collectPublic path = (later, .ok count) →
      Built config packageName entity (sources ++ [source]) later
  | finalized {sources : List String} {store : Store} :
      Built config packageName entity sources store →
      Built config packageName entity sources (store.finalize config)

/-- A store that was built is a declaration with a chain of changes. -/
theorem Built.changes {packageName : String} {entity : Entity}
    (h : Built config packageName entity sources store) :
    ∃ source block path methods, Source.findStruct source.toList = .ok block ∧
      Changes config sources (Store.declared source packageName entity path block.name methods)
        store := by
  induction h with
  | @declared source path store hok =>
    obtain ⟨block, methods, hblock, -, hchanges⟩ := @changes_ofSource config store _ _ _ _ hok
    exact ⟨source, block, path, methods, hblock, hchanges⟩
  | @harvested sources store later more collectPublic path count _ hharvest ih =>
    obtain ⟨source, block, path', methods, hblock, hchanges⟩ := ih
    have hmore := @changes_harvest config (sources ++ [more]) more (by simp) store collectPublic
      path
    rw [hharvest] at hmore
    exact ⟨source, block, path', methods, hblock, (hchanges.mono (by simp)).trans hmore⟩
  | @finalized sources store _ ih =>
    obtain ⟨source, block, path, methods, hblock, hchanges⟩ := ih
    exact ⟨source, block, path, methods, hblock,
      hchanges.trans (changes_finalize config sources store)⟩

/-! ## What a store keeps -/

/-- Nothing is held twice, every method is recorded by its name, and each alias is a name that code
can use for an import of the store. -/
structure IsSound (store : Store) : Prop where
  imports : store.imports.Nodup
  methodNames : store.methodNames.Nodup
  methods : (store.methods.map Signature.name).Nodup
  /-- Every method is recorded by its name. -/
  recorded : ∀ method ∈ store.methods, method.name ∈ store.methodNames
  /-- Aliases are those of imports. -/
  imported : ∀ entry ∈ store.importAliases, entry.1 ∈ store.imports
  /-- Code can use an alias. -/
  usable : ∀ entry ∈ store.importAliases, entry.2 ∉ ["", ".", "_"]

/-- The later store has what the earlier one had, in its place, and perhaps more after it. -/
structure Extends (store later : Store) : Prop where
  imports : store.imports <+: later.imports
  methods : store.methods <+: later.methods
  methodNames : store.methodNames <+: later.methodNames
  importAliases : store.importAliases <+: later.importAliases
  /-- An import keeps its alias, or has none as before. -/
  aliasOf : ∀ path ∈ store.imports, later.aliasOf path = store.aliasOf path

theorem Extends.refl (store : Store) : Extends store store :=
  ⟨List.prefix_rfl, List.prefix_rfl, List.prefix_rfl, List.prefix_rfl, fun _ _ => rfl⟩

theorem Extends.trans (h : Extends store later) (h' : Extends later last) : Extends store last :=
  ⟨h.imports.trans h'.imports, h.methods.trans h'.methods, h.methodNames.trans h'.methodNames,
    h.importAliases.trans h'.importAliases,
    fun path hpath => (h'.aliasOf path (h.imports.subset hpath)).trans (h.aliasOf path hpath)⟩

theorem nodup_concat {α : Type} {items : List α} {item : α} (h : items.Nodup)
    (hnew : item ∉ items) : (items ++ [item]).Nodup :=
  List.nodup_append'.mpr ⟨h, List.nodup_singleton _, List.disjoint_singleton.mpr hnew⟩

/-- The alias of a path that has none goes to the end. -/
theorem setAlias_of_new {path name : String} {aliases : List (String × String)}
    (h : ∀ entry ∈ aliases, entry.1 ≠ path) :
    setAlias path name aliases = aliases ++ [(path, name)] := by
  induction aliases with
  | nil => rfl
  | cons entry rest ih =>
    obtain ⟨hentry, hrest⟩ := List.forall_mem_cons.mp h
    rw [setAlias, if_neg (by simpa using hentry), ih hrest]
    rfl

/-- A new import goes to the end, and so does its alias. -/
theorem IsSound.addImport (h : IsSound store) {path name : String}
    (hname : name = "" ∨ Import.renames name = true) :
    IsSound (store.addImport path name) ∧ Extends store (store.addImport path name) := by
  by_cases hknown : path ∈ store.imports
  · rw [Store.addImport, if_pos (List.contains_iff_mem.mpr hknown)]
    exact ⟨h, .refl store⟩
  · have hnew : ∀ entry ∈ store.importAliases, entry.1 ≠ path := by
      rintro entry hentry rfl
      exact hknown (h.imported entry hentry)
    obtain ⟨more, hmore, heq⟩ : ∃ more : List (String × String),
        (∀ entry ∈ more, entry.1 = path ∧ entry.2 ∉ ["", ".", "_"]) ∧
        store.addImport path name = { store with
          imports := store.imports ++ [path], importAliases := store.importAliases ++ more } := by
      rw [Store.addImport, if_neg (mt List.contains_iff_mem.mp hknown), setAlias_of_new hnew]
      split_ifs with hempty
      · exact ⟨[], by simp, by rw [List.append_nil]⟩
      · refine ⟨[(path, name)], ?_, rfl⟩
        have hrenames := hname.resolve_left (by simpa using hempty)
        simpa [Import.renames, and_assoc] using hrenames
    rw [heq]
    refine ⟨⟨nodup_concat h.imports hknown, h.methodNames, h.methods, h.recorded, ?_, ?_⟩,
      ⟨List.prefix_append _ _, List.prefix_rfl, List.prefix_rfl, List.prefix_append _ _, ?_⟩⟩
    · intro entry hentry
      rcases List.mem_append.mp hentry with hentry | hentry
      · exact List.mem_append_left _ (h.imported entry hentry)
      · exact List.mem_append_right _ (List.mem_singleton.mpr (hmore entry hentry).1)
    · intro entry hentry
      rcases List.mem_append.mp hentry with hentry | hentry
      · exact h.usable entry hentry
      · exact (hmore entry hentry).2
    · intro other hother
      have hnone : more.lookup other = none := by
        rw [List.lookup_eq_none_iff]
        intro entry hentry
        rw [(hmore entry hentry).1]
        simpa using fun hsame : other = path => hknown (hsame ▸ hother)
      simp only [Store.aliasOf, List.lookup_append, hnone, Option.or_none]

/-- A name of a method keeps a store sound and extends it. -/
theorem IsSound.addMethodName (h : IsSound store) (name : String) :
    IsSound (store.addMethodName name) ∧ Extends store (store.addMethodName name) := by
  by_cases hknown : name ∈ store.methodNames
  · rw [addMethodName_of_mem hknown]
    exact ⟨h, .refl store⟩
  · rw [Store.addMethodName, if_neg (mt List.contains_iff_mem.mp hknown)]
    exact ⟨⟨h.imports, nodup_concat h.methodNames hknown, h.methods,
        fun method hmethod => List.mem_append_left _ (h.recorded method hmethod), h.imported,
        h.usable⟩,
      ⟨List.prefix_rfl, List.prefix_rfl, List.prefix_append _ _, List.prefix_rfl, fun _ _ => rfl⟩⟩

/-- A method of a new name keeps a store sound and extends it. -/
theorem IsSound.addMethod (h : IsSound store) {signature : Signature}
    (hfresh : ∀ known ∈ store.methods, known.name ≠ signature.name) :
    IsSound (store.addMethod signature) ∧ Extends store (store.addMethod signature) := by
  obtain ⟨hsound, hextends⟩ := h.addMethodName signature.name
  have heq : store.addMethod signature =
      { store.addMethodName signature.name with methods := store.methods ++ [signature] } := by
    unfold Store.addMethod Store.addMethodName
    split_ifs <;> rfl
  have hnew : signature.name ∉ store.methods.map Signature.name := by
    simpa using hfresh
  rw [heq]
  refine ⟨⟨hsound.imports, hsound.methodNames, ?_, ?_, hsound.imported, hsound.usable⟩,
    ⟨hextends.imports, List.prefix_append _ _, hextends.methodNames,
      hextends.importAliases, hextends.aliasOf⟩⟩
  · rw [List.map_append]
    exact nodup_concat h.methods hnew
  · intro method hmethod
    rcases List.mem_append.mp hmethod with hmethod | hmethod
    · exact hextends.methodNames.subset (h.recorded method hmethod)
    · rw [List.mem_singleton.mp hmethod]
      exact mem_methodNames_addMethodName.mpr (Or.inr rfl)

/-- A small change keeps a store sound and extends it. -/
theorem IsSound.change (h : IsSound store) (hchange : Change config sources store later) :
    IsSound later ∧ Extends store later := by
  cases hchange with
  | name name => exact h.addMethodName name
  | service _ =>
    exact ⟨⟨h.imports, h.methodNames, h.methods, h.recorded, h.imported, h.usable⟩,
      ⟨List.prefix_rfl, List.prefix_rfl, List.prefix_rfl, List.prefix_rfl, fun _ _ => rfl⟩⟩
  | method _ _ hsignature hfresh =>
    rw [← (Signature.ofText_ok_iff.mp hsignature).1] at hfresh
    exact h.addMethod hfresh
  | @taken item _ _ _ =>
    refine h.addImport ?_
    unfold Import.normal
    split_ifs with hrenames
    · exact Or.inr hrenames
    · exact Or.inl rfl
  | fixed _ => exact h.addImport (Or.inl rfl)

/-- Changes keep a store sound and extend it. -/
theorem IsSound.changes (h : IsSound store) (hchanges : Changes config sources store later) :
    IsSound later ∧ Extends store later := by
  induction hchanges with
  | refl => exact ⟨h, .refl store⟩
  | tail _ hchange ih =>
    obtain ⟨hsound, hextends⟩ := ih.1.change hchange
    exact ⟨hsound, ih.2.trans hextends⟩

theorem isSound_declared (source packageName : String) (entity : Entity) (path : Option String)
    (structName : String) (methods : List Source.Method) :
    IsSound (declared source packageName entity path structName methods) :=
  ⟨List.nodup_nil, List.nodup_nil, List.nodup_nil, List.forall_mem_nil _, List.forall_mem_nil _,
    List.forall_mem_nil _⟩

/-- A store is sound however it was built, and taking up one more file or the imports of generated
code extends it. -/
theorem built_sound_and_extended {packageName : String} {entity : Entity}
    (h : Built config packageName entity sources store) :
    IsSound store ∧
      (∀ source collectPublic path later count,
        store.harvest source collectPublic path = (later, .ok count) → Extends store later) ∧
      Extends store (store.finalize config) := by
  obtain ⟨source, block, path, methods, -, hchanges⟩ := h.changes
  have hsound := ((isSound_declared source packageName entity path block.name methods).changes
    hchanges).1
  refine ⟨hsound, fun source collectPublic path later count hharvest => ?_,
    (hsound.changes (changes_finalize config sources store)).2⟩
  have hmore := @changes_harvest config [source] source (List.mem_singleton_self _) store
    collectPublic path
  rw [hharvest] at hmore
  exact (hsound.changes hmore).2

/-- A source with a service and a method of one renamed import, and an import for its effects. -/
def bookSource : String :=
  "import (\n\tdb \"example.com/database\"\n\t_ \"example.com/driver\"\n)\n" ++
    "type Books struct \x7b\n\tpool *db.Pool\n\x7d\n" ++
    "func (b *Books) Find(id string) db.Row \x7b\n\x7d\n"

/-- A further source, which declares one of the methods again. -/
def furtherSource : String :=
  "import _ \"example.com/driver\"\nfunc (b *Books) Find() \x7b\n\x7d\n" ++
    "func (b *Books) Drop(item driver.Item) \x7b\n\x7d\n"

/-- The store of these sources, with the methods and the paths that were taken up. -/
def bookStore (methods : List Signature) (paths : List String) : Store :=
  { structName := "Books"
    packageName := "books"
    methods
    methodNames := methods.map Signature.name
    services := [⟨"pool", "*db.Pool"⟩]
    imports := "example.com/database" :: paths
    importAliases := [("example.com/database", "db")]
    mainEntity := some { name := "Book", packageName := "books" } }

theorem built_sound_and_extended_sample :
    let find : Signature := ⟨"Find", [⟨"id", "string"⟩], [⟨"", "db.Row"⟩]⟩
    let drop : Signature := ⟨"Drop", [⟨"item", "driver.Item"⟩], []⟩
    let store := bookStore [find, drop] ["example.com/driver"]
    Built {} "books" { name := "Book", packageName := "books" } [bookSource, furtherSource] store ∧
      IsSound store ∧ Extends store (store.finalize {}) := by
  intro find drop store
  have hdeclared : ofSource bookSource "books" (some { name := "Book", packageName := "books" })
      none = .ok (bookStore [find] []) := by decide +kernel
  have hharvest : (bookStore [find] []).harvest furtherSource true none = (store, .ok 2) := by
    decide +kernel
  have hbuilt : Built {} "books" { name := "Book", packageName := "books" }
      [bookSource, furtherSource] store := .harvested (.declared hdeclared) hharvest
  obtain ⟨hsound, -, hextends⟩ := built_sound_and_extended hbuilt
  exact ⟨hbuilt, hsound, hextends⟩

end Scaffold.Store
