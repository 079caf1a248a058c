import Scaffold.Proofs.EmittedImports
import Scaffold.Proofs.FetchDetection

/-!
# The hook that prepares queries

Whether a store has the method `buildQueries`, and which constructors it has, is read from the
store's own file; no later step looks again. So the generated constructor prepares queries exactly
if that one file declares the hook. A hook in a further file is recorded among the method names of
the store, and yet nothing calls it.
-/

namespace Scaffold

namespace Store

variable {config : Config} {sources : List String} {store later : Store} {entity : Entity}
  {packageName source : String}

/-! ## What the first source decides -/

/-- The entity, the constructors and the hook of the store are those of a source. -/
structure Follows (source : String) (entity : Entity) (store : Store) : Prop where
  mainEntity : store.mainEntity = some entity
  hasPrivateConstructor :
    store.hasPrivateConstructor = Source.hasFunction "new".toList source.toList
  hasPublicConstructor :
    store.hasPublicConstructor = Source.hasFunction "New".toList source.toList
  hasBuildQueries :
    store.hasBuildQueries = true ↔ Declares store.structName "buildQueries" source

theorem Follows.addMethodName (h : Follows source entity store) (name : String) :
    Follows source entity (store.addMethodName name) := by
  obtain ⟨names, heq⟩ := addMethodName_eq store name
  rw [heq]
  exact ⟨h.mainEntity, h.hasPrivateConstructor, h.hasPublicConstructor, h.hasBuildQueries⟩

theorem Follows.of_sameCore (h : Follows source entity store) (hsame : SameCore store later) :
    Follows source entity later := by
  obtain ⟨paths, aliases, rfl⟩ := hsame
  exact ⟨h.mainEntity, h.hasPrivateConstructor, h.hasPublicConstructor, h.hasBuildQueries⟩

/-- No small change touches what was read first. -/
theorem Follows.change (h : Follows source entity store)
    (hchange : Change config sources store later) : Follows source entity later := by
  cases hchange with
  | name name => exact h.addMethodName name
  | service _ =>
    exact ⟨h.mainEntity, h.hasPrivateConstructor, h.hasPublicConstructor, h.hasBuildQueries⟩
  | @method signature _ _ _ _ _ _ _ =>
    have hadded : Follows source entity { store with methods := store.methods ++ [signature] } :=
      ⟨h.mainEntity, h.hasPrivateConstructor, h.hasPublicConstructor, h.hasBuildQueries⟩
    exact hadded.addMethodName signature.name
  | taken _ _ => exact h.of_sameCore (sameCore_addImport store _ _)
  | fixed _ => exact h.of_sameCore (sameCore_addImport store _ _)

theorem follows_declared {path : Option String} {structName : String}
    {methods : List Source.Method} (h : methodsOf structName source.toList = .ok methods) :
    Follows source entity (declared source packageName entity path structName methods) := by
  refine ⟨rfl, rfl, rfl, ?_⟩
  have hhook := @exists_methodsOf_iff "buildQueries" _ _ _ h
  simpa [declared] using hhook

/-- A store that was built follows the first of its sources. -/
theorem Built.follows (h : Built config packageName entity sources store) :
    ∃ source more, sources = source :: more ∧ Follows source entity store := by
  induction h with
  | @declared source path store hok =>
    obtain ⟨block, methods, -, hmethods, hchanges⟩ := @changes_ofSource config store _ _ _ _ hok
    exact ⟨source, [], rfl,
      hchanges.keeps (fun hchange h => h.change hchange) (follows_declared hmethods)⟩
  | @harvested sources store later added collectPublic path count _ hharvest ih =>
    obtain ⟨source, more, rfl, hfollows⟩ := ih
    have hchanges := @changes_harvest config [added] added (List.mem_singleton_self _) store
      collectPublic path
    rw [hharvest] at hchanges
    exact ⟨source, more ++ [added], rfl,
      hchanges.keeps (fun hchange h => h.change hchange) hfollows⟩
  | @finalized sources store _ ih =>
    obtain ⟨source, more, hsources, hfollows⟩ := ih
    exact ⟨source, more, hsources, hfollows.of_sameCore (sameCore_finalize config store)⟩

/-! ## The constructor -/

/-- The constructor prepares queries exactly if the store has the hook. -/
theorem IsLined.calls_buildQueries_iff (h : IsLined store) :
    store.constructor.calls "buildQueries" = true ↔ store.hasBuildQueries = true := by
  refine ⟨h.hasBuildQueries_of_calls, fun hhook => ?_⟩
  refine List.any_eq_true.mpr ⟨Go.opening ("if err := " ++ store.variableName ++
    ".buildQueries(); err != nil"), by simp [constructor, hhook, Go.block], ?_⟩
  rw [Text.contains, Text.occursIn_iff]
  exact ⟨("if err := " ++ store.variableName).toList, "); err != nil \x7b".toList,
    by simp [Go.opening]⟩

/-- The functions of a store's file, in order. -/
theorem funcs_of_decls {file : Go.File} (h : file.decls = store.decls config entity) :
    file.funcs =
      (if store.hasPrivateConstructor || store.hasPublicConstructor then []
        else [store.constructor]) ++
      if store.hasFetch then [] else [store.fetchFunc config entity] := by
  rw [Go.File.funcs, h, decls, interfaceDecls]
  split_ifs <;> rfl

/-- The one function `New` of a store's file is the generated constructor. -/
theorem filter_new_funcs {file : Go.File} (hdecls : file.decls = store.decls config entity)
    (hprivate : store.hasPrivateConstructor = false)
    (hpublic : store.hasPublicConstructor = false) :
    (file.funcs.filter fun func => func.receiver.isNone && func.signature.name == "New") =
      [store.constructor] := by
  rw [funcs_of_decls hdecls, hprivate, hpublic]
  cases store.hasFetch <;> simp [constructor, fetchFunc]

end Store

namespace Aggregation

open Action

variable {config : Config} {directory : Path} {package : Package} {importPath : String}
  {text : Path → Except Error String} {state later : Store × List Entity}

/-- Taking up files one after the other goes on building the store. -/
theorem foldlM_takeUpText_built {packageName : String} {entity : Entity} {files : List Path}
    {sources : List String} (hbuilt : Store.Built config packageName entity sources state.1)
    (h : files.foldlM (fun state file => do
      takeUpText config packageName importPath file state (← text file)) state = .ok later) :
    ∃ more, Store.Built config packageName entity (sources ++ more) later.1 := by
  induction files generalizing state sources with
  | nil =>
    obtain rfl := Except.ok.inj h
    exact ⟨[], by rwa [List.append_nil]⟩
  | cons file rest ih =>
    obtain ⟨middle, hmiddle, hrest⟩ := Outcome.bind_eq_ok_iff.mp h
    obtain ⟨source, -, htake⟩ := Outcome.bind_eq_ok_iff.mp hmiddle
    obtain ⟨_, _, hharvest⟩ := harvest_of_takeUpText htake
    obtain ⟨more, hlater⟩ := ih (hbuilt.harvested hharvest) hrest
    exact ⟨source :: more, by simpa using hlater⟩

/-- The store of a package is built from its own file first. -/
theorem packageFrom_built {files : List Path}
    (h : packageFrom config directory importPath files text = .ok package) :
    ∃ store storeFile entityFile entity source more, package.store = some store ∧
      canonicalFiles config directory files = .ok (storeFile, entityFile) ∧
      text storeFile = .ok source ∧
      Store.Built config directory.name entity (source :: more) store := by
  obtain ⟨storeFile, entityFile, _, main, source, _, _, _, hcanonical, -, -, hsource, hdeclared,
    hfold, rfl, -⟩ := packageFrom_ok h
  obtain ⟨more, hbuilt⟩ := foldlM_takeUpText_built (.declared hdeclared) hfold
  exact ⟨_, storeFile, entityFile, main, source, more, rfl, hcanonical, hsource, hbuilt.finalized⟩

/-- Where the store's file has no constructor, the package's generated one calls `buildQueries`
exactly if the store's file declares it. -/
theorem new_calls_hook_iff {dryRun : Bool} {root : Path} {workspace last : Workspace}
    (h : (aggregate config dryRun directory root).on workspace = (.ok package, last)) :
    ∃ store sources storeFile entityFile source, package.store = some store ∧
      sourceFiles config last.disk directory = .ok sources ∧
      canonicalFiles config directory (sources.filter fun file => !isGenerated config file) =
        .ok (storeFile, entityFile) ∧
      textOn last.disk storeFile = .ok source ∧
      (Source.hasFunction "new".toList source.toList = false →
        Source.hasFunction "New".toList source.toList = false →
        ∃ file func, store.file config = .ok file ∧
          (file.funcs.filter fun func => func.receiver.isNone && func.signature.name == "New") =
            [func] ∧
          (func.calls "buildQueries" = true ↔
            Store.Declares store.structName "buildQueries" source)) := by
  obtain ⟨sources, importPath, hsources, hpackage⟩ := packageFrom_of_aggregate h
  obtain ⟨store, storeFile, entityFile, entity, source, more, hstore, hcanonical, hsource,
    hbuilt⟩ := packageFrom_built hpackage
  obtain ⟨first, others, hfirst, hfollows⟩ := hbuilt.follows
  obtain ⟨rfl, -⟩ := List.cons.inj hfirst
  refine ⟨store, sources, storeFile, entityFile, source, hstore, hsources, hcanonical, hsource,
    fun hprivate hpublic => ?_⟩
  obtain ⟨file, hfile, -, -, hdecls, -⟩ := Store.exists_file_parts config hfollows.mainEntity
  refine ⟨file, store.constructor, hfile, Store.filter_new_funcs hdecls
    (hfollows.hasPrivateConstructor.trans hprivate)
    (hfollows.hasPublicConstructor.trans hpublic), ?_⟩
  rw [hbuilt.isLined.calls_buildQueries_iff, hfollows.hasBuildQueries]

def hookSource : String :=
  "func (s *S) buildQueries() error \x7b\n\treturn nil\n\x7d\n"

/-- The hook in the store's file is called. -/
theorem new_calls_hook_iff_sample :
    ∃ package store last file func,
      (aggregate Run.sampleConfig false (.absolute ["stores", "a"]) (.absolute ["stores"])).runOn
        (storeDisk Run.entitySource "" (Run.storeSource ++ hookSource)) = (.ok package, last) ∧
      package.store = some store ∧ store.file Run.sampleConfig = .ok file ∧
      (file.funcs.filter fun func => func.receiver.isNone && func.signature.name == "New") =
        [func] ∧
      func.calls "buildQueries" = true := by
  obtain ⟨package, last, hon, hdisk, hview⟩ := @exists_aggregate_storeDisk _
    (fun package => package.store.map Store.structName) (some "S") Run.entitySource ""
    (Run.storeSource ++ hookSource) (by decide) (by decide +kernel)
  obtain ⟨store, hstore, hstruct⟩ := Option.map_eq_some_iff.mp hview
  obtain ⟨store', sources, storeFile, entityFile, source, hstore', hsources, hcanonical, hsource,
    hnew⟩ := new_calls_hook_iff hon
  obtain rfl : store' = store := Option.some.inj (hstore'.symm.trans hstore)
  rw [hdisk, sourceFiles_storeDisk] at hsources
  obtain rfl := Except.ok.inj hsources
  have hfiles : canonicalFiles Run.sampleConfig (.absolute ["stores", "a"])
      (sampleFiles.filter fun file => !isGenerated Run.sampleConfig file) =
        .ok (.absolute ["stores", "a", "store.go"], .absolute ["stores", "a", "a.go"]) := by decide
  obtain ⟨rfl, rfl⟩ := Prod.mk.inj (Except.ok.inj (hcanonical.symm.trans hfiles))
  rw [hdisk, textOn_storeDisk (by decide) _ (by decide)] at hsource
  obtain rfl := Except.ok.inj hsource
  obtain ⟨file, func, hfile, hfunc, hcalls⟩ := hnew (by decide) (by decide)
  refine ⟨package, store', last, file, func, hon, hstore, hfile, hfunc, hcalls.mpr ?_⟩
  rw [hstruct]
  refine ⟨[⟨"s", "S", "buildQueries", "", "error", "func (s *S) buildQueries() error"⟩], ?_,
    by decide⟩
  decide

/-- The hook in a further file is not called, though the file is listed and is neither generated nor
a test. -/
theorem hook_in_further_file_ignored :
    ∃ package store last file func,
      (aggregate Run.sampleConfig false (.absolute ["stores", "a"]) (.absolute ["stores"])).runOn
        (storeDisk Run.entitySource hookSource Run.storeSource) = (.ok package, last) ∧
      package.store = some store ∧
      textOn last.disk (.absolute ["stores", "a", "store.go"]) = .ok Run.storeSource ∧
      Source.hasFunction "new".toList Run.storeSource.toList = false ∧
      Source.hasFunction "New".toList Run.storeSource.toList = false ∧
      store.file Run.sampleConfig = .ok file ∧
      (file.funcs.filter fun func => func.receiver.isNone && func.signature.name == "New") =
        [func] ∧
      func.calls "buildQueries" = false ∧
      ∃ sources, sourceFiles Run.sampleConfig last.disk (.absolute ["stores", "a"]) =
          .ok sources ∧
        ∃ path ∈ sources, isGenerated Run.sampleConfig path = false ∧
          isTest Run.sampleConfig path = false ∧
          FileDeclares (textOn last.disk) store.structName "buildQueries" path := by
  obtain ⟨package, last, hon, hdisk, hview⟩ := @exists_aggregate_storeDisk _
    (fun package => package.store.map fun store => (store.structName,
      store.constructor.calls "buildQueries", store.hasPrivateConstructor,
      store.hasPublicConstructor, store.mainEntity.isSome))
    (some ("S", false, false, false, true)) Run.entitySource hookSource Run.storeSource
    (by decide) (by decide +kernel)
  obtain ⟨store, hstore, hview⟩ := Option.map_eq_some_iff.mp hview
  simp only [Prod.mk.injEq] at hview
  obtain ⟨hstruct, hcalls, hprivate, hpublic, hmain⟩ := hview
  obtain ⟨main, hmain⟩ := Option.isSome_iff_exists.mp hmain
  obtain ⟨file, hfile, -, -, hdecls, -⟩ := Store.exists_file_parts Run.sampleConfig hmain
  have htext := @textOn_storeDisk Run.entitySource hookSource Run.storeSource (by decide)
  rw [← hdisk] at htext
  refine ⟨package, store, last, file, store.constructor, hon, hstore, htext _ (by decide),
    by decide, by decide, hfile, Store.filter_new_funcs hdecls hprivate hpublic, hcalls,
    sampleFiles, ?_, .absolute ["stores", "a", "more.go"], by decide, by decide, by decide, ?_⟩
  · rw [hdisk]
    exact sourceFiles_storeDisk _ _ _
  · rw [fileDeclares_of_text (htext _ (by decide)), hstruct]
    refine ⟨[⟨"s", "S", "buildQueries", "", "error", "func (s *S) buildQueries() error"⟩], ?_,
      by decide⟩
    decide

end Aggregation

end Scaffold
