import Scaffold.Proofs.Idempotence
import Scaffold.Proofs.StoreSteps

/-!
# Detecting a fetch routine written by hand

A store knows a method by its name alone, and it learns the names from its own file and from every
other file that is taken up. The primary entity's file is not among those: a method of the store
that is declared there stays unknown, so that a routine of the same name is generated beside it.
-/

namespace Scaffold.Aggregation

open Action

variable {config : Config} {directory : Path} {package : Package} {importPath : String}
  {text : Path → Except Error String} {state later : Store × List Entity} {name : String}

/-- A file declares a method of a struct. -/
def FileDeclares (text : Path → Except Error String) (structName name : String)
    (file : Path) : Prop :=
  ∃ source, text file = .ok source ∧ Store.Declares structName name source

theorem fileDeclares_of_text {file : Path} {source structName : String}
    (h : text file = .ok source) :
    FileDeclares text structName name file ↔ Store.Declares structName name source := by
  simp [FileDeclares, h]

/-- A text that is taken up changes the store as its methods do. -/
theorem harvest_of_takeUpText {packageName source : String} {file : Path}
    (h : takeUpText config packageName importPath file state source = .ok later) :
    ∃ collectPublic count, state.1.harvest source collectPublic (some file.render) =
      (later.1, .ok count) := by
  simp only [takeUpText] at h
  rcases hharvest : state.1.harvest source (!Text.contains source config.entityMarker)
    (some file.render) with ⟨store, error | count⟩
  · rw [hharvest] at h
    cases h
  · have hstore : later.1 = store := by
      rw [hharvest] at h
      obtain ⟨_, -, hrest⟩ := Outcome.bind_eq_ok_iff.mp h
      split_ifs at hrest
      · obtain ⟨entity, -, hpure⟩ := Outcome.bind_eq_ok_iff.mp hrest
        exact congrArg Prod.fst (Except.ok.inj hpure).symm
      · exact congrArg Prod.fst (Except.ok.inj hrest).symm
    rw [hstore]
    exact ⟨_, count, hharvest⟩

theorem takeUpText_names {packageName source : String} {file : Path}
    (h : takeUpText config packageName importPath file state source = .ok later) :
    later.1.structName = state.1.structName ∧
      ∀ name, name ∈ later.1.methodNames ↔
        name ∈ state.1.methodNames ∨ Store.Declares state.1.structName name source := by
  obtain ⟨_, _, hharvest⟩ := harvest_of_takeUpText h
  exact Store.harvest_names hharvest

/-- Files that are taken up one after the other add the names that they declare. -/
theorem foldlM_takeUpText_names {packageName : String} {files : List Path}
    (h : files.foldlM (fun state file => do
      takeUpText config packageName importPath file state (← text file)) state = .ok later) :
    later.1.structName = state.1.structName ∧
      ∀ name, name ∈ later.1.methodNames ↔
        name ∈ state.1.methodNames ∨
          ∃ file ∈ files, FileDeclares text state.1.structName name file := by
  induction files generalizing state with
  | nil =>
    obtain rfl := Except.ok.inj h
    simp
  | cons file rest ih =>
    obtain ⟨middle, hmiddle, hrest⟩ := Outcome.bind_eq_ok_iff.mp h
    obtain ⟨source, hsource, htake⟩ := Outcome.bind_eq_ok_iff.mp hmiddle
    obtain ⟨hstruct, hnames⟩ := takeUpText_names htake
    obtain ⟨hstruct', hnames'⟩ := ih hrest
    refine ⟨hstruct'.trans hstruct, fun name => ?_⟩
    rw [hnames', hnames, hstruct, List.exists_mem_cons_iff, fileDeclares_of_text hsource, or_assoc]

/-- A package is made of what is read from its two canonical files and then from the others. -/
theorem packageFrom_ok {files : List Path}
    (h : packageFrom config directory importPath files text = .ok package) :
    ∃ storeFile entityFile entityText main storeText declared store entities,
      canonicalFiles config directory files = .ok (storeFile, entityFile) ∧
      text entityFile = .ok entityText ∧
      Entity.ofSource config entityText directory.name importPath (some entityFile.render) =
        .ok main ∧
      text storeFile = .ok storeText ∧
      Store.ofSource storeText directory.name (some main) (some storeFile.render) = .ok declared ∧
      (otherFiles config storeFile entityFile files).foldlM (fun state file => do
        takeUpText config directory.name importPath file state (← text file)) (declared, []) =
          .ok (store, entities) ∧
      package = ⟨directory.name, directory.render, importPath, some (store.finalize config),
        some main, entities⟩ ∧
      (package.check config).isValid = true := by
  simp only [packageFrom, Outcome.bind_eq_ok_iff] at h
  obtain ⟨⟨storeFile, entityFile⟩, hcanonical, entityText, hentityText, main, hmain, storeText,
    hstoreText, declared, hdeclared, ⟨store, entities⟩, hfold, found, hfound, hvalid⟩ := h
  split_ifs at hvalid with hcheck
  obtain rfl := Except.ok.inj hvalid
  exact ⟨storeFile, entityFile, entityText, main, storeText, declared, store, entities, hcanonical,
    hentityText, hmain, hstoreText, hdeclared, hfold, Package.eq_of_checked hfound, hcheck⟩

/-- The store of a package knows the methods that its own file and the further files declare. -/
theorem packageFrom_names {files : List Path}
    (h : packageFrom config directory importPath files text = .ok package) :
    ∃ store storeFile entityFile, package.store = some store ∧
      canonicalFiles config directory files = .ok (storeFile, entityFile) ∧
      ∀ name, name ∈ store.methodNames ↔
        FileDeclares text store.structName name storeFile ∨
          ∃ file ∈ otherFiles config storeFile entityFile files,
            FileDeclares text store.structName name file := by
  obtain ⟨storeFile, entityFile, _, _, _, _, store, _, hcanonical, -, -, hstoreText, hdeclared,
    hfold, rfl, -⟩ := packageFrom_ok h
  obtain ⟨hstruct, hnames⟩ := foldlM_takeUpText_names hfold
  have hfinal := Store.sameCore_finalize config store
  refine ⟨_, storeFile, entityFile, rfl, hcanonical, fun name => ?_⟩
  rw [hfinal.methodNames, hfinal.structName, hnames, hstruct, Store.ofSource_names hdeclared,
    fileDeclares_of_text hstoreText]

/-- A package that was read from a directory was made of the texts that the directory still
holds. -/
theorem packageFrom_of_aggregate {dryRun : Bool} {root : Path} {workspace last : Workspace}
    (h : (aggregate config dryRun directory root).on workspace = (.ok package, last)) :
    ∃ sources importPath, sourceFiles config last.disk directory = .ok sources ∧
      packageFrom config directory importPath
        (sources.filter fun file => !isGenerated config file) (textOn last.disk) =
          .ok package := by
  rw [aggregate, on_disk_bind] at h
  obtain ⟨importPath, -, h⟩ := on_ofExcept_bind_ok.mp h
  obtain ⟨_, cleaned, -, hassemble⟩ := on_bind_ok.mp h
  obtain ⟨houtcome, hdisk⟩ := @assemble_reads config directory importPath cleaned
  rw [hassemble] at houtcome hdisk
  obtain ⟨files, hfiles, hpackage⟩ := Outcome.bind_eq_ok_iff.mp houtcome.symm
  simp only at hdisk
  rw [← hdisk] at hfiles hpackage
  cases hsources : sourceFiles config last.disk directory with
  | error error => simp [handWritten, hsources, Except.map] at hfiles
  | ok sources =>
    obtain rfl : _ = files := by simpa [handWritten, hsources, Except.map] using hfiles
    exact ⟨sources, importPath, rfl, hpackage⟩

/-- The store's file does not hold tests. -/
theorem isTest_eq_false_of_name (hlayout : config.HasDefaultNames) {file : Path}
    (h : file.name = config.fileName config.storeFileName) : isTest config file = false := by
  have hname : file.name = "store.go" := by
    rw [h, Config.fileName, hlayout.storeFileName, hlayout.sourceExtension]
    rfl
  rw [isTest, Path.stem, hname, hlayout.testFileSuffix]
  decide

/-- The store of a package has a fetch routine exactly if a source file of the directory declares
one that is neither generated, nor a test, nor the primary entity's file. -/
theorem hasFetch_iff_declared (hlayout : config.HasDefaultNames) {dryRun : Bool} {root : Path}
    {workspace last : Workspace}
    (h : (aggregate config dryRun directory root).on workspace = (.ok package, last)) :
    ∃ store sources storeFile entityFile, package.store = some store ∧
      sourceFiles config last.disk directory = .ok sources ∧
      canonicalFiles config directory (sources.filter fun file => !isGenerated config file) =
        .ok (storeFile, entityFile) ∧
      (store.hasFetch = true ↔ ∃ file ∈ sources, isGenerated config file = false ∧
        isTest config file = false ∧ file ≠ entityFile ∧
        FileDeclares (textOn last.disk) store.structName "fetch" file) := by
  obtain ⟨sources, importPath, hsources, hpackage⟩ := packageFrom_of_aggregate h
  obtain ⟨store, storeFile, entityFile, hstore, hcanonical, hnames⟩ := packageFrom_names hpackage
  obtain ⟨hmem, -, hne, hname⟩ := canonicalFiles_ok hcanonical
  obtain ⟨hlisted, hhand⟩ := List.mem_filter.mp hmem
  have htest := isTest_eq_false_of_name hlayout hname
  refine ⟨store, sources, storeFile, entityFile, hstore, hsources, hcanonical, ?_⟩
  rw [Store.hasFetch, List.contains_iff_mem, hnames]
  constructor
  · rintro (hdeclares | ⟨file, hfile, hdeclares⟩)
    · exact ⟨storeFile, hlisted, by simpa using hhand, htest, hne, hdeclares⟩
    · simp only [otherFiles, List.mem_filter, Bool.and_eq_true, decide_eq_true_eq,
        Bool.not_eq_true'] at hfile
      obtain ⟨⟨hlisted, hhand⟩, ⟨-, hentity⟩, htest⟩ := hfile
      exact ⟨file, hlisted, hhand, htest, hentity, hdeclares⟩
  · rintro ⟨file, hfile, hhand, htest, hentity, hdeclares⟩
    by_cases hcase : file = storeFile
    · exact Or.inl (hcase ▸ hdeclares)
    · refine Or.inr ⟨file, ?_, hdeclares⟩
      simp [otherFiles, hfile, hhand, hcase, hentity, htest]

/-- Reading a directory without generated files. -/
theorem aggregate_of_packageFrom {disk : Disk} {root : Path} {sources : List Path}
    (himport : Discovery.importPath config disk directory root = .ok importPath)
    (hsources : sourceFiles config disk directory = .ok sources)
    (hhand : ∀ file ∈ sources, isGenerated config file = false)
    (hpackage : packageFrom config directory importPath sources (textOn disk) = .ok package) :
    ∃ last, (aggregate config false directory root).runOn disk = (.ok package, last) ∧
      last.disk = disk := by
  have hclean : (clean config false directory).on { disk } = (.ok [], { disk }) := by
    have hstale : sources.filter (isGenerated config) = [] := by
      simpa [List.filter_eq_nil_iff] using hhand
    rw [clean, on_disk_bind, on_ofExcept_bind_ok]
    exact ⟨sources, hsources, by rw [hstale]; rfl⟩
  have hall : (sources.filter fun file => !isGenerated config file) = sources := by
    simpa [List.filter_eq_self] using hhand
  obtain ⟨houtcome, hdisk⟩ := @assemble_reads config directory importPath { disk }
  simp only [handWritten, hsources] at houtcome
  change _ = packageFrom config directory importPath
    (sources.filter fun file => !isGenerated config file) (textOn disk) at houtcome
  rw [hall, hpackage] at houtcome
  refine ⟨_, ?_, hdisk⟩
  change (aggregate config false directory root).on { disk } = _
  rw [aggregate, on_disk_bind, on_ofExcept_bind_ok]
  refine ⟨importPath, himport, on_bind_ok.mpr ⟨(), _, on_bind_ok.mpr ⟨[], _, hclean, rfl⟩, ?_⟩⟩
  exact Prod.ext houtcome rfl

/-- The source files of a package, by their names. -/
def sampleSources (entity more store : String) : List (String × String) :=
  [("a.go", entity), ("more.go", more), ("store.go", store)]

def sampleFiles : List Path :=
  ["a.go", "more.go", "store.go"].map fun name => .absolute ["stores", "a", name]

/-- The texts of files by name. -/
def textIn (sources : List (String × String)) (file : Path) : Except Error String :=
  match sources.lookup file.name with
  | some text => .ok text
  | none => .error (.fault (.file .readSource .missing) (some file.render))

/-- A disk with one package. -/
def storeDisk (entity more store : String) : Disk :=
  { tree := ⟨[(["stores"], .plainDirectory), (["stores", "a"], .plainDirectory)] ++
      (sampleSources entity more store).map fun (name, text) =>
        (["stores", "a", name], .file text.toUTF8 0o644)⟩ }

theorem sourceFiles_storeDisk (entity more store : String) :
    sourceFiles Run.sampleConfig (storeDisk entity more store) (.absolute ["stores", "a"]) =
      .ok sampleFiles := by
  have hnames : (storeDisk entity more store).tree.names ["stores", "a"] =
      ["a.go", "more.go", "store.go"] := by
    have hsorted : ["a.go", "more.go", "store.go"].Pairwise fun a b => decide (a ≤ b) = true := by
      decide
    exact List.mergeSort_of_pairwise hsorted
  rw [Disk.sourceFiles_eq_filterM rfl rfl, Disk.names?, hnames]
  rfl

/-- Texts with plain line ends are read as they were put on the disk. -/
theorem textOn_storeDisk {entity more store : String}
    (hplain : ∀ text ∈ [entity, more, store], Text.unifyNewlines text.toList = text.toList) :
    ∀ file ∈ sampleFiles, textOn (storeDisk entity more store) file =
      textIn (sampleSources entity more store) file := by
  have hread : ∀ name text, (storeDisk entity more store).fileContent
      (.absolute ["stores", "a", name]) = .ok text.toUTF8 →
      Text.unifyNewlines text.toList = text.toList →
      textOn (storeDisk entity more store) (.absolute ["stores", "a", name]) = .ok text := by
    intro name text hcontent htext
    simp only [textOn, hcontent, Run.decode?_toUTF8 htext]
  simp only [List.forall_mem_cons] at hplain
  obtain ⟨hentity, hmore, hstore, -⟩ := hplain
  simp only [sampleFiles, List.map_cons, List.map_nil, List.forall_mem_cons]
  refine ⟨hread _ _ rfl hentity, hread _ _ rfl hmore, hread _ _ rfl hstore, ?_⟩
  exact List.forall_mem_nil _

/-- A package that the sources declare is what reading the directory gives. -/
theorem exists_aggregate_storeDisk {α : Type} {view : Package → α} {expected : α}
    {entity more store : String}
    (hplain : ∀ text ∈ [entity, more, store], Text.unifyNewlines text.toList = text.toList)
    (h : (packageFrom Run.sampleConfig (.absolute ["stores", "a"]) Run.sampleEntity.importPath
      sampleFiles (textIn (sampleSources entity more store))).toOption.map view = some expected) :
    ∃ package last,
      (aggregate Run.sampleConfig false (.absolute ["stores", "a"]) (.absolute ["stores"])).runOn
        (storeDisk entity more store) = (.ok package, last) ∧
      last.disk = storeDisk entity more store ∧ view package = expected := by
  have himport : Discovery.importPath Run.sampleConfig (storeDisk entity more store)
      (.absolute ["stores", "a"]) (.absolute ["stores"]) =
      .ok Run.sampleEntity.importPath := rfl
  rw [← packageFrom_congr (textOn_storeDisk hplain)] at h
  cases hpackage : packageFrom Run.sampleConfig (.absolute ["stores", "a"])
    Run.sampleEntity.importPath sampleFiles (textOn (storeDisk entity more store)) with
  | error error => simp [hpackage, Except.toOption] at h
  | ok package =>
    obtain ⟨last, hon, hdisk⟩ := aggregate_of_packageFrom himport
      (sourceFiles_storeDisk entity more store) (by decide) hpackage
    exact ⟨package, last, hon, hdisk, by simpa [hpackage, Except.toOption] using h⟩

def fetchSource : String := "func (s *S) fetch() \x7b\n\x7d\n"

/-- A fetch routine in a further file is known. -/
theorem hasFetch_iff_declared_sample :
    ∃ package store last,
      (aggregate Run.sampleConfig false (.absolute ["stores", "a"]) (.absolute ["stores"])).runOn
        (storeDisk Run.entitySource fetchSource Run.storeSource) = (.ok package, last) ∧
      package.store = some store ∧ store.hasFetch = true ∧
      ∃ sources storeFile entityFile,
        sourceFiles Run.sampleConfig last.disk (.absolute ["stores", "a"]) = .ok sources ∧
        canonicalFiles Run.sampleConfig (.absolute ["stores", "a"])
          (sources.filter fun file => !isGenerated Run.sampleConfig file) =
            .ok (storeFile, entityFile) ∧
        ∃ file ∈ sources, isGenerated Run.sampleConfig file = false ∧
          isTest Run.sampleConfig file = false ∧ file ≠ entityFile ∧
          FileDeclares (textOn last.disk) store.structName "fetch" file := by
  obtain ⟨package, last, hon, -, hview⟩ := @exists_aggregate_storeDisk _
    (fun package => package.store.map Store.hasFetch) (some true) Run.entitySource fetchSource
    Run.storeSource (by decide) (by decide +kernel)
  obtain ⟨store, hstore, hfetch⟩ := Option.map_eq_some_iff.mp hview
  obtain ⟨store', sources, storeFile, entityFile, hstore', hsources, hcanonical, hiff⟩ :=
    @hasFetch_iff_declared Run.sampleConfig _ _ ⟨rfl, rfl, rfl, rfl, rfl, rfl⟩ _ _ _ _ hon
  obtain rfl : store' = store := Option.some.inj (hstore'.symm.trans hstore)
  exact ⟨package, store', last, hon, hstore, hfetch, sources, storeFile, entityFile, hsources,
    hcanonical, hiff.mp hfetch⟩

/-- A fetch routine in the primary entity's file stays unknown, though the file is listed and is
neither generated nor a test. -/
theorem fetch_in_entity_file_unknown :
    ∃ package store last,
      (aggregate Run.sampleConfig false (.absolute ["stores", "a"]) (.absolute ["stores"])).runOn
        (storeDisk (Run.entitySource ++ fetchSource) "" Run.storeSource) = (.ok package, last) ∧
      package.store = some store ∧ store.hasFetch = false ∧
      ∃ sources, sourceFiles Run.sampleConfig last.disk (.absolute ["stores", "a"]) =
          .ok sources ∧
        ∃ file ∈ sources, isGenerated Run.sampleConfig file = false ∧
          isTest Run.sampleConfig file = false ∧
          FileDeclares (textOn last.disk) store.structName "fetch" file := by
  obtain ⟨package, last, hon, hdisk, hview⟩ := @exists_aggregate_storeDisk _
    (fun package => package.store.map fun store => (store.structName, store.hasFetch))
    (some ("S", false)) (Run.entitySource ++ fetchSource) "" Run.storeSource (by decide)
    (by decide +kernel)
  obtain ⟨store, hstore, hview⟩ := Option.map_eq_some_iff.mp hview
  obtain ⟨hstruct, hfetch⟩ := Prod.mk.inj hview
  refine ⟨package, store, last, hon, hstore, hfetch, sampleFiles, ?_,
    .absolute ["stores", "a", "a.go"], by decide, by decide, by decide, ?_⟩
  · rw [hdisk]
    exact sourceFiles_storeDisk _ _ _
  · have htext : textOn last.disk (.absolute ["stores", "a", "a.go"]) =
        .ok (Run.entitySource ++ fetchSource) := by
      rw [hdisk]
      exact textOn_storeDisk (by decide) _ (by decide)
    rw [fileDeclares_of_text htext, hstruct]
    refine ⟨[⟨"s", "S", "fetch", "", "", "func (s *S) fetch()"⟩], ?_, by decide⟩
    decide

end Scaffold.Aggregation
