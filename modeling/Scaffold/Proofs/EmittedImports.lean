import Scaffold.Proofs.GeneratedNames
import Scaffold.Proofs.StoreLines

/-!
# The imports of a store's file

A store is given imports of its sources and those that generated code needs; its file keeps the ones
that its declarations use. Read back from the text, they are each of another path and all in use,
and what the generated routines call is among them.
-/

namespace Scaffold

namespace Source

variable {text name rest source : Chars} {item : Import}

/-! ## Imports of sources -/

/-- An import that is found has a path in quotes, and a dot or an identifier for a local name where
it has one. -/
theorem of_importSpec? (h : importSpec? text = some (item, rest)) :
    item.path ≠ "" ∧ '"' ∉ item.path.toList ∧
      (item.localName = "" ∨ item.localName = "." ∨
        isIdentifier item.localName.toList = true) := by
  simp only [importSpec?, Option.bind_eq_bind, Option.bind_eq_some_iff] at h
  obtain ⟨⟨path, after⟩, hquoted, hitem⟩ := h
  obtain ⟨rfl, -⟩ := Prod.mk.inj (Option.some.inj hitem)
  have hpath : path ≠ [] ∧ '"' ∉ path := by
    simp only [quotedText?, Option.bind_eq_bind, Option.bind_eq_some_iff] at hquoted
    obtain ⟨inside, -, _, -, hfound⟩ := hquoted
    split_ifs at hfound with hempty
    obtain ⟨rfl, -⟩ := Prod.mk.inj (Option.some.inj hfound)
    refine ⟨by simpa using hempty, fun hmem => ?_⟩
    simpa using List.mem_takeWhile_imp hmem
  refine ⟨by simpa using hpath.1, by simpa using hpath.2, ?_⟩
  cases hlocal : localName? text with
  | none => exact Or.inl rfl
  | some found =>
    refine Or.inr ?_
    unfold localName? at hlocal
    split at hlocal <;> simp only [Option.bind_eq_bind, Option.bind_eq_some_iff] at hlocal
    · obtain ⟨_, hdot, _, -, hfound⟩ := hlocal
      obtain rfl := Option.some.inj hdot
      obtain rfl := Option.some.inj hfound
      exact Or.inl rfl
    · obtain ⟨_, hname, _, -, hfound⟩ := hlocal
      obtain rfl := Option.some.inj hfound
      exact Or.inr (by simpa using (of_identifier? hname).2)

theorem exists_of_mem_findImports (h : item ∈ findImports source) :
    ∃ text rest, importSpec? text = some (item, rest) := by
  rcases List.mem_append.mp h with hitem | hitem
  · obtain ⟨body, -, hitem⟩ := List.mem_flatMap.mp hitem
    obtain ⟨_, _, _, -, hline⟩ := mem_matchesFrom hitem
    rw [onLineStart] at hline
    split_ifs at hline
    exact ⟨_, _, hline⟩
  · obtain ⟨_, _, _, -, hline⟩ := mem_matchesFrom hitem
    rw [onLineStart] at hline
    split_ifs at hline
    simp only [singleImport?, Option.bind_eq_bind, Option.bind_eq_some_iff] at hline
    obtain ⟨_, -, _, -, hspec⟩ := hline
    exact ⟨_, _, hspec⟩

/-- An import that is found can be written without a local name that code cannot use. -/
theorem isWritable_normal (h : item ∈ findImports source) (hline : '\n' ∉ item.path.toList) :
    IsWritable item.normal := by
  obtain ⟨text, rest, hspec⟩ := exists_of_mem_findImports h
  obtain ⟨hne, hquote, hname⟩ := of_importSpec? hspec
  refine ⟨hne, hquote, hline, ?_⟩
  unfold Import.normal
  split_ifs with hrenames
  · exact hname
  · exact Or.inl rfl

end Source

theorem Import.firsts_subset (found : List Import) : firsts found ⊆ found := by
  induction found using List.reverseRecOn with
  | nil => exact List.Subset.refl _
  | append_singleton items item ih =>
    rw [firsts, eraseDupsBy_concat, ← firsts]
    split_ifs
    · exact fun other hother => List.mem_append_left _ (ih hother)
    · exact List.append_subset.mpr ⟨fun other hother => List.mem_append_left _ (ih hother),
        List.subset_append_right _ _⟩

namespace Go

/-- The function calls a method of that name. -/
def Func.calls (func : Func) (method : String) : Bool :=
  func.body.any fun line => Text.contains line ("." ++ method ++ "(")

theorem mem_funcs {file : File} {func : Func} : func ∈ file.funcs ↔ .func func ∈ file.decls := by
  simp only [File.funcs, List.mem_filterMap]
  constructor
  · rintro ⟨decl, hdecl, hfunc⟩
    cases decl <;> cases hfunc
    exact hdecl
  · exact fun h => ⟨_, h, rfl⟩

/-- A file with imports and declarations is its header, the import block and the declarations. -/
theorem File.render_eq_sections {file : File} (himports : file.imports ≠ [])
    (hdecls : file.decls ≠ []) :
    file.render = joinSections [header file.generator file.package, importBlock file.imports,
      file.renderDecls] ++ "\n" := by
  have hsome := importBlock_isEmpty himports
  obtain ⟨first, others, hmap⟩ : ∃ first others, file.decls.map Decl.render = first :: others :=
    List.exists_cons_of_ne_nil (by simpa using hdecls)
  simp [File.render, File.renderDecls, hsome, hmap, joinSections, String.intercalate_cons_cons]

/-- Such a file is what stands before its import block, the block and what stands after it. -/
theorem File.render_eq_append {file : File} (himports : file.imports ≠ [])
    (hdecls : file.decls ≠ []) :
    file.render = header file.generator file.package ++ "\n\n" ++ importBlock file.imports ++
      ("\n\n" ++ file.renderDecls ++ "\n") := by
  rw [File.render_eq_sections himports hdecls]
  simp only [joinSections, String.intercalate_cons_cons, String.intercalate_singleton,
    String.append_assoc]

end Go

namespace Store

variable {config : Config} {sources : List String} {store later : Store} {entity : Entity}
  {packageName : String} {item : Import} {file : Go.File}

/-! ## What a store is given -/

/-- The paths that generated code imports. -/
def neededPaths (config : Config) : List String :=
  [config.errorsImport, config.databaseImport, config.sqlImport]

/-- The import is one that generated code needs, or one of the sources without a local name that
code cannot use. -/
inductive IsGiven (config : Config) (sources : List String) : Import → Prop
  | needed {path : String} : path ∈ neededPaths config → IsGiven config sources ⟨path, ""⟩
  | found {source : String} {item : Import} : source ∈ sources →
      item ∈ Source.findImports source.toList → IsGiven config sources item.normal

/-- A store that was built has taken up imports that it was given. -/
theorem Built.takesUp (h : Built config packageName entity sources store) :
    ∃ found, TakesUp store found ∧ ∀ item ∈ found, IsGiven config sources item := by
  obtain ⟨source, block, path, methods, -, hchanges⟩ := h.changes
  refine @Changes.keeps config sources _ store (fun store => ∃ found, TakesUp store found ∧
    ∀ item ∈ found, IsGiven config sources item) hchanges ?_
    ⟨[], ⟨fun _ _ => rfl, List.nodup_nil, by simp, rfl⟩, by simp⟩
  rintro store later hchange ⟨found, htakes, hfound⟩
  have hadd : ∀ item, IsGiven config sources item → ∃ found,
      TakesUp (store.addImport item.path item.localName) found ∧
        ∀ item ∈ found, IsGiven config sources item :=
    fun item hitem => ⟨found ++ [item], htakes.addImport item,
      List.forall_mem_append.mpr ⟨hfound, List.forall_mem_singleton.mpr hitem⟩⟩
  cases hchange with
  | name name =>
    obtain ⟨names, heq⟩ := addMethodName_eq store name
    exact ⟨found, htakes.congr (by rw [heq]) (by rw [heq]), hfound⟩
  | service _ => exact ⟨found, htakes.congr rfl rfl, hfound⟩
  | @method signature _ _ _ _ _ _ _ =>
    obtain ⟨names, heq⟩ := addMethodName_eq
      { store with methods := store.methods ++ [signature] } signature.name
    exact ⟨found, htakes.congr (by rw [addMethod, heq]) (by rw [addMethod, heq]), hfound⟩
  | taken hsource hitem => exact hadd _ (.found hsource hitem)
  | @fixed path hpath => exact hadd ⟨path, ""⟩ (.needed hpath)

/-- The imports of a store that was built are of different paths, and each is one that the store was
given. -/
theorem Built.imports (h : Built config packageName entity sources store) :
    store.imports.Nodup ∧ ∀ path ∈ store.imports, IsGiven config sources (store.importOf path) := by
  obtain ⟨found, htakes, hfound⟩ := h.takesUp
  refine ⟨htakes.nodup, fun path hpath => hfound _ (Import.firsts_subset found ?_)⟩
  rw [← htakes.eq]
  exact List.mem_map_of_mem hpath

/-- Building keeps the entity and the package of a store. -/
theorem Built.owner (h : Built config packageName entity sources store) :
    store.mainEntity = some entity ∧ store.packageName = packageName := by
  obtain ⟨source, block, path, methods, -, hchanges⟩ := h.changes
  refine @Changes.keeps config sources _ store (fun store => store.mainEntity = some entity ∧
    store.packageName = packageName) hchanges ?_ ⟨rfl, rfl⟩
  rintro store later hchange ⟨hentity, hpackage⟩
  have himport : ∀ path name, (store.addImport path name).mainEntity = some entity ∧
      (store.addImport path name).packageName = packageName := by
    intro path name
    obtain ⟨paths, aliases, heq⟩ := sameCore_addImport store path name
    rw [heq]
    exact ⟨hentity, hpackage⟩
  cases hchange with
  | name name =>
    obtain ⟨names, heq⟩ := addMethodName_eq store name
    rw [heq]
    exact ⟨hentity, hpackage⟩
  | service _ => exact ⟨hentity, hpackage⟩
  | @method signature _ _ _ _ _ _ _ =>
    obtain ⟨names, heq⟩ := addMethodName_eq
      { store with methods := store.methods ++ [signature] } signature.name
    rw [addMethod, heq]
    exact ⟨hentity, hpackage⟩
  | taken _ _ => exact himport _ _
  | fixed _ => exact himport _ _

/-- What generated code needs is among the imports of a finished store. -/
theorem Built.mem_imports_finalize (h : Built config packageName entity sources store)
    {path : String} (hpath : path ∈ (store.finalize config).fixedImports config) :
    path ∈ (store.finalize config).imports := by
  obtain ⟨found, htakes, -⟩ := h.takesUp
  have hsame : (store.finalize config).fixedImports config = store.fixedImports config := by
    obtain ⟨paths, aliases, heq⟩ := sameCore_finalize config store
    rw [heq]
    rfl
  rw [hsame] at hpath
  rw [finalize_eq_addImports]
  exact (htakes.addImports _).complete ⟨path, ""⟩
    (List.mem_append_right _ (List.mem_map.mpr ⟨path, hpath, rfl⟩))

/-! ## What the generated routines use -/

/-- The routine that fetches rows reports errors, closes the rows of the database and knows the
outcome without rows. -/
theorem mem_qualifiersIn_fetchFunc {qualifier : String}
    (h : qualifier ∈ ["errors", "database", "sql"]) :
    qualifier ∈ Source.qualifiersIn
      (Go.Decl.func (store.fetchFunc config entity)).render.toList := by
  have hused : ∀ line ∈ store.queryLines config, qualifier ∈ Source.qualifiersIn line.toList →
      qualifier ∈ Source.qualifiersIn
        (Go.Decl.func (store.fetchFunc config entity)).render.toList :=
    fun line hline => Go.mem_qualifiersIn_body (by simp [fetchFunc, hline])
  simp only [List.mem_cons, List.not_mem_nil, or_false] at h
  rcases h with rfl | rfl | rfl
  · exact hused (Go.indent "err = errors.Trace(err)") (by simp [queryLines, Go.block])
      (by decide +kernel)
  · exact hused (Go.opening "defer func(dbRows database.Rows)") (by simp [queryLines])
      (by decide +kernel)
  · exact hused (Go.opening "if err == sql.ErrNoRows") (by simp [queryLines, Go.block])
      (by decide +kernel)

/-- A constructor that builds queries reports their errors. -/
theorem mem_qualifiersIn_constructor (h : store.hasBuildQueries = true) :
    "errors" ∈ Source.qualifiersIn (Go.Decl.func store.constructor).render.toList := by
  refine Go.mem_qualifiersIn_body ?_
    (by decide +kernel : "errors" ∈ Source.qualifiersIn
      (Go.indent "return nil, errors.Trace(err)").toList)
  simp [constructor, h, Go.block]

/-- The constructor builds queries only where the store has a method for it. -/
theorem IsLined.hasBuildQueries_of_calls (h : IsLined store)
    (hcalls : store.constructor.calls "buildQueries" = true) : store.hasBuildQueries = true := by
  by_contra hnone
  have hstruct : '(' ∉ store.structName.toList := h.structName.not_mem (by decide)
  have hmade : '(' ∉ store.variableName.toList := h.structName.initial.not_mem (by decide)
  have hbody : ∀ line ∈ store.constructor.body, '(' ∉ line.toList := by
    simp only [constructor, hnone, List.forall_mem_append, List.forall_mem_singleton]
    refine ⟨⟨?_, by simp⟩, by simp [hmade]⟩
    split_ifs
    · simp [hmade, hstruct, Go.braced]
    · simp only [List.cons_append, List.forall_mem_cons, List.forall_mem_append,
        List.forall_mem_map]
      refine ⟨by simp [hmade, hstruct], fun service hservice => ?_, by simp [Go.closing]⟩
      have hservice : '(' ∉ service.name.toList :=
        (h.services service hservice).1.not_mem (by decide)
      simp [Go.indent, hservice]
  obtain ⟨line, hline, hcontains⟩ := List.any_eq_true.mp hcalls
  rw [Text.contains, Text.occursIn_iff] at hcontains
  exact hbody line hline (hcontains.subset (by decide))

/-- The functions of a store's file: the constructor and the routine that fetches rows, each where
none is written by hand. -/
theorem func_mem_decls {func : Go.Func} : .func func ∈ store.decls config entity ↔
    (store.hasPrivateConstructor || store.hasPublicConstructor) = false ∧
        func = store.constructor ∨
      store.hasFetch = false ∧ func = store.fetchFunc config entity := by
  have hinterface : Go.Decl.func func ∉ store.interfaceDecls config := by
    unfold interfaceDecls
    simp only
    split_ifs <;> simp
  rw [decls, List.mem_append, List.mem_append]
  cases store.hasPrivateConstructor || store.hasPublicConstructor <;>
    cases store.hasFetch <;> simp [hinterface]

/-- Where a file of the store has a method for fetching, it is the generated one. -/
theorem fetchFunc_of_methodNames (hdecls : file.decls = store.decls config entity)
    (h : "fetch" ∈ file.methodNames) :
    store.hasFetch = false ∧ .func (store.fetchFunc config entity) ∈ file.decls := by
  obtain ⟨func, hfunc, -⟩ := List.mem_map.mp h
  obtain ⟨hfunc, hreceiver⟩ := List.mem_filter.mp hfunc
  rw [Go.mem_funcs] at hfunc
  rcases func_mem_decls.mp (hdecls ▸ hfunc) with ⟨-, rfl⟩ | ⟨hnone, rfl⟩
  · simp [constructor] at hreceiver
  · exact ⟨hnone, hfunc⟩

/-- Where a function of the store's file calls for the queries, it is the generated constructor. -/
theorem IsLined.constructor_of_calls (h : IsLined store) {func : Go.Func}
    (hdecls : file.decls = store.decls config entity) (hfunc : func ∈ file.funcs)
    (hreceiver : func.receiver = none) (hcalls : func.calls "buildQueries" = true) :
    store.hasBuildQueries = true ∧
      (store.hasPrivateConstructor || store.hasPublicConstructor) = false ∧
      .func store.constructor ∈ file.decls := by
  rw [Go.mem_funcs] at hfunc
  rcases func_mem_decls.mp (hdecls ▸ hfunc) with ⟨hnone, rfl⟩ | ⟨-, rfl⟩
  · exact ⟨h.hasBuildQueries_of_calls hcalls, hnone, hfunc⟩
  · simp [fetchFunc] at hreceiver

/-! ## The file -/

/-- The import of a path that generated code needs has no alias where the sources give it none. -/
theorem IsGiven.eq_of_needed (halias : ∀ source ∈ sources,
      ∀ item ∈ Source.findImports source.toList, item.path ∈ neededPaths config →
        Import.renames item.localName = false)
    (h : IsGiven config sources item) (hpath : item.path ∈ neededPaths config) :
    item = ⟨item.path, ""⟩ := by
  cases h with
  | needed _ => rfl
  | found hsource hitem =>
    have hrenames := halias _ hsource _ hitem hpath
    simp [Import.normal, hrenames]

theorem IsGiven.isWritable (hline : ∀ source ∈ sources, ∀ item ∈ Source.findImports source.toList,
      '\n' ∉ item.path.toList) (h : IsGiven {} sources item) :
    Source.IsWritable item := by
  cases h with
  | @needed path hpath =>
    have hneeded : ∀ path ∈ neededPaths {}, path ≠ "" ∧ '"' ∉ path.toList ∧ '\n' ∉ path.toList := by
      decide
    obtain ⟨hne, hquote, hfeed⟩ := hneeded path hpath
    exact ⟨hne, hquote, hfeed, Or.inl rfl⟩
  | found hsource hitem => exact Source.isWritable_normal hitem (hline _ hsource _ hitem)

/-- The parts of a store's file. -/
theorem exists_file_parts (config : Config) (hentity : store.mainEntity = some entity) :
    ∃ file, store.file config = .ok file ∧ file.generator = config.generatorName ∧
      file.package = store.packageName ∧ file.decls = store.decls config entity ∧
      file.imports = (store.referencedImports file.renderDecls).map store.importOf := by
  rw [file, hentity]
  exact ⟨_, rfl, rfl, rfl, rfl, rfl⟩

/-- An import of the store whose qualifier a declaration uses is one of the file. -/
theorem mem_imports_of_used
    (h : file.imports = (store.referencedImports file.renderDecls).map store.importOf)
    {path : String} (hpath : path ∈ store.imports) {decl : Go.Decl} (hdecl : decl ∈ file.decls)
    (hused : (store.importOf path).qualifier ∈ Source.qualifiersIn decl.render.toList) :
    path ∈ file.imports.map Import.path := by
  rw [h]
  refine List.mem_map.mpr ⟨store.importOf path, List.mem_map_of_mem ?_, rfl⟩
  refine List.mem_filter.mpr ⟨hpath, List.contains_iff_mem.mpr ?_⟩
  rw [Source.mem_findQualifiers, Go.qualifiersIn_renderDecls]
  exact List.mem_flatMap.mpr ⟨decl, hdecl, hused⟩

theorem qualifier_of_referencedImports {text : String}
    (h : item ∈ (store.referencedImports text).map store.importOf) :
    item.qualifier ∈ Source.findQualifiers text.toList := by
  obtain ⟨path, hpath, rfl⟩ := List.mem_map.mp h
  exact List.contains_iff_mem.mp (List.mem_filter.mp hpath).2

theorem nodup_paths_referencedImports (h : store.imports.Nodup) (text : String) :
    (((store.referencedImports text).map store.importOf).map Import.path).Nodup := by
  have hpaths : ((store.referencedImports text).map store.importOf).map Import.path =
      store.referencedImports text := by
    rw [List.map_map]
    exact List.map_id _
  rw [hpaths]
  exact h.filter _

/-- A file with imports has declarations that use them. -/
theorem decls_ne_nil (hne : file.imports ≠ [])
    (h : file.imports = (store.referencedImports file.renderDecls).map store.importOf) :
    file.decls ≠ [] := by
  obtain ⟨item, others, hitems⟩ := List.exists_cons_of_ne_nil hne
  have hused : item.qualifier ∈ Source.findQualifiers file.renderDecls.toList :=
    qualifier_of_referencedImports (by rw [← h, hitems]; exact List.mem_cons_self)
  intro hnil
  rw [Source.mem_findQualifiers, Go.qualifiersIn_renderDecls, hnil] at hused
  cases hused

/-- The imports of a finished store's file, read back from its text, have different paths and are in
use in the declarations; those that generated code needs are there where it is generated. -/
theorem emitted_imports_exact {entitySource entityPackage importPath : String}
    {entityPath : Option String}
    (hentity : Entity.ofSource {} entitySource entityPackage importPath entityPath = .ok entity)
    (hpackage : Source.isIdentifier packageName.toList = true)
    (hbuilt : Built {} packageName entity sources store)
    (hline : ∀ source ∈ sources, ∀ item ∈ Source.findImports source.toList,
      '\n' ∉ item.path.toList)
    (halias : ∀ source ∈ sources, ∀ item ∈ Source.findImports source.toList,
      item.path ∈ neededPaths {} → Import.renames item.localName = false) :
    ∃ file, (store.finalize {}).file {} = .ok file ∧
      (store.finalize {}).render {} = .ok file.render ∧
      (Source.findImports file.render.toList ≠ [] → file.render = Go.joinSections
        [Go.header file.generator file.package, Go.importBlock file.imports, file.renderDecls] ++
          "\n") ∧
      ((Source.findImports file.render.toList).map Import.path).Nodup ∧
      (∀ item ∈ Source.findImports file.render.toList,
        item.qualifier ∈ Source.findQualifiers file.renderDecls.toList) ∧
      ("fetch" ∈ file.methodNames → ∀ path ∈ neededPaths {},
        path ∈ (Source.findImports file.render.toList).map Import.path) ∧
      ((∃ func ∈ file.funcs, func.receiver = none ∧ func.signature.name = "New" ∧
          func.calls "buildQueries" = true) →
        ({} : Config).errorsImport ∈
          (Source.findImports file.render.toList).map Import.path) := by
  have hlast : Built {} packageName entity sources (store.finalize {}) := hbuilt.finalized
  obtain ⟨hmain, hname⟩ := hlast.owner
  obtain ⟨hnodup, hgiven⟩ := hlast.imports
  obtain ⟨file, hfile, hgenerator, hfilePackage, hdecls, himports⟩ := exists_file_parts {} hmain
  have hlined : file.IsLined := by
    refine ⟨by rw [hgenerator]; decide, ?_, ?_, fun item hitem => ?_⟩
    · rw [hfilePackage, hname]
      exact Text.newline_not_mem_of_isWord (Source.isWord_of_isIdentifier hpackage)
    · rw [hdecls]
      exact hlast.isLined.decls ⟨by decide, by decide, by decide⟩
        (Entity.isLined_of_ofSource hentity)
    · rw [himports] at hitem
      obtain ⟨path, hpath, rfl⟩ := List.mem_map.mp hitem
      exact (hgiven path (List.mem_filter.mp hpath).1).isWritable hline
  have hread := hlined.findImports_render
  have hpaths := hread.map Import.path
  have hneeded : ∀ path ∈ neededPaths {}, path ∈ (store.finalize {}).fixedImports {} →
      ∀ func, Go.Decl.func func ∈ file.decls →
      (⟨path, ""⟩ : Import).qualifier ∈ Source.qualifiersIn (Go.Decl.func func).render.toList →
      path ∈ (Source.findImports file.render.toList).map Import.path := by
    intro path hpath hfixed func hfunc hused
    have hmem := hbuilt.mem_imports_finalize hfixed
    have hbare : (store.finalize {}).importOf path = ⟨path, ""⟩ :=
      (hgiven path hmem).eq_of_needed halias hpath
    refine hpaths.mem_iff.mpr (mem_imports_of_used himports hmem hfunc ?_)
    rw [hbare]
    exact hused
  refine ⟨file, hfile, by rw [render, hfile]; rfl, fun hne => ?_, ?_, fun item hitem => ?_,
    fun hfetch path hpath => ?_, ?_⟩
  · have hsome : file.imports ≠ [] := fun hnil => hne (List.perm_nil.mp (hnil ▸ hread))
    exact Go.File.render_eq_sections hsome (decls_ne_nil hsome himports)
  · rw [hpaths.nodup_iff, himports]
    exact nodup_paths_referencedImports hnodup _
  · have hkept := hread.mem_iff.mp hitem
    rw [himports] at hkept
    exact qualifier_of_referencedImports hkept
  · obtain ⟨hnone, hfunc⟩ := fetchFunc_of_methodNames hdecls hfetch
    have hqualifiers : ∀ path ∈ neededPaths {},
        (⟨path, ""⟩ : Import).qualifier ∈ ["errors", "database", "sql"] := by
      decide +kernel
    refine hneeded path hpath ?_ _ hfunc (mem_qualifiersIn_fetchFunc (hqualifiers path hpath))
    rw [fixedImports, hnone]
    exact List.mem_append_left _ hpath
  · rintro ⟨func, hfunc, hreceiver, -, hcalls⟩
    obtain ⟨hbuild, hnone, hfunc⟩ :=
      hlast.isLined.constructor_of_calls hdecls hfunc hreceiver hcalls
    rw [Bool.or_eq_false_iff] at hnone
    have hqualifier : (⟨({} : Config).errorsImport, ""⟩ : Import).qualifier = "errors" := by
      decide +kernel
    refine hneeded _ List.mem_cons_self ?_ _ hfunc ?_
    · simp [fixedImports, hbuild, hnone]
    · rw [hqualifier]
      exact mem_qualifiersIn_constructor hbuild

/-- An entity that is read from source. -/
def shelvedEntity : Entity :=
  { name := "Book", packageName := "books", properties := [⟨"title", "string", ""⟩] }

/-- A source with a renamed import, one that generated code needs too, a method that builds queries
and one whose parameters stand on two lines. -/
def shelfSource : String :=
  "import (\n\tdb \"example.com/db\"\n\t\"database/sql\"\n)\n" ++
    "type Shelf struct \x7b\n\tpool *db.Pool\n\x7d\n" ++
    "func (s *Shelf) buildQueries() error \x7b\n\x7d\n" ++
    "func (s *Shelf) Since(at string,\n\tuntil sql.NullTime) \x7b\n\x7d\n"

/-- The store of that source. -/
def shelfStore : Store :=
  { structName := "Shelf"
    packageName := "books"
    methods := [⟨"Since", [⟨"at", "string"⟩, ⟨"until", "sql.NullTime"⟩], []⟩]
    methodNames := ["buildQueries", "Since"]
    services := [⟨"pool", "*db.Pool"⟩]
    imports := ["example.com/db", "database/sql"]
    importAliases := [("example.com/db", "db")]
    hasBuildQueries := true
    mainEntity := some shelvedEntity }

theorem emitted_imports_exact_sample :
    Built {} "books" shelvedEntity [shelfSource] shelfStore ∧
    ∃ file, (shelfStore.finalize {}).file {} = .ok file ∧ "fetch" ∈ file.methodNames ∧
      (∃ func ∈ file.funcs, func.receiver = none ∧ func.signature.name = "New" ∧
        func.calls "buildQueries" = true) ∧
      ((Source.findImports file.render.toList).map Import.path).Nodup ∧
      ∀ path ∈ neededPaths {}, path ∈ (Source.findImports file.render.toList).map Import.path := by
  have hentity : Entity.ofSource {} "// @synthesize\ntype Book struct \x7b\n\ttitle string\n\x7d\n"
      "books" "" none = .ok shelvedEntity := by decide +kernel
  have hdeclared : ofSource shelfSource "books" (some shelvedEntity) none = .ok shelfStore := by
    decide +kernel
  have hbuilt : Built {} "books" shelvedEntity [shelfSource] shelfStore := .declared hdeclared
  have hfound : Source.findImports shelfSource.toList =
      [⟨"example.com/db", "db"⟩, ⟨"database/sql", ""⟩] := by decide +kernel
  obtain ⟨file, hfile, -, -, hnodup, -, hfetch, -⟩ := emitted_imports_exact hentity
    (by decide +kernel) hbuilt
    (by rw [List.forall_mem_singleton, hfound]; decide +kernel)
    (by rw [List.forall_mem_singleton, hfound]; decide +kernel)
  have hfunctions : ∀ file, (shelfStore.finalize {}).file {} = .ok file →
      "fetch" ∈ file.methodNames ∧ ∃ func ∈ file.funcs, func.receiver = none ∧
        func.signature.name = "New" ∧ func.calls "buildQueries" = true := by
    intro file hfile
    obtain rfl := Except.ok.inj hfile
    decide +kernel
  obtain ⟨hmethod, hcalls⟩ := hfunctions file hfile
  exact ⟨hbuilt, file, hfile, hmethod, hcalls, hnodup, hfetch hmethod⟩

end Store

end Scaffold
