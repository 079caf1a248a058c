import Scaffold.Proofs.ImportReading
import Scaffold.Proofs.NameResolution
import Scaffold.Proofs.OutputNames
import Scaffold.Proofs.StoreHistory

/-!
# The lines of a store's file

What is read from source and written into a store's file stays on its line: names are words, and the
lists of a method are read with one space for whatever stood between their words. So no line that is
written holds a line feed.
-/

namespace Scaffold

namespace Text

/-- A word stays on one line. -/
theorem newline_not_mem_of_isWord {word : Chars} (h : ∀ c ∈ word, isWord c = true) : '\n' ∉ word :=
  fun hmem => absurd (h _ hmem) (by decide)

/-- Pieces on one line are joined into one line. -/
theorem newline_not_mem_intercalate {separator : Chars} {pieces : List Chars}
    (hseparator : '\n' ∉ separator) (h : ∀ piece ∈ pieces, '\n' ∉ piece) :
    '\n' ∉ separator.intercalate pieces := by
  induction pieces with
  | nil => simp [List.intercalate]
  | cons first others ih =>
    obtain ⟨hfirst, hothers⟩ := List.forall_mem_cons.mp h
    cases others with
    | nil => simpa using hfirst
    | cons second others =>
      rw [List.intercalate_cons_cons, List.mem_append, List.mem_append, not_or, not_or]
      exact ⟨⟨hfirst, hseparator⟩, ih hothers⟩

/-- Text with its blanks collapsed stays on one line. -/
theorem newline_not_mem_collapse (text : Chars) : '\n' ∉ collapse text := by
  have hfrom : '\n' ∉ (wordsFrom text).1 ∧ ∀ word ∈ (wordsFrom text).2, '\n' ∉ word := by
    induction text with
    | nil => exact ⟨by simp [wordsFrom], by simp [wordsFrom]⟩
    | cons c rest ih =>
      rw [wordsFrom]
      simp only
      split_ifs with hblank
      · exact ⟨by simp, ih.2⟩
      · exact ⟨by simp, List.forall_mem_cons.mpr ih⟩
      · have hc : '\n' ≠ c := by
          rintro rfl
          exact hblank rfl
        exact ⟨by simpa using ⟨hc, ih.1⟩, ih.2⟩
  refine newline_not_mem_intercalate (by decide) ?_
  rw [words]
  simp only
  split_ifs
  · exact hfrom.2
  · exact List.forall_mem_cons.mpr hfrom

end Text

namespace Source

variable {text item : Chars} {items : List Chars} {param : Param} {params : List Param}

/-! ## Signatures -/

/-- Trimming adds no character. -/
theorem trim_subset (text : Chars) : Text.trim text ⊆ text := by
  obtain ⟨before, after, htext, -, -⟩ := Text.exists_trim text
  intro c hc
  rw [htext]
  exact List.mem_append_left _ (List.mem_append_right _ hc)

/-- The pieces of a line are on one line. -/
theorem newline_not_mem_of_splitTop (htext : '\n' ∉ text)
    (h : splitTop (some ',') text = .ok items) : ∀ item ∈ items, '\n' ∉ item := by
  obtain ⟨pieces, hpieces, rfl⟩ := exists_of_splitTop h
  intro item hitem hmem
  obtain ⟨piece, hpiece, rfl⟩ := List.mem_map.mp (List.mem_filter.mp hitem).1
  rw [← (intercalate_topPieces hpieces).2] at htext
  have hjoined : ∀ {pieces : List Chars}, piece ∈ pieces → piece ⊆ [','].intercalate pieces := by
    intro pieces hpiece
    induction pieces with
    | nil => cases hpiece
    | cons first others ih =>
      cases others with
      | nil => simp [List.mem_singleton.mp hpiece]
      | cons second others =>
        rw [List.intercalate_cons_cons]
        rcases List.mem_cons.mp hpiece with rfl | hpiece
        · exact fun c hc => List.mem_append_left _ (List.mem_append_left _ hc)
        · exact fun c hc => List.mem_append_right _ (ih hpiece hc)
  exact htext (hjoined hpiece (trim_subset piece hmem))

/-- The tokens of a line are on one line. -/
theorem newline_not_mem_splitTokens (htext : '\n' ∉ text) :
    ∀ token ∈ splitTokens text, '\n' ∉ token :=
  fun _ htoken hmem => htext ((isSpread_splitTokens text).subset htoken hmem)

/-- The name and the type stay on one line. -/
def IsLinedParam (param : Param) : Prop :=
  '\n' ∉ param.name.toList ∧ '\n' ∉ param.type.toList

/-- A parameter is on one line exactly if its text is. -/
theorem isLinedParam_iff : IsLinedParam param ↔ '\n' ∉ param.render.toList := by
  unfold IsLinedParam Param.render
  split_ifs with hempty
  · simp [String.isEmpty_iff.mp hempty]
  · simp

/-- What is read from one line is written on one. -/
theorem isLinedParam_of_readEntry (hitem : '\n' ∉ item) (h : readEntry item = .ok param) :
    IsLinedParam param := by
  rw [isLinedParam_iff, (readEntry_ok_iff.mp h).render]
  exact Text.newline_not_mem_intercalate (by decide) (newline_not_mem_splitTokens hitem)

/-- A list of parameters on one line has parameters on one line. -/
theorem isLinedParam_of_readParams (htext : '\n' ∉ text) (h : readParams text = .ok params) :
    ∀ param ∈ params, IsLinedParam param :=
  forall_of_readParams h
    (fun _ hitems item hitem _ hok =>
      isLinedParam_of_readEntry (newline_not_mem_of_splitTop htext hitems item hitem) hok)
    fun _ _ hentry hother => ⟨hother.2, hentry.2⟩

/-- A list of results on one line has results on one line. -/
theorem isLinedParam_of_readResults (htext : '\n' ∉ text) (h : readResults text = .ok params) :
    ∀ param ∈ params, IsLinedParam param := by
  have hclause : '\n' ∉ Text.trim text := fun hmem => htext (trim_subset text hmem)
  obtain ⟨-, rfl⟩ | ⟨inner, after, hlist, -, -, hread⟩ | ⟨entry, hentry, -, rfl⟩ :=
    exists_of_readResults h
  · exact List.forall_mem_nil _
  · refine isLinedParam_of_readParams (fun hmem => hclause ?_) hread
    rw [hlist]
    exact List.mem_append_left _ (List.mem_cons_of_mem _ hmem)
  · exact List.forall_mem_singleton.mpr (isLinedParam_of_readEntry hclause hentry)

end Source

namespace Signature

open Source

variable {signature : Signature}

/-- A signature is on one line if its name, its parameters and its results are. -/
theorem newline_not_mem_render (hname : '\n' ∉ signature.name.toList)
    (hparams : ∀ param ∈ signature.params, IsLinedParam param)
    (hresults : ∀ result ∈ signature.results, IsLinedParam result) :
    '\n' ∉ signature.render.toList := by
  have hlist : ∀ {params : List Param}, (∀ param ∈ params, IsLinedParam param) →
      '\n' ∉ (renderList params).toList := by
    intro params h
    rw [renderList, String.toList_intercalate]
    refine Text.newline_not_mem_intercalate (by decide) ?_
    simpa using fun param hparam => isLinedParam_iff.mp (h param hparam)
  have htext : '\n' ∉ signature.resultsText := by
    unfold resultsText renderResults
    split_ifs <;> simp [hlist hresults]
  rw [toList_render]
  simp [hname, hlist hparams, htext]

/-- The signature of a method that was found is written on one line. -/
theorem newline_not_mem_of_findMethods {source : Chars} {methods : List Method} {method : Method}
    (hmethods : findMethods source = .ok methods) (hmethod : method ∈ methods)
    (h : ofText method.name method.params method.results = .ok signature) :
    '\n' ∉ signature.render.toList := by
  obtain ⟨hword, ⟨list, hlist⟩, clause, hclause⟩ := of_findMethods hmethods method hmethod
  obtain ⟨hname, -, hparams, hresults, -⟩ := ofText_ok_iff.mp h
  refine newline_not_mem_render ?_ (isLinedParam_of_readParams ?_ hparams)
    (isLinedParam_of_readResults ?_ hresults)
  · rw [hname]
    exact Text.newline_not_mem_of_isWord hword.2
  · rw [hlist]
    exact Text.newline_not_mem_collapse list
  · rw [hclause]
    exact Text.newline_not_mem_collapse clause

end Signature

/-! ## Entities and stores -/

/-- A field is named by an identifier. -/
theorem Source.isIdentifier_of_readField {line : Chars} {property : Property}
    (h : readField line = .ok (some property)) : isIdentifier property.name.toList = true := by
  obtain ⟨name, _, _, -, hname, -, -, hfield⟩ := exists_of_readField h
  obtain ⟨_, _, hproperty, -⟩ := of_fieldIn hfield
  obtain rfl := Option.some.inj hproperty
  rwa [String.toList_ofList]

/-- A property that passes its check is left as it is. -/
theorem Property.eq_of_checked {property found : Property}
    (h : property.checked.orError = .ok found) : found = property := by
  unfold Property.checked Checked.nonEmpty at h
  split_ifs at h <;> cases h
  rfl

/-- The names that a configuration gives to a store's file stay on one line. -/
structure Config.IsLined (config : Config) : Prop where
  storeInterfaceName : '\n' ∉ config.storeInterfaceName.toList
  storeDatabaseField : '\n' ∉ config.storeDatabaseField.toList
  creatorScanFields : ∀ name ∈ config.creatorScanFields, '\n' ∉ name.toList

/-- The name of the entity is a word, and the names of its fields stay on one line. -/
structure Entity.IsLined (entity : Entity) : Prop where
  name : Text.IsMarkFree entity.name
  properties : ∀ property ∈ entity.properties, '\n' ∉ property.name.toList

/-- Every entity that is read from source stays on its lines. -/
theorem Entity.isLined_of_ofSource {config : Config} {source packageName importPath : String}
    {sourcePath : Option String} {entity : Entity}
    (h : Entity.ofSource config source packageName importPath sourcePath = .ok entity) :
    entity.IsLined := by
  refine ⟨Entity.isMarkFree_name h, fun property hproperty => ?_⟩
  obtain ⟨block, -, -, -, -, fields, hfields, hproperties⟩ := Entity.names_of_ofSource h
  obtain ⟨field, hfield, hchecked⟩ := Outcome.exists_of_mapM hproperties property hproperty
  obtain rfl := Property.eq_of_checked hchecked
  unfold Source.readFields at hfields
  cases hread : (Text.lines block.body.toList).mapM Source.readField with
  | error fault => simp [hread, Except.map] at hfields
  | ok found =>
    rw [hread] at hfields
    obtain rfl := Except.ok.inj hfields
    obtain ⟨declared, hdeclared, rfl⟩ := List.mem_filterMap.mp hfield
    obtain ⟨line, -, hline⟩ := Outcome.exists_of_mapM hread _ hdeclared
    exact Text.newline_not_mem_of_isWord
      (Source.isWord_of_isIdentifier (Source.isIdentifier_of_readField hline))

namespace Store

variable {config : Config} {sources : List String} {store later : Store} {entity : Entity}

/-- What a store writes into its file stays on one line: its struct and its services are named by
words, and types and methods are written without line feeds. -/
structure IsLined (store : Store) : Prop where
  structName : Text.IsMarkFree store.structName
  services : ∀ service ∈ store.services, Text.IsMarkFree service.name ∧ '\n' ∉ service.type.toList
  methods : ∀ method ∈ store.methods, '\n' ∉ method.render.toList

/-- A store's imports are no part of what its declarations are written from. -/
theorem IsLined.of_sameCore (h : IsLined store) (hsame : SameCore store later) :
    IsLined later :=
  ⟨hsame.structName ▸ h.structName, hsame.services ▸ h.services, hsame.methods ▸ h.methods⟩

/-- One change to a store keeps it on its lines. -/
theorem IsLined.change (h : IsLined store) (hchange : Change config sources store later) :
    IsLined later := by
  have hname : ∀ {store : Store} (name : String), IsLined store →
      IsLined (store.addMethodName name) := by
    intro store name h
    obtain ⟨names, heq⟩ := addMethodName_eq store name
    rw [heq]
    exact ⟨h.structName, h.services, h.methods⟩
  cases hchange with
  | name name => exact hname name h
  | @service service body hservice =>
    refine ⟨h.structName, List.forall_mem_append.mpr ⟨h.services, ?_⟩, h.methods⟩
    obtain ⟨hword, star, package, symbol, htype, hparts⟩ := Source.of_mem_readServices hservice
    refine List.forall_mem_singleton.mpr ⟨Text.isMarkFree_of_isWord hword.2, ?_⟩
    have hpackage := Text.newline_not_mem_of_isWord hparts.package
    have hsymbol := Text.newline_not_mem_of_isWord hparts.symbol
    rcases hparts.star with rfl | rfl <;> simp [htype, hpackage, hsymbol]
  | @method signature source methods method hmethods hmethod hsignature _ =>
    refine hname _ ⟨h.structName, h.services, List.forall_mem_append.mpr ⟨h.methods, ?_⟩⟩
    exact List.forall_mem_singleton.mpr
      (Signature.newline_not_mem_of_findMethods hmethods hmethod hsignature)
  | taken _ _ => exact h.of_sameCore (sameCore_addImport store _ _)
  | fixed _ => exact h.of_sameCore (sameCore_addImport store _ _)

/-- So every store that is built from sources stays on its lines. -/
theorem Built.isLined {packageName : String} (h : Built config packageName entity sources store) :
    IsLined store := by
  obtain ⟨source, block, path, methods, hblock, hchanges⟩ := h.changes
  refine hchanges.keeps (fun hchange hlined => hlined.change hchange) ⟨?_,
    by simp [Store.declared], by simp [Store.declared]⟩
  exact Text.isMarkFree_of_isWord
    (Source.isWord_of_isIdentifier (Source.isIdentifier_of_findStruct hblock))

/-! ## Declarations -/

theorem IsLined.newline_structName (h : IsLined store) : '\n' ∉ store.structName.toList :=
  h.structName.not_mem (by decide)

theorem IsLined.newline_variableName (h : IsLined store) : '\n' ∉ store.variableName.toList :=
  h.structName.initial.not_mem (by decide)

/-- A block is written on lines if its opener and its body are. -/
theorem newline_not_mem_block {opener : String} {body : List String}
    (hopener : '\n' ∉ opener.toList) (hbody : ∀ line ∈ body, '\n' ∉ line.toList) :
    ∀ line ∈ Go.block opener body, '\n' ∉ line.toList := by
  simp only [Go.block, List.cons_append, List.forall_mem_cons, List.forall_mem_append,
    List.forall_mem_map]
  refine ⟨by simp [Go.opening, hopener], fun line hline => ?_, by simp [Go.closing]⟩
  simp [Go.indent, hbody line hline]

/-- A function is written on lines if its parts are. -/
theorem newline_not_mem_func {func : Go.Func} (hdoc : ∀ sentence ∈ func.doc, '\n' ∉ sentence.toList)
    (hreceiver : '\n' ∉ func.renderReceiver.toList)
    (hsignature : '\n' ∉ func.signature.render.toList)
    (hbody : ∀ line ∈ func.body, '\n' ∉ line.toList) :
    ∀ line ∈ (Go.Decl.func func).lines, '\n' ∉ line.toList := by
  refine List.forall_mem_append.mpr ⟨?_, newline_not_mem_block (by simp_all) hbody⟩
  simp only [Go.Func.docLines, List.forall_mem_map, Option.mem_toList]
  exact fun sentence hsentence => by simp [hdoc sentence hsentence]

/-- The constructor of a store is written on lines. -/
theorem IsLined.constructor_lines (h : IsLined store) :
    ∀ line ∈ (Go.Decl.func store.constructor).lines, '\n' ∉ line.toList := by
  have hstruct := h.newline_structName
  have hmade := h.newline_variableName
  refine newline_not_mem_func (by simp [constructor, hstruct]) (by
    simp [constructor, Go.Func.renderReceiver]) ?_ ?_
  · refine Signature.newline_not_mem_render (by simp [constructor]) ?_ ?_
    · simp only [constructor, List.forall_mem_map]
      exact fun service hservice =>
        ⟨(h.services service hservice).1.not_mem (by decide), (h.services service hservice).2⟩
    · simp [constructor, Source.IsLinedParam, hstruct]
  · have hbuild : ∀ line ∈ Go.block ("if err := " ++ store.variableName ++
        ".buildQueries(); err != nil") ["return nil, errors.Trace(err)"], '\n' ∉ line.toList :=
      newline_not_mem_block (by simp [hmade]) (by simp)
    simp only [constructor, List.forall_mem_append, List.forall_mem_singleton]
    refine ⟨⟨?_, ?_⟩, by simp [hmade]⟩
    · split_ifs
      · simp [hmade, hstruct, Go.braced]
      · simp only [List.cons_append, List.forall_mem_cons, List.forall_mem_append,
          List.forall_mem_map]
        refine ⟨by simp [hmade, hstruct], fun service hservice => ?_, by simp [Go.closing]⟩
        have hservice : '\n' ∉ service.name.toList :=
          (h.services service hservice).1.not_mem (by decide)
        simp [Go.indent, hservice]
    · split_ifs
      · exact hbuild
      · simp

/-- The targets of a scan are on one line. -/
theorem newline_not_mem_scanTargets {row : String} {fields : List String} (hrow : '\n' ∉ row.toList)
    (hfields : ∀ field ∈ fields, '\n' ∉ field.toList) :
    '\n' ∉ (scanTargets row fields).toList := by
  rw [scanTargets, String.toList_intercalate]
  refine Text.newline_not_mem_intercalate (by decide) ?_
  simpa [hrow] using hfields

/-- The routine that fetches rows is written on lines. -/
theorem IsLined.fetchFunc_lines (h : IsLined store) (hconfig : config.IsLined)
    (hentity : entity.IsLined) :
    ∀ line ∈ (Go.Decl.func (store.fetchFunc config entity)).lines, '\n' ∉ line.toList := by
  have hstruct := h.newline_structName
  have hname : '\n' ∉ entity.name.toList := hentity.name.not_mem (by decide)
  have hmade := h.newline_variableName
  have hrow : '\n' ∉ (store.rowVariable entity).toList := by
    unfold rowVariable
    split_ifs
    · simp [hmade]
    · exact hentity.name.initial.not_mem (by decide)
  have hmandatory : '\n' ∉ (scanTargets (store.rowVariable entity)
      (mandatoryFields config entity)).toList := by
    refine newline_not_mem_scanTargets hrow ?_
    simp only [mandatoryFields, List.forall_mem_map]
    exact fun property hproperty => hentity.properties property (List.mem_filter.mp hproperty).1
  have hcreators : '\n' ∉ (scanTargets (store.rowVariable entity)
      (creatorFields config entity)).toList :=
    newline_not_mem_scanTargets hrow fun name hmem =>
      hconfig.creatorScanFields name (List.mem_filter.mp hmem).1
  have hquery : ∀ line ∈ store.queryLines config, '\n' ∉ line.toList := by
    simp [queryLines, Go.block, Go.opening, Go.indent, Go.closing, hmade,
      hconfig.storeDatabaseField]
  have hrows : ∀ line ∈ store.rowLines config entity, '\n' ∉ line.toList := by
    unfold rowLines
    simp only [List.forall_mem_append]
    refine ⟨⟨⟨⟨?_, ?_⟩, ?_⟩, ?_⟩, ?_⟩
    · exact newline_not_mem_block (by simp) (by simp)
    · simp [hrow, Entity.privateConstructorName, hname, Go.braced, hmandatory]
    · split_ifs
      · simp
      · exact newline_not_mem_block (by simp) (by simp [hcreators])
    · exact newline_not_mem_block (by simp) (by simp)
    · simp [hrow]
  refine newline_not_mem_func (by simp [fetchFunc]) ?_ ?_ ?_
  · simp [fetchFunc, Go.Func.renderReceiver, hmade, hstruct]
  · refine Signature.newline_not_mem_render (by simp [fetchFunc]) ?_ ?_
    · simp [fetchFunc, Source.IsLinedParam, Go.braced]
    · simp [fetchFunc, Source.IsLinedParam, hname]
  · simp only [fetchFunc, List.forall_mem_append]
    exact ⟨⟨⟨hquery, by simp [hname]⟩, newline_not_mem_block (by simp) hrows⟩, by simp⟩

/-- Every declaration of a store's file is written as lines without line feeds. -/
theorem IsLined.decls (h : IsLined store) (hconfig : config.IsLined) (hentity : entity.IsLined) :
    ∀ decl ∈ store.decls config entity, ∀ line ∈ decl.lines, '\n' ∉ line.toList := by
  have hstruct := h.newline_structName
  have hinterface : ∀ decl ∈ store.interfaceDecls config, ∀ line ∈ decl.lines,
      '\n' ∉ line.toList := by
    unfold interfaceDecls
    simp only
    split_ifs
    · simp
    · simp only [List.forall_mem_cons]
      refine ⟨by simp [Go.Decl.lines, Go.braced, hstruct, hconfig.storeInterfaceName], ?_, by simp⟩
      refine List.forall_mem_append.mpr
        ⟨by simp [Go.Func.docLines, hconfig.storeInterfaceName], ?_⟩
      refine newline_not_mem_block (by simp [hconfig.storeInterfaceName]) ?_
      simpa using h.methods
  simp only [Store.decls, List.forall_mem_append]
  refine ⟨⟨hinterface, ?_⟩, ?_⟩
  · split_ifs
    · simp
    · exact List.forall_mem_singleton.mpr h.constructor_lines
  · split_ifs
    · simp
    · exact List.forall_mem_singleton.mpr (h.fetchFunc_lines hconfig hentity)

end Store

end Scaffold
