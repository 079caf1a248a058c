import Scaffold.Proofs.CheckedPackage
import Scaffold.Proofs.Listing
import Scaffold.Proofs.Qualifiers
import Scaffold.Proofs.SignatureRoundTrip

/-!
# Names of generated files

Entities that are read from source are named by words, so every file of their package has the name
of one entry, which carries the marker of generated files and the extension of source files.
-/

namespace Scaffold

variable {config : Config} {source packageName importPath : String} {sourcePath : Option String}

namespace Source

variable {α : Type} {marker source text rest : Chars} {block : StructBlock}

/-- What a search finds, its recogniser found somewhere. -/
theorem exists_of_firstMatch? {recognise : Recogniser α} {text : Chars} {found : α}
    (h : firstMatch? recognise text = some found) :
    ∃ previous rest after, recognise previous rest = some (found, after) := by
  have hfrom : ∀ previous, searchFrom recognise previous text = some found →
      ∃ previous rest after, recognise previous rest = some (found, after) := by
    clear h
    induction text with
    | nil => exact fun _ h => nomatch h
    | cons c rest ih =>
      intro previous h
      rw [searchFrom] at h
      split at h
      · next here after hhere =>
        obtain rfl := Option.some.inj h
        exact ⟨_, _, _, hhere⟩
      · exact ih _ h
  exact hfrom none h

/-- A struct is named by an identifier. -/
theorem isIdentifier_of_structBlock? (h : structBlock? text = some (block, rest)) :
    isIdentifier block.name.toList = true := by
  simp only [structBlock?, Option.bind_eq_bind, Option.bind_eq_some_iff] at h
  obtain ⟨_, -, _, -, ⟨name, _⟩, hname, _, -, _, -, _, -, _, -, _, -, heq⟩ := h
  obtain ⟨rfl, -⟩ := Prod.mk.inj (Option.some.inj heq)
  rw [String.toList_ofList]
  exact (of_identifier? hname).2

theorem isIdentifier_of_findStruct (h : findStruct source = .ok block) :
    isIdentifier block.name.toList = true := by
  unfold findStruct at h
  split at h
  · next found hfound =>
    obtain rfl := Except.ok.inj h
    obtain ⟨_, _, _, hhere⟩ := exists_of_firstMatch? hfound
    rw [onLineStart] at hhere
    split_ifs at hhere
    exact isIdentifier_of_structBlock? hhere
  · cases h

/-- A marked struct is a struct declaration of the source. -/
theorem exists_structBlock?_of_findMarkedStruct
    (h : findMarkedStruct marker source = .ok block) :
    ∃ text rest, structBlock? text = some (block, rest) := by
  simp only [findMarkedStruct] at h
  split_ifs at h
  split at h
  · next found hfound =>
    obtain rfl := Except.ok.inj h
    obtain ⟨previous, rest, after, hhere⟩ := exists_of_firstMatch? hfound
    simp only [onLineStart, markedStruct?, markerComment?, Option.ite_none_right_eq_some,
      Option.bind_eq_bind, Option.bind_eq_some_iff] at hhere
    obtain ⟨-, _, -, hhere⟩ := hhere
    obtain ⟨_, text, -, -, htext⟩ := spaces_of_backtrackSpaces hhere
    simp only [Option.bind_eq_some_iff] at htext
    obtain ⟨_, -, _, -, hblock⟩ := htext
    exact ⟨_, _, hblock⟩
  · cases h

theorem isIdentifier_of_findMarkedStruct (h : findMarkedStruct marker source = .ok block) :
    isIdentifier block.name.toList = true := by
  obtain ⟨_, _, hblock⟩ := exists_structBlock?_of_findMarkedStruct h
  exact isIdentifier_of_structBlock? hblock

end Source

theorem Entity.eq_of_checked {entity found : Entity} (h : entity.checked.orError = .ok found) :
    found = entity := by
  unfold Entity.checked Checked.nonEmpty at h
  split_ifs at h <;> cases h
  rfl

theorem Package.eq_of_checked {package found : Package} (h : package.checked.orError = .ok found) :
    found = package := by
  unfold Package.checked Checked.nonEmpty at h
  split_ifs at h <;> cases h
  rfl

theorem Entity.read_of_ofSource {entity : Entity}
    (h : Entity.ofSource config source packageName importPath sourcePath = .ok entity) :
    Entity.read config source packageName importPath sourcePath = .ok entity := by
  unfold Entity.ofSource at h
  cases hread : Entity.read config source packageName importPath sourcePath with
  | error error => simp [hread, Except.mapError] at h
  | ok found => simpa [hread, Except.mapError] using h

/-- An entity that is read from source is named as its marked struct, and its package as the reader
was told; its properties are the fields of the struct. -/
theorem Entity.names_of_ofSource {entity : Entity}
    (h : Entity.ofSource config source packageName importPath sourcePath = .ok entity) :
    ∃ block, Source.findMarkedStruct config.entityMarker.toList source.toList = .ok block ∧
      entity.name = block.name ∧ entity.packageName = packageName ∧
      entity.interfaceSuffix = config.interfaceSuffix ∧
      ∃ fields, Source.readFields block.body.toList = .ok fields ∧
        (fields.mapM fun field => field.checked.orError) = .ok entity.properties := by
  have hread := Entity.read_of_ofSource h
  simp only [Entity.read, Outcome.bind_eq_ok_iff, Error.ofSource_ok_iff] at hread
  obtain ⟨block, hblock, fields, hfields, properties, hproperties, found, hchecked, methods, -,
    heq⟩ := hread
  obtain rfl := Except.ok.inj heq
  obtain rfl := Entity.eq_of_checked hchecked
  exact ⟨block, hblock, rfl, rfl, rfl, fields, hfields, hproperties⟩

/-- The default names of files and directories; new directories may have any mode. -/
structure Config.HasDefaultNames (config : Config) : Prop where
  sourceExtension : config.sourceExtension = "go"
  generatedMarker : config.generatedMarker = "_synthesized"
  testFileSuffix : config.testFileSuffix = "_test"
  storesDirectoryName : config.storesDirectoryName = "stores"
  storeFileName : config.storeFileName = "store"
  metaDirectoryName : config.metaDirectoryName = "storesmeta"

/-- The default layout: the default names, and a mode of new directories that lets their owner do
everything. -/
structure Config.IsDefaultLayout (config : Config) : Prop extends
    names : config.HasDefaultNames where
  directoryMode : config.directoryMode = 0o700

/-- A name of one entry, which can be asked for. -/
structure IsFileName (name : String) : Prop where
  isName : Tree.IsName name
  slashFree : '/' ∉ name.toList
  speakable : '\x00' ∉ name.toList

theorem IsFileName.child {name : String} (h : IsFileName name) (directory : Location) :
    (Path.absolute directory).child name = .absolute (directory ++ [name]) :=
  Path.child_eq h.slashFree h.isName.1 h.isName.2.1

/-- A name of one entry that cleaning recognises as generated. -/
structure IsOutput (config : Config) (name : String) : Prop extends IsFileName name where
  marked : Text.contains name config.generatedMarker = true
  source : Text.fits "*.go" name = true

theorem isOutput_fileName (hlayout : config.HasDefaultNames)
    {stem ending : String} (hstem : Text.IsMarkFree stem) (hending : Text.IsMarkFree ending) :
    IsOutput config (config.fileName (stem ++ config.generatedMarker ++ ending)) := by
  have hname : config.fileName (stem ++ config.generatedMarker ++ ending) =
      stem ++ config.generatedMarker ++ (ending ++ ".go") := by
    simp [Config.fileName, hlayout.sourceExtension, String.append_assoc]
  have hlength : 2 < (config.fileName (stem ++ config.generatedMarker ++ ending)).length := by
    have hending : ".go".length = 3 := rfl
    rw [hname]
    simp only [String.length_append]
    omega
  have hfree : ∀ text, Text.IsMarkFree text → '/' ∉ text.toList ∧ '\x00' ∉ text.toList :=
    fun text htext => ⟨htext.not_mem (by decide), htext.not_mem (by decide)⟩
  refine ⟨⟨⟨?_, ?_, ?_⟩, ?_, ?_⟩, ?_, ?_⟩
  · exact fun heq => absurd (heq ▸ hlength) (by decide)
  · exact fun heq => absurd (heq ▸ hlength) (by decide)
  · exact fun heq => absurd (heq ▸ hlength) (by decide)
  · rw [hname, hlayout.generatedMarker]
    simp [(hfree _ hstem).1, (hfree _ hending).1]
  · rw [hname, hlayout.generatedMarker]
    simp [(hfree _ hstem).2, (hfree _ hending).2]
  · rw [hname]
    exact Text.contains_append _ _ _
  · rw [Text.fits_source, hname]
    exact ⟨(stem ++ config.generatedMarker ++ ending).toList, by simp⟩

theorem isOutput_marked (hlayout : config.HasDefaultNames) {stem : String}
    (hstem : Text.IsMarkFree stem) :
    IsOutput config (config.fileName (stem ++ config.generatedMarker)) := by
  simpa using @isOutput_fileName config hlayout stem "" hstem (List.forall_mem_nil _)

/-- Every file of a checked package whose entities are named without marks has an output's name. -/
theorem Package.isOutput_of_mem_files (hlayout : config.HasDefaultNames)
    {package : Package} (hvalid : (package.check config).isValid = true)
    (hentities : ∀ entity ∈ package.allEntities, Text.IsMarkFree entity.name)
    {files : List GeneratedFile} (hfiles : package.files config = .ok files) :
    ∀ file ∈ files, IsOutput config file.path := by
  obtain ⟨main, store, storeText, hmain, -, -, hall⟩ := files_of_check hvalid
  obtain rfl := Except.ok.inj (hfiles.symm.trans hall)
  intro file hfile
  rcases List.mem_append.mp hfile with hfile | hfile
  · obtain ⟨entity, hentity, hfile⟩ := List.mem_flatMap.mp hfile
    have hname : Text.IsMarkFree entity.lowerName := by
      refine (hentities entity ?_).lower
      simpa [allEntities, hmain] using hentity
    simp only [List.mem_cons, List.not_mem_nil, or_false] at hfile
    rcases hfile with rfl | rfl
    · exact isOutput_marked hlayout hname
    · exact isOutput_fileName hlayout hname (by rw [hlayout.testFileSuffix]; decide)
  · rw [List.mem_singleton.mp hfile]
    exact isOutput_marked hlayout (by rw [hlayout.storeFileName]; decide)

theorem Text.isMarkFree_of_isWord {text : String} (h : ∀ c ∈ text.toList, Text.isWord c = true) :
    Text.IsMarkFree text := by
  have hasciiTable : ∀ point < 0x30, Text.isWord (Char.ofNat point) = false := by decide
  intro c hc
  by_contra hlow
  have hnot := hasciiTable c.toNat (by omega)
  rw [Char.ofNat_toNat, h c hc] at hnot
  cases hnot

/-- An entity that is read from source is named without marks. -/
theorem Entity.isMarkFree_name {entity : Entity}
    (h : Entity.ofSource config source packageName importPath sourcePath = .ok entity) :
    Text.IsMarkFree entity.name := by
  obtain ⟨block, hblock, hname, -⟩ := Entity.names_of_ofSource h
  rw [hname]
  exact Text.isMarkFree_of_isWord
    (Source.isWord_of_isIdentifier (Source.isIdentifier_of_findMarkedStruct hblock))

end Scaffold
