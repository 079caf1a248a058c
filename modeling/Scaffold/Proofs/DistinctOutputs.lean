import Mathlib.Data.List.Flatten
import Mathlib.Data.List.Nodup
import Scaffold.Proofs.CheckedPackage

/-!
# Outputs do not overwrite each other

The names of a package's files are the lower-case names of its entities and the name of the store's
file, with fixed endings. Where the endings cannot be taken for each other, names that are checked
to be distinct give distinct files.
-/

namespace Scaffold

variable {config : Config}

/-- Texts are distinct just when they are counted once each. -/
theorem nodup_iff_countDistinct {items : List String} :
    items.Nodup ↔ ∀ entry ∈ countDistinct items, ¬ 1 < entry.2 := by
  rw [List.nodup_iff_count_le_one]
  constructor
  · intro hcounts entry hentry
    obtain ⟨item, -, rfl⟩ := List.mem_map.mp hentry
    exact Nat.not_lt.mpr (hcounts item)
  · intro hentries item
    by_cases hitem : item ∈ items
    · have hentry : (item, items.count item) ∈ countDistinct items :=
        List.mem_map.mpr ⟨item, List.mem_eraseDups.mpr hitem, rfl⟩
      exact Nat.not_lt.mp (hentries _ hentry)
    · rw [List.count_eq_zero_of_not_mem hitem]
      exact Nat.zero_le 1

namespace Package

variable {package : Package} {files : List GeneratedFile}

/-- Outputs pass the check just when the lower-case names of the entities are distinct, and other
than that of the store's file. -/
theorem checkOutputs_isValid_iff :
    (package.checkOutputs config).isValid = true ↔
      (package.allEntities.map Entity.lowerName).Nodup ∧
        config.storeFileName ∉ package.allEntities.map Entity.lowerName := by
  simp only [Report.isValid, Bool.not_eq_true', List.any_eq_false, checkOutputs,
    List.forall_mem_append]
  refine and_congr ?_ ?_
  · rw [nodup_iff_countDistinct, List.forall_mem_map]
    constructor
    · intro hduplicates entry hentry hcount
      exact hduplicates entry (List.mem_filter.mpr ⟨hentry, by simpa using hcount⟩) rfl
    · intro hcounts entry hentry
      obtain ⟨hentry, hcount⟩ := List.mem_filter.mp hentry
      exact absurd (by simpa using hcount) (hcounts entry hentry)
  · constructor
    · intro hclash hmem
      rw [if_pos (List.contains_iff_mem.mpr hmem)] at hclash
      exact hclash _ List.mem_cons_self rfl
    · intro hfree
      rw [if_neg (mt List.contains_iff_mem.mp hfree)]
      simp

/-- The paths of an entity's two files. -/
theorem paths_of_entityFiles {entity : Entity} (h : entity.files config = .ok files) :
    files.map GeneratedFile.path =
      [(entity.fileNames config).1, (entity.fileNames config).2] := by
  simp only [Entity.files, Entity.fileNames, Config.testFileName,
    GeneratedFile.checked_fileName, Outcome.bind_eq_ok_iff] at h
  obtain ⟨main, hmain, text, -, test, htest, hfiles⟩ := h
  obtain rfl := Except.ok.inj hfiles
  obtain rfl := Except.ok.inj hmain
  obtain rfl := Except.ok.inj htest
  rfl

/-- The paths of the files that are made. -/
theorem paths_of_files (h : package.files config = .ok files) :
    files.map GeneratedFile.path =
      package.allEntities.flatMap (fun entity =>
        [(entity.fileNames config).1, (entity.fileNames config).2]) ++
      package.store.toList.map fun _ => config.storeOutputName := by
  obtain ⟨entityFiles, hentities, hrest⟩ := Outcome.bind_eq_ok_iff.mp h
  have hpaths : entityFiles.map GeneratedFile.path = package.allEntities.flatMap fun entity =>
      [(entity.fileNames config).1, (entity.fileNames config).2] := by
    cases hlists : package.allEntities.mapM (Entity.files config) with
    | error error => simp [Package.entityFiles, hlists, Except.map] at hentities
    | ok lists =>
      simp only [Package.entityFiles, hlists, Except.map] at hentities
      obtain rfl := Except.ok.inj hentities
      rw [List.map_flatten, Outcome.map_eq_of_mapM (fun _ _ => paths_of_entityFiles) hlists,
        List.flatMap_def]
  cases hstore : package.store with
  | none =>
    rw [hstore] at hrest
    obtain rfl := Except.ok.inj hrest
    simpa using hpaths
  | some store =>
    simp only [hstore, Outcome.bind_eq_ok_iff, Store.files, Config.storeOutputName,
      GeneratedFile.checked_fileName] at hrest
    obtain ⟨storeFiles, ⟨text, -, file, hfile, hone⟩, hall⟩ := hrest
    obtain rfl := Except.ok.inj hall
    obtain rfl := Except.ok.inj hone
    obtain rfl := Except.ok.inj hfile
    simp [hpaths, Config.storeOutputName]

/-- The stems of the files of an entity. -/
def stems (config : Config) (name : String) : List String :=
  [name ++ config.generatedMarker, name ++ config.generatedMarker ++ config.testFileSuffix]

/-- A text with the one ending is no text with both. -/
theorem append_marker_ne
    (hmarker : ¬ config.generatedMarker.toList <:+ config.testFileSuffix.toList)
    (hsuffix : ¬ config.testFileSuffix.toList <:+ config.generatedMarker.toList)
    (first second : String) :
    first ++ config.generatedMarker ≠
      second ++ config.generatedMarker ++ config.testFileSuffix := by
  intro heq
  have hlists := congrArg String.toList heq
  simp only [String.toList_append] at hlists
  have hends : config.generatedMarker.toList <:+ second.toList ++ config.generatedMarker.toList ++
      config.testFileSuffix.toList := hlists ▸ List.suffix_append _ _
  rcases List.suffix_or_suffix_of_suffix hends (List.suffix_append _ _) with h | h
  · exact hmarker h
  · exact hsuffix h

/-- Distinct names have distinct stems. -/
theorem nodup_flatMap_stems
    (hmarker : ¬ config.generatedMarker.toList <:+ config.testFileSuffix.toList)
    (hsuffix : ¬ config.testFileSuffix.toList <:+ config.generatedMarker.toList)
    {names : List String} (hnodup : names.Nodup) : (names.flatMap (stems config)).Nodup := by
  have hne := append_marker_ne hmarker hsuffix
  refine List.nodup_flatMap.mpr ⟨fun name _ => ?_, hnodup.imp fun {first second} hdistinct => ?_⟩
  · simpa [stems] using hne name name
  · intro stem hfirst hsecond
    simp only [stems, List.mem_cons, List.not_mem_nil, or_false] at hfirst hsecond
    rcases hfirst with rfl | rfl <;> rcases hsecond with heq | heq
    · exact hdistinct (by simpa using heq)
    · exact hne first second heq
    · exact hne second first heq.symm
    · exact hdistinct (by simpa using heq)

/-- The paths of the files that are made, by their stems. -/
theorem paths_eq_map_stems (h : package.files config = .ok files) :
    files.map GeneratedFile.path =
      ((package.allEntities.map Entity.lowerName).flatMap (stems config) ++
        package.store.toList.map fun _ => config.storeFileName ++ config.generatedMarker).map
          config.fileName := by
  rw [paths_of_files h, List.map_append, List.map_flatMap, List.flatMap_map, List.map_map]
  rfl

/-- Files of checked outputs have distinct paths, if the marker of generated files and the suffix of
test files do not end in each other. -/
theorem nodup_paths (hmarker : ¬ config.generatedMarker.toList <:+ config.testFileSuffix.toList)
    (hsuffix : ¬ config.testFileSuffix.toList <:+ config.generatedMarker.toList)
    (hvalid : (package.checkOutputs config).isValid = true)
    (hfiles : package.files config = .ok files) : (files.map GeneratedFile.path).Nodup := by
  obtain ⟨hnodup, hstore⟩ := checkOutputs_isValid_iff.mp hvalid
  rw [paths_eq_map_stems hfiles]
  refine List.Nodup.map (fun _ _ h => by simpa [Config.fileName, String.append_assoc] using h)
    (List.Nodup.append (nodup_flatMap_stems hmarker hsuffix hnodup) ?_ ?_)
  · cases package.store <;> simp
  · intro stem hentity hfile
    obtain ⟨_, -, rfl⟩ := List.mem_map.mp hfile
    obtain ⟨name, hname, hstem⟩ := List.mem_flatMap.mp hentity
    simp only [stems, List.mem_cons, List.not_mem_nil, or_false] at hstem
    rcases hstem with heq | heq
    · obtain rfl : config.storeFileName = name := by simpa using heq
      exact hstore hname
    · exact append_marker_ne hmarker hsuffix _ _ heq

/-- Entities with one lower-case name write one file twice, and an entity with the name of the
store's file writes that file. -/
theorem isValid_of_nodup_paths (hstore : package.store.isSome = true)
    (hfiles : package.files config = .ok files) (h : (files.map GeneratedFile.path).Nodup) :
    (package.checkOutputs config).isValid = true := by
  obtain ⟨store, hsome⟩ := Option.isSome_iff_exists.mp hstore
  rw [paths_eq_map_stems hfiles, hsome] at h
  obtain ⟨hentities, -, hdisjoint⟩ := List.nodup_append'.mp h.of_map
  have hmain : ((package.allEntities.map Entity.lowerName).map
      (· ++ config.generatedMarker)).Sublist
        ((package.allEntities.map Entity.lowerName).flatMap (stems config)) := by
    rw [List.map_eq_flatMap]
    exact List.Sublist.flatMap_right _ fun name _ => by simp [stems]
  refine checkOutputs_isValid_iff.mpr ⟨(hentities.sublist hmain).of_map, fun hname => ?_⟩
  exact hdisjoint (hmain.subset (List.mem_map_of_mem hname)) (by simp)

/-- Where the marker of generated files and the suffix of test files do not end in each other, the
files of checked outputs have distinct paths. With a store among the outputs, no others have. -/
theorem outputs_distinct_of_check
    (hmarker : ¬ config.generatedMarker.toList <:+ config.testFileSuffix.toList)
    (hsuffix : ¬ config.testFileSuffix.toList <:+ config.generatedMarker.toList)
    (hfiles : package.files config = .ok files) :
    ((package.checkOutputs config).isValid = true → (files.map GeneratedFile.path).Nodup) ∧
      (package.store.isSome = true → (files.map GeneratedFile.path).Nodup →
        (package.checkOutputs config).isValid = true) :=
  ⟨fun hvalid => nodup_paths hmarker hsuffix hvalid hfiles,
    fun hstore hnodup => isValid_of_nodup_paths hstore hfiles hnodup⟩

/-- Conventions under which the marker of generated files begins the suffix of test files. -/
def overlappingEndings : Config :=
  { generatedMarker := "_gen", testFileSuffix := "_gen_test" }

theorem outputs_distinct_of_check_sample :
    ∃ files, sample.files overlappingEndings = .ok files ∧ files.length = 5 ∧
      (files.map GeneratedFile.path).Nodup := by
  have hvalid : (sample.check overlappingEndings).isValid = true := by decide
  obtain ⟨_, _, _, hmain, -, -, hfiles⟩ := files_of_check hvalid
  have hdistinct := outputs_distinct_of_check (by decide) (by decide) hfiles
  refine ⟨_, hfiles, ?_, hdistinct.1 (check_isValid_iff.mp hvalid).1.2.2⟩
  obtain rfl := Option.some.inj hmain
  rfl

end Package

end Scaffold
