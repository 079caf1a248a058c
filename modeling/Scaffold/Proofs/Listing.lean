import Scaffold.Aggregation
import Scaffold.Proofs.Changes
import Scaffold.Proofs.Outcome

/-!
# Listing the source files of a directory

The pattern for source files stands for the names that end in the extension. In a directory that is
entered the listing cannot fail, and it shows the files among the names that fit, in order.
-/

namespace Scaffold

namespace Text.Wildcard

variable {ending text : Chars}

theorem mem_remainders : ending ∈ remainders text ↔ ending <:+ text := by
  induction text with
  | nil => simp [remainders]
  | cons c rest ih => simp [remainders, ih, List.suffix_cons_iff]

private theorem any_isEmpty_foldl_left (ends : List Chars) :
    ((ending.map exactly).foldl left ends).any List.isEmpty = true ↔ ending ∈ ends := by
  induction ending generalizing ends with
  | nil => simp [List.any_eq_true]
  | cons c rest ih =>
    rw [List.map_cons, List.foldl_cons, ih]
    simp only [left, List.mem_filterMap]
    constructor
    · rintro ⟨text, htext, hrest⟩
      cases text with
      | nil => cases hrest
      | cons d others =>
        simp only [admits, beq_iff_eq, Option.ite_none_right_eq_some, Option.some.injEq] at hrest
        obtain ⟨rfl, rfl⟩ := hrest
        exact htext
    · exact fun htext => ⟨c :: rest, htext, by simp [admits]⟩

/-- A star before plain characters stands for the texts that end in them. -/
theorem covers_ending :
    covers (anyText :: ending.map exactly) text = true ↔ ending <:+ text := by
  rw [covers, List.foldl_cons, any_isEmpty_foldl_left]
  exact mem_remainders

end Text.Wildcard

/-- The pattern for source files stands for the names with the extension. -/
theorem Text.fits_source {name : String} :
    Text.fits "*.go" name = true ↔ ".go".toList <:+ name.toList := by
  have hparse : Wildcard.parse "*.go" = .anyText :: ".go".toList.map .exactly := by decide
  rw [fits, hparse, Wildcard.covers_ending]

namespace Disk

open Tree

variable {disk first second : Disk} {directory : Location} {name : String} {config : Config}

/-- A file stands at a location. -/
def holdsFile (disk : Disk) (location : Location) : Bool :=
  match disk.tree.get? location with
  | some (.file _ _) => true
  | _ => false

theorem holdsFile_iff {location : Location} :
    disk.holdsFile location = true ↔
      ∃ content mode, disk.tree.get? location = some (.file content mode) := by
  unfold holdsFile
  split <;> simp_all

/-- The names of the source files in a directory. -/
def sourceNames (disk : Disk) (directory : Location) : List String :=
  ((disk.names? directory).getD []).filter fun name =>
    Text.fits "*.go" name && disk.holdsFile (directory ++ [name])

theorem mem_names?_getD (h : name ∈ (disk.names? directory).getD []) :
    name ∈ disk.tree.names directory := by
  unfold names? at h
  split_ifs at h with hread
  · exact h
  · cases h

/-- In an entered directory every name can be asked about. -/
theorem Entered.ask_isFile (h : Entered directory disk)
    (hname : name ∈ disk.tree.names directory) :
    Glob.ask disk Disk.isFile (.absolute (directory ++ [name])) =
      .ok (disk.holdsFile (directory ++ [name])) := by
  obtain ⟨node, hnode⟩ := Option.isSome_iff_exists.mp (mem_names.mp hname)
  have hfind := h.find_child (h.orderly.isName_of_mem hname) hnode
  simp only [Glob.ask, refusal?, isFile, holdsFile, hfind, hnode]
  cases node <;> rfl

/-- The source files of a directory are asked for by name, whatever path leads to it. -/
theorem sourceFiles_of_directory {path : Path} (hextension : config.sourceExtension = "go")
    (hdirectory : disk.directory? path = some directory) :
    Aggregation.sourceFiles config disk path =
      (((((disk.names? directory).getD []).filter (Text.fits "*.go")).map
        (Glob.entry path)).filterM (Glob.ask disk Disk.isFile)).mapError
          fun reason => .fault (.file .listPackage reason) (some path.render) := by
  have hparse : Glob.parse? ("*." ++ "go") = some ⟨[.fitting "*.go"], false⟩ := by decide
  have hselect : Glob.select disk false [.fitting "*.go"] path =
      .ok ((((disk.names? directory).getD []).filter (Text.fits "*.go")).map
        (Glob.entry path)) := by
    have hends : ∀ found : List Path,
        found.mapM (Glob.select disk false []) = .ok (found.map fun path => [path]) :=
      fun found => Outcome.mapM_eq_ok_map fun _ _ => rfl
    have hfits : (fun path : Path => Text.fits "*.go" path.name) ∘ Glob.entry path =
        Text.fits "*.go" := by
      funext name
      simp [Path.name, Glob.entry]
    rw [Glob.select, Glob.entries, hdirectory, Option.bind_some, List.filter_map, hfits]
    change (List.mapM (Glob.select disk false []) _ >>= fun found => pure found.flatten) = _
    rw [hends]
    exact congrArg Except.ok (List.flatMap_singleton' _)
  have his : disk.isDirectory path = true := by
    rw [isDirectory, hdirectory]
    rfl
  rw [Aggregation.sourceFiles, hextension, hparse]
  simp only [Glob.files, Glob.paths, his, hselect]
  rfl

theorem sourceFiles_eq_filterM (hextension : config.sourceExtension = "go")
    (hdirectory : disk.directory? (.absolute directory) = some directory) :
    Aggregation.sourceFiles config disk (.absolute directory) =
      (((((disk.names? directory).getD []).filter (Text.fits "*.go")).map fun name =>
        Path.absolute (directory ++ [name])).filterM (Glob.ask disk Disk.isFile)).mapError
          fun reason =>
            .fault (.file .listPackage reason) (some (Path.absolute directory).render) :=
  sourceFiles_of_directory hextension hdirectory

/-- The source files of an entered directory. -/
theorem Entered.sourceFiles_eq (hextension : config.sourceExtension = "go")
    (h : Entered directory disk) :
    Aggregation.sourceFiles config disk (.absolute directory) =
      .ok ((disk.sourceNames directory).map fun name => .absolute (directory ++ [name])) := by
  have hanswer : ∀ path ∈ (((disk.names? directory).getD []).filter (Text.fits "*.go")).map
      (fun name => Path.absolute (directory ++ [name])),
      Glob.ask disk Disk.isFile path = .ok (disk.holdsFile path.parts) := by
    intro path hpath
    obtain ⟨name, hname, rfl⟩ := List.mem_map.mp hpath
    exact h.ask_isFile (mem_names?_getD (List.mem_filter.mp hname).1)
  rw [sourceFiles_eq_filterM hextension h.directory?, Outcome.filterM_eq_ok_filter hanswer,
    List.filter_map, List.filter_filter, sourceNames]
  refine congrArg (fun test => Except.ok (List.map _ (List.filter test _))) (funext fun name => ?_)
  exact Bool.and_comm _ _

/-- Where there is no directory, there are no source files. -/
theorem sourceFiles_of_not_directory (hextension : config.sourceExtension = "go")
    (hdirectory : disk.directory? (.absolute directory) = none) :
    Aggregation.sourceFiles config disk (.absolute directory) =
      match disk.refusal? (.absolute directory) with
      | none => .ok []
      | some reason =>
        .error (.fault (.file .listPackage reason) (some (Path.absolute directory).render)) := by
  have hparse : Glob.parse? ("*." ++ "go") = some ⟨[.fitting "*.go"], false⟩ := by decide
  simp only [Aggregation.sourceFiles, hextension, hparse, Glob.files, Glob.paths, isDirectory,
    hdirectory]
  cases disk.refusal? (.absolute directory) <;> rfl

/-- What is listed depends on the way to the directory and on what lies directly in it. -/
theorem sourceFiles_congr (hextension : config.sourceExtension = "go")
    (hf : first.tree.IsOrderly) (hs : second.tree.IsOrderly)
    (hdirectory : ∀ name ∈ directory, IsName name)
    (h : Agree (Around directory) first.tree second.tree) :
    Aggregation.sourceFiles config first (.absolute directory) =
      Aggregation.sourceFiles config second (.absolute directory) := by
  have hfind : first.find (.absolute directory) = second.find (.absolute directory) :=
    find_congr hf hs hdirectory fun count => h _ (Or.inl (List.take_prefix _ _))
  have hlooks : first.directory? (.absolute directory) = second.directory? (.absolute directory) ∧
      first.refusal? (.absolute directory) = second.refusal? (.absolute directory) := by
    simp only [directory?, refusal?, hfind, and_self]
  have hnames : first.names? directory = second.names? directory := by
    simp only [names?, allows_congr (h directory (Or.inl (List.prefix_refl _))),
      hf.isMap.names_congr hs.isMap fun name => h _ (Or.inr ⟨name, rfl⟩)]
  cases hlocation : second.directory? (.absolute directory) with
  | none =>
    rw [sourceFiles_of_not_directory hextension hlocation,
      sourceFiles_of_not_directory hextension (hlooks.1.trans hlocation), hlooks.2]
  | some location =>
    obtain rfl := eq_of_directory? hs hdirectory hlocation
    rw [sourceFiles_eq_filterM hextension hlocation,
      sourceFiles_eq_filterM hextension (hlooks.1.trans hlocation), hnames]
    refine congrArg (Except.mapError _) (Outcome.filterM_congr fun path hpath => ?_)
    obtain ⟨name, hname, rfl⟩ := List.mem_map.mp hpath
    have hisName := hs.isName_of_mem (mem_names?_getD (List.mem_filter.mp hname).1)
    have hchild : first.find (.absolute (location ++ [name])) =
        second.find (.absolute (location ++ [name])) :=
      find_congr hf hs (isName_append hdirectory hisName) fun _ =>
        h _ (around_of_above_child (List.take_prefix _ _))
    simp only [Glob.ask, refusal?, isFile, hchild]

/-- Whatever is listed are entries with a source file's name, and the directory is entered. -/
theorem mem_of_sourceFiles (hextension : config.sourceExtension = "go")
    (horderly : disk.tree.IsOrderly) (hnames : ∀ name ∈ directory, IsName name) {files : List Path}
    (h : Aggregation.sourceFiles config disk (.absolute directory) = .ok files) :
    ∀ path ∈ files, ∃ name, path = .absolute (directory ++ [name]) ∧ IsName name ∧
      Text.fits "*.go" name = true ∧ Entered directory disk := by
  cases hfound : disk.directory? (.absolute directory) with
  | none =>
    rw [sourceFiles_of_not_directory hextension hfound] at h
    cases hrefusal : disk.refusal? (.absolute directory) with
    | none =>
      rw [hrefusal] at h
      cases h
      exact fun path hpath => absurd hpath List.not_mem_nil
    | some fault =>
      rw [hrefusal] at h
      cases h
  | some location =>
    obtain rfl := eq_of_directory? horderly hnames hfound
    rw [sourceFiles_eq_filterM hextension hfound] at h
    cases hasked : List.filterM (Glob.ask disk Disk.isFile) _ with
    | error fault =>
      rw [hasked] at h
      cases h
    | ok found =>
      rw [hasked] at h
      obtain rfl := Except.ok.inj h
      intro path hpath
      obtain ⟨hlisted, hyes⟩ := Outcome.mem_of_filterM hasked path hpath
      obtain ⟨name, hname, rfl⟩ := List.mem_map.mp hlisted
      obtain ⟨hmem, hfits⟩ := List.mem_filter.mp hname
      have hisName := horderly.isName_of_mem (mem_names?_getD hmem)
      cases hfind : disk.find (.absolute (location ++ [name])) with
      | error fault => cases fault <;> simp [Glob.ask, refusal?, isFile, hfind] at hyes
      | ok place => exact ⟨name, rfl, hisName, hfits, entered_of_find horderly hnames hisName hfind⟩

/-- An orderly disk has changed in a region at most, where files took the place of other files or
of nothing. -/
structure PutsFiles (region : Location → Prop) (before after : Disk) : Prop
    extends ChangesOnly region before after where
  files : before.tree.IsOrderly → ∀ location,
    after.tree.get? location = before.tree.get? location ∨
      after.holdsFile location = true ∧
        ∀ mode, before.tree.get? location ≠ some (.directory mode)

theorem PutsFiles.of_orderly {region : Location → Prop}
    (h : first.tree.IsOrderly → PutsFiles region first second) : PutsFiles region first second :=
  ⟨.of_orderly fun ho => (h ho).toChangesOnly, fun ho => (h ho).files ho⟩

instance {region : Location → Prop} : IsPreorder Disk (PutsFiles region) where
  refl disk := ⟨refl_of _ disk, fun _ _ => Or.inl rfl⟩
  trans _ _ _ h h' := by
    refine ⟨trans_of _ h.toChangesOnly h'.toChangesOnly, fun ho location => ?_⟩
    rcases h'.files (h.orderly ho) location with hsame | ⟨hfile, hplace⟩
    · rcases h.files ho location with hsame' | ⟨hfile, hplace⟩
      · exact Or.inl (hsame.trans hsame')
      · exact Or.inr ⟨by rwa [holdsFile, hsame], hplace⟩
    · rcases h.files ho location with hsame' | ⟨-, hplace'⟩
      · exact Or.inr ⟨hfile, hsame' ▸ hplace⟩
      · exact Or.inr ⟨hfile, hplace'⟩

end Disk

end Scaffold
