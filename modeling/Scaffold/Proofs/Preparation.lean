import Scaffold.Proofs.PackageStep

/-!
# Preparing a package

Before a package's files are written, its directory is cleaned, read and checked, and the files are
made. Cleaning takes nothing away that is read afterwards. So what is prepared is a function of the
disk, whether the directory is cleaned on the way or not, unless the cleaning fails.
-/

namespace Scaffold

open Tree Disk Action

/-- The disk refused to delete or to write. -/
def Error.isRefusedChange : Error → Bool
  | .fault (.file .deleteFile _) _ => true
  | .fault (.file .writeFile _) _ => true
  | .fault (.file .recreateMeta _) _ => true
  | _ => false

variable {config : Config} {directory : Location} {name : String} {workspace last : Workspace}
  {before after first second : Disk}

namespace Aggregation

/-- What is above a directory, or directly in it under another name, stays. -/
theorem Without.get?_of_above {names : List String} (h : Without directory names before after)
    (hname : name ∉ names) {location : Location} (habove : location <+: directory ++ [name]) :
    after.tree.get? location = before.tree.get? location := by
  refine h.same location fun other hother heq => ?_
  rcases List.prefix_concat_iff.mp habove with hhere | hup
  · obtain rfl : other = name := by simpa using heq.symm.trans hhere
    exact hname hother
  · exact ne_child_of_above hup heq

theorem Without.entered {names : List String} (h : Without directory names before after)
    (hentered : Entered directory before) : Entered directory after :=
  hentered.congr h.orderly fun location habove => h.same location fun _ _ =>
    ne_child_of_above habove

theorem contains_of_mem_staleNames (h : name ∈ staleNames config before directory) :
    Text.contains name config.generatedMarker = true := by
  unfold staleNames at h
  split at h
  · obtain ⟨path, hpath, rfl⟩ := List.mem_map.mp h
    exact (List.mem_filter.mp hpath).2
  · cases h

theorem entered_of_mem_staleNames (hextension : config.sourceExtension = "go")
    (horderly : before.tree.IsOrderly) (hdirectory : ∀ name ∈ directory, IsName name)
    (h : name ∈ staleNames config before directory) : Entered directory before := by
  unfold staleNames at h
  split at h
  · next files hfiles =>
    obtain ⟨path, hpath, rfl⟩ := List.mem_map.mp h
    obtain ⟨-, -, -, -, hentered⟩ := mem_of_sourceFiles hextension horderly hdirectory hfiles path
      (List.mem_filter.mp hpath).1
    exact hentered
  · cases h

/-- The files that were written by hand, by their names. -/
theorem handWritten_of_entered (hextension : config.sourceExtension = "go")
    (h : Entered directory before) :
    handWritten config before (.absolute directory) =
      .ok ((((before.names? directory).getD []).filter fun name => Text.fits "*.go" name &&
        before.holdsFile (directory ++ [name]) &&
        !Text.contains name config.generatedMarker).map fun name =>
          .absolute (directory ++ [name])) := by
  rw [handWritten, h.sourceFiles_eq hextension, sourceNames]
  simp only [Except.map, List.filter_map, List.filter_filter]
  congr 3
  funext name
  simp [Bool.and_comm]

/-- Cleaning takes away nothing that was written by hand. -/
theorem handWritten_of_without (hextension : config.sourceExtension = "go")
    (horderly : before.tree.IsOrderly) (hdirectory : ∀ name ∈ directory, IsName name)
    (h : Without directory (staleNames config before directory) before after) :
    handWritten config after (.absolute directory) =
      handWritten config before (.absolute directory) := by
  cases hstale : staleNames config before directory with
  | nil =>
    rw [hstale] at h
    rw [handWritten, handWritten, sourceFiles_congr hextension h.orderly horderly hdirectory
      fun location _ => h.same location (List.forall_mem_nil _)]
  | cons stale rest =>
    have hentered := entered_of_mem_staleNames hextension horderly hdirectory
      (hstale ▸ List.mem_cons_self)
    have hkept : ∀ name, Text.contains name config.generatedMarker = false →
        after.tree.get? (directory ++ [name]) = before.tree.get? (directory ++ [name]) := by
      intro name hname
      refine h.get?_of_above (fun hmem => ?_) (List.prefix_refl _)
      rw [contains_of_mem_staleNames hmem] at hname
      cases hname
    have hread : after.tree.allows .read directory = before.tree.allows .read directory :=
      allows_congr (h.same directory fun name _ => ne_child_of_above (List.prefix_refl _))
    rw [handWritten_of_entered hextension hentered,
      handWritten_of_entered hextension (h.entered hentered), names?, names?, hread]
    split_ifs
    · refine congrArg (fun names => Except.ok (List.map _ names)) ?_
      refine h.orderly.isMap.filter_names_congr horderly.isMap fun name => ?_
      by_cases hhand : Text.contains name config.generatedMarker = false
      · simp only [mem_names, holdsFile, hkept name hhand]
      · simp [hhand]
    · rfl

theorem mem_of_handWritten (hextension : config.sourceExtension = "go")
    (horderly : before.tree.IsOrderly) (hdirectory : ∀ name ∈ directory, IsName name)
    {files : List Path} (h : handWritten config before (.absolute directory) = .ok files) :
    ∀ file ∈ files, ∃ name, file = .absolute (directory ++ [name]) ∧ IsName name ∧
      Text.contains name config.generatedMarker = false := by
  cases hsources : sourceFiles config before (.absolute directory) with
  | error error => simp [handWritten, hsources, Except.map] at h
  | ok sources =>
    simp only [handWritten, hsources, Except.map] at h
    obtain rfl := Except.ok.inj h
    intro file hfile
    obtain ⟨hmem, hhand⟩ := List.mem_filter.mp hfile
    obtain ⟨name, rfl, hname, -, -⟩ :=
      mem_of_sourceFiles hextension horderly hdirectory hsources file hmem
    exact ⟨name, rfl, hname, by simpa using hhand⟩

theorem textOn_of_without (horderly : before.tree.IsOrderly)
    (hdirectory : ∀ name ∈ directory, IsName name) (hname : IsName name)
    (h : Without directory (staleNames config before directory) before after)
    (hhand : Text.contains name config.generatedMarker = false) :
    textOn after (.absolute (directory ++ [name])) =
      textOn before (.absolute (directory ++ [name])) := by
  refine textOn_congr h.orderly horderly hdirectory hname fun above habove => ?_
  refine h.get?_of_above (fun hmem => ?_) habove
  rw [contains_of_mem_staleNames hmem] at hhand
  cases hhand

end Aggregation

namespace Run

open Aggregation

variable {root : Path} {importPath : String}

/-- The package in a directory with its files, under an import path. -/
def preparedAs (config : Config) (directory : Path) (importPath : String) (disk : Disk) :
    Except Error (Package × List GeneratedFile) := do
  let files ← handWritten config disk directory
  let package ← packageFrom config directory importPath files (textOn disk)
  let outputs ← package.files config
  return (package, outputs)

/-- The package in a directory with its files. -/
def prepared (config : Config) (root directory : Path) (disk : Disk) :
    Except Error (Package × List GeneratedFile) := do
  let importPath ← Discovery.importPath config disk directory root
  preparedAs config directory importPath disk

/-- A package depends on the files that were written by hand and on their texts. -/
theorem preparedAs_congr {directory : Path}
    (hfiles : handWritten config first directory = handWritten config second directory)
    (htext : ∀ files, handWritten config second directory = .ok files →
      ∀ file ∈ files, textOn first file = textOn second file) :
    preparedAs config directory importPath first =
      preparedAs config directory importPath second := by
  rw [preparedAs, preparedAs, hfiles]
  cases hfound : handWritten config second directory with
  | error error => rfl
  | ok files =>
    change packageFrom config directory importPath files (textOn first) >>= _ =
      packageFrom config directory importPath files (textOn second) >>= _
    rw [packageFrom_congr (htext files hfound)]

/-- Makes the files of a package. -/
def render (config : Config) (package : Package) : Action (Package × List GeneratedFile) := do
  Action.tell (package.notices config)
  let files ← Action.ofExcept (package.files config)
  return (package, files)

/-- Prepares a package: everything up to the writing of its files. -/
def prepare (config : Config) (dryRun : Bool) (root directory : Path) :
    Action (Package × List GeneratedFile) := do
  let package ← aggregate config dryRun directory root
  render config package

/-- Writes the files of a prepared package. -/
def finish (config : Config) (dryRun : Bool) (progress : Progress) (directory : Path)
    (ready : Package × List GeneratedFile) : Action Progress := do
  let records ← Export.writeAll config dryRun directory ready.2
  return {
    packages := progress.packages ++ [ready.1.name]
    entities := progress.entities + ready.1.allEntities.length
    records := progress.records ++ records }

theorem synthesize_eq_prepare (dryRun : Bool) (root directory : Path) (progress : Progress) :
    synthesize config dryRun root progress directory = (do
      let ready ← prepare config dryRun root directory
      finish config dryRun progress directory ready) := by
  simp only [synthesize, prepare, render, finish, bind_assoc, pure_bind]

/-- What is read of a package after its directory was cleaned. -/
theorem assemble_render_reads (directory : Path) (importPath : String) :
    Reads (preparedAs config directory importPath)
      (assemble config directory importPath >>= render config) := by
  have hrender : ∀ package, Reads (fun _ => do return (package, ← package.files config))
      (render config package) := by
    intro package workspace
    rw [render, on_bind, on_tell]
    simp only
    rw [on_bind, on_ofExcept]
    cases package.files config <;> exact ⟨rfl, rfl⟩
  intro workspace
  have hread := Reads.bind (@assemble_reads config directory importPath) hrender workspace
  simpa only [preparedAs, bind_assoc] using hread

/-- A package's directory is cleaned between naming the package and reading it. -/
theorem prepare_eq (dryRun : Bool) (root directory : Path) :
    prepare config dryRun root directory = (do
      let importPath ← Action.ofExcept
        (Discovery.importPath config (← Action.disk) directory root)
      discard (clean config dryRun directory)
      assemble config directory importPath >>= render config) := by
  simp only [prepare, aggregate, bind_assoc]

/-- What is prepared is what is read of the disk that cleaning leaves. -/
theorem prepare_on {dryRun : Bool} {root directory : Path}
    {removed : List Path} {cleaned : Workspace}
    (himport : Discovery.importPath config workspace.disk directory root = .ok importPath)
    (hclean : (clean config dryRun directory).on workspace = (.ok removed, cleaned))
    (hsame : handWritten config cleaned.disk directory =
      handWritten config workspace.disk directory)
    (htext : ∀ files, handWritten config workspace.disk directory = .ok files →
      ∀ file ∈ files, textOn cleaned.disk file = textOn workspace.disk file) :
    ((prepare config dryRun root directory).on workspace).1 =
        prepared config root directory workspace.disk ∧
      ((prepare config dryRun root directory).on workspace).2.disk = cleaned.disk := by
  have hon : (prepare config dryRun root directory).on workspace =
      (assemble config directory importPath >>= render config).on cleaned := by
    rw [prepare_eq, on_disk_bind, on_bind, on_ofExcept, himport]
    simp only
    rw [on_bind, on_discard, hclean]
    rfl
  obtain ⟨houtcome, hdisk⟩ := @assemble_render_reads config directory importPath cleaned
  rw [hon, houtcome, preparedAs_congr hsame htext, prepared, himport]
  exact ⟨rfl, hdisk⟩

/-- Where the package has no import path or its directory cannot be listed, nothing is prepared. -/
theorem prepare_error {dryRun : Bool} {root directory : Path} {error : Error}
    (h : Discovery.importPath config workspace.disk directory root = .error error ∨
      (∃ importPath, Discovery.importPath config workspace.disk directory root = .ok importPath) ∧
      sourceFiles config workspace.disk directory = .error error) :
    (prepare config dryRun root directory).on workspace = (.error error, workspace) ∧
      prepared config root directory workspace.disk = .error error := by
  rw [prepare_eq, on_disk_bind, on_bind, on_ofExcept, prepared]
  rcases h with himport | ⟨⟨importPath, himport⟩, hsources⟩
  · rw [himport]
    exact ⟨rfl, rfl⟩
  · have hclean : (clean config dryRun directory).on workspace = (.error error, workspace) := by
      rw [clean, on_disk_bind, on_bind, on_ofExcept, hsources]
    rw [himport]
    simp only
    rw [on_bind, on_discard, hclean]
    refine ⟨rfl, ?_⟩
    change preparedAs config directory importPath workspace.disk = _
    rw [preparedAs, handWritten, hsources]
    rfl

/-- Without cleaning, preparing a package is reading. -/
theorem prepare_reads (root directory : Path) :
    Reads (prepared config root directory) (prepare config true root directory) := by
  intro workspace
  cases himport : Discovery.importPath config workspace.disk directory root with
  | error error =>
    obtain ⟨hon, hprepared⟩ := @prepare_error config workspace true root directory error
      (Or.inl himport)
    rw [hon, hprepared]
    exact ⟨rfl, rfl⟩
  | ok importPath =>
    cases hsources : sourceFiles config workspace.disk directory with
    | error error =>
      obtain ⟨hon, hprepared⟩ := @prepare_error config workspace true root directory error
        (Or.inr ⟨⟨importPath, himport⟩, hsources⟩)
      rw [hon, hprepared]
      exact ⟨rfl, rfl⟩
    | ok files =>
      have hclean : (clean config true directory).on workspace =
          (.ok (files.filter (isGenerated config)), workspace) := by
        rw [clean, on_disk_bind, on_ofExcept_bind_ok]
        exact ⟨files, hsources, rfl⟩
      exact prepare_on himport hclean rfl fun _ _ _ _ => rfl

theorem synthesize_dry_keeps (root directory : Path) (progress : Progress) :
    Keeps Eq (synthesize config true root progress directory) := by
  rw [synthesize_eq_prepare]
  refine .bind (prepare_reads root directory).keeps fun ready => ?_
  exact .bind (.mapM fun _ _ => .of_disk_eq fun _ => rfl) fun _ => .of_disk_eq fun _ => rfl

/-- With cleaning too, unless a file could not be deleted; the files that were removed are then the
generated ones. -/
theorem prepare_cases (hlayout : config.HasDefaultNames) (horderly : workspace.disk.tree.IsOrderly)
    (hdirectory : ∀ name ∈ directory, IsName name) {root : Path}
    (himport : Discovery.importPath config workspace.disk (.absolute directory) root =
      .ok importPath) :
    (∃ path, (prepare config false root (.absolute directory)).on workspace =
      (.error (.fault (.file .deleteFile .denied) path), workspace)) ∨
    ((prepare config false root (.absolute directory)).on workspace).1 =
        prepared config root (.absolute directory) workspace.disk ∧
      Without directory (staleNames config workspace.disk directory) workspace.disk
        ((prepare config false root (.absolute directory)).on workspace).2.disk := by
  rcases clean_cases hlayout.sourceExtension horderly hdirectory with
    ⟨error, hsources, -⟩ | ⟨path, hclean⟩ | ⟨files, removed, cleaned, hsources, hclean, hwithout⟩
  · obtain ⟨hon, hprepared⟩ := @prepare_error config workspace false root _ error
      (Or.inr ⟨⟨importPath, himport⟩, hsources⟩)
    rw [hon, hprepared]
    refine Or.inr ⟨rfl, rfl, horderly, ?_, fun _ _ => rfl⟩
    simp [staleNames, hsources]
  · refine Or.inl ⟨path, ?_⟩
    rw [prepare_eq, on_disk_bind, on_bind, on_ofExcept, himport]
    simp only
    rw [on_bind, on_discard, hclean]
    rfl
  · obtain ⟨houtcome, hdisk⟩ := prepare_on himport hclean
      (handWritten_of_without hlayout.sourceExtension horderly hdirectory hwithout)
      fun found hfound file hfile => by
        obtain ⟨name, rfl, hname, hhand⟩ :=
          mem_of_handWritten hlayout.sourceExtension horderly hdirectory hfound file hfile
        exact textOn_of_without horderly hdirectory hname hwithout hhand
    exact Or.inr ⟨houtcome, by rw [hdisk]; exact hwithout⟩

/-- What is prepared depends on the way to the package's directory and on what lies directly in
it. -/
theorem prepared_congr (hlayout : config.HasDefaultNames) (hf : first.tree.IsOrderly)
    (hs : second.tree.IsOrderly) {root : Location} (hroot : ∀ name ∈ root, IsName name)
    (hdirectory : ∀ name ∈ directory, IsName name)
    (h : Agree (Around directory) first.tree second.tree) :
    prepared config (.absolute root) (.absolute directory) first =
      prepared config (.absolute root) (.absolute directory) second := by
  have hsources := sourceFiles_congr hlayout.sourceExtension hf hs hdirectory h
  rw [prepared, prepared, Discovery.importPath_congr hf hs hdirectory hroot]
  refine bind_congr fun importPath => preparedAs_congr ?_ fun found hfound file hfile => ?_
  · rw [handWritten, handWritten, hsources]
  · obtain ⟨name, rfl, hname⟩ :=
      mem_of_handWritten hlayout.sourceExtension hs hdirectory hfound file hfile
    exact textOn_congr hf hs hdirectory hname.1 fun _ habove => h _ (around_of_above_child habove)

end Run

end Scaffold
