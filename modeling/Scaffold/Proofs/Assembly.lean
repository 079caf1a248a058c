import Scaffold.Aggregation
import Scaffold.Proofs.Action
import Scaffold.Proofs.Outcome

/-!
# Assembling a package is reading

A package is put together from texts: which files a directory lists and what they hold decide
everything, and the disk stays as it is. So assembling is a function of the listed files and of
their texts, and what a package says can be proved about that function.
-/

namespace Scaffold

namespace Action

variable {α β : Type}

/-- The outcome of the action is a function of the disk, which stays as it is. -/
def Reads (read : Disk → Except Error α) (action : Action α) : Prop :=
  ∀ workspace, (action.on workspace).1 = read workspace.disk ∧
    (action.on workspace).2.disk = workspace.disk

theorem Reads.ofExcept (outcome : Except Error α) :
    Reads (fun _ => outcome) (ofExcept outcome) :=
  fun workspace => by simp

theorem Reads.bind {read : Disk → Except Error α} {readLater : α → Disk → Except Error β}
    {first : Action α} {second : α → Action β} (hfirst : Reads read first)
    (hsecond : ∀ value, Reads (readLater value) (second value)) :
    Reads (fun disk => do readLater (← read disk) disk) (first >>= second) := by
  intro workspace
  obtain ⟨houtcome, hdisk⟩ := hfirst workspace
  rcases hon : first.on workspace with ⟨error | value, later⟩ <;>
    simp only [hon] at houtcome hdisk <;> simp only [on_bind, hon, ← houtcome]
  · exact ⟨rfl, hdisk⟩
  · rw [← hdisk]
    exact hsecond value later

theorem Reads.foldlM {readStep : β → α → Disk → Except Error β} {step : β → α → Action β}
    (h : ∀ state item, Reads (readStep state item) (step state item)) (items : List α) (state : β) :
    Reads (fun disk => items.foldlM (fun state item => readStep state item disk) state)
      (items.foldlM step state) := by
  induction items generalizing state with
  | nil => exact fun _ => ⟨rfl, rfl⟩
  | cons item rest ih =>
    simp only [List.foldlM_cons]
    exact .bind (h state item) ih

section Views

variable {read : Disk → Except Error α} {action : Action α}

theorem Reads.keeps (h : Reads read action) : Keeps Eq action :=
  fun workspace => (h workspace).2.symm

/-- An action that reads the same of disks that are alike does the same on them. -/
theorem Reads.matches {alike : Disk → Disk → Prop} (h : Reads read action)
    (hread : ∀ left right, alike left right → read left = read right) :
    Matches alike action action := by
  intro left right halike
  obtain ⟨hleft, hleftDisk⟩ := h left
  obtain ⟨hright, hrightDisk⟩ := h right
  rw [hleft, hright, hleftDisk, hrightDisk]
  exact ⟨hread _ _ halike, halike⟩

end Views

end Action

namespace Aggregation

open Action

variable {config : Config}

/-- The text of a source file on a disk. -/
def textOn (disk : Disk) (path : Path) : Except Error String :=
  match disk.fileContent path with
  | .error reason => .error (.fault (.file .readSource reason) (some path.render))
  | .ok content =>
    match Disk.decode? content with
    | some text => .ok text
    | none => .error (.ofBytes (some path.render) content)

theorem readText_reads (path : Path) : Reads (textOn · path) (readText path) := by
  intro workspace
  rw [readText, on_disk_bind]
  simp only [textOn]
  cases workspace.disk.fileContent path with
  | error fault => exact ⟨rfl, rfl⟩
  | ok content =>
    cases hdecode : Disk.decode? content with
    | none => simp [hdecode]
    | some text => simp [hdecode]

/-- Takes up the text of one further file. -/
def takeUpText (config : Config) (package importPath : String) (path : Path)
    (state : Store × List Entity) (source : String) : Except Error (Store × List Entity) := do
  let collectPublic := !Text.contains source config.entityMarker
  let (store, outcome) := state.1.harvest source collectPublic (some path.render)
  discard outcome
  if Source.isMarked config.entityMarker.toList source.toList then
    let entity ← Entity.ofSource config source package importPath (some path.render)
    return (store, state.2 ++ [entity])
  else return (store, state.2)

theorem takeUp_reads (package importPath : String) (state : Store × List Entity) (path : Path) :
    Reads (fun disk => do takeUpText config package importPath path state (← textOn disk path))
      (takeUp config package importPath state path) := by
  refine .bind (readText_reads path) fun source => ?_
  refine .bind (.bind (.ofExcept _) fun _ => fun _ => ⟨rfl, rfl⟩) fun _ => ?_
  split
  · exact .bind (.ofExcept _) fun entity => .ofExcept (.ok _)
  · exact .ofExcept (.ok _)

/-- The files that may add to a package besides the two canonical ones. -/
def otherFiles (config : Config) (storeFile entityFile : Path) (files : List Path) : List Path :=
  files.filter fun file => file ≠ storeFile && file ≠ entityFile && !isTest config file

/-- The package that files of a directory declare, from their texts. -/
def packageFrom (config : Config) (directory : Path) (importPath : String) (files : List Path)
    (text : Path → Except Error String) : Except Error Package := do
  let (storeFile, entityFile) ← canonicalFiles config directory files
  let mainEntity ← Entity.ofSource config (← text entityFile) directory.name importPath
    (some entityFile.render)
  let store ← Store.ofSource (← text storeFile) directory.name (some mainEntity)
    (some storeFile.render)
  let (store, entities) ← (otherFiles config storeFile entityFile files).foldlM
    (fun state file => do
      takeUpText config directory.name importPath file state (← text file)) (store, [])
  let declared : Package :=
    { name := directory.name
      path := directory.render
      importPath
      store := some (store.finalize config)
      mainEntity := some mainEntity
      entities }
  let package ← declared.checked.orError
  let report := package.check config
  if report.isValid then return package
  else .error (.fault (.broken report.errorText) (some directory.render))

/-- The source files of a directory that were written by hand. -/
def handWritten (config : Config) (disk : Disk) (directory : Path) : Except Error (List Path) :=
  (sourceFiles config disk directory).map fun files =>
    files.filter fun file => !isGenerated config file

/-- A package is assembled from the texts of the files that were written by hand. -/
theorem assemble_reads (directory : Path) (importPath : String) :
    Reads (fun disk => do
        packageFrom config directory importPath (← handWritten config disk directory) (textOn disk))
      (assemble config directory importPath) := by
  intro workspace
  have hhand : ∀ read : List Path → Except Error Package,
      (handWritten config workspace.disk directory >>= read) =
        (sourceFiles config workspace.disk directory >>= fun sources =>
          read (sources.filter fun file => !isGenerated config file)) := by
    intro read
    rw [handWritten]
    cases sourceFiles config workspace.disk directory <;> rfl
  rw [assemble, on_disk_bind]
  simp only [hhand]
  refine @Reads.bind _ _ _ (fun (sources : List Path) disk =>
    packageFrom config directory importPath
      (sources.filter fun file => !isGenerated config file) (textOn disk)) _ _ (.ofExcept _)
    (fun sources => ?_) workspace
  unfold packageFrom
  refine .bind (.ofExcept _) fun canonical => ?_
  refine .bind (readText_reads _) fun entityText => .bind (.ofExcept _) fun mainEntity => ?_
  refine .bind (readText_reads _) fun storeText => .bind (.ofExcept _) fun store => ?_
  refine .bind (.foldlM (takeUp_reads _ _) _ _) fun found => .bind (.ofExcept _) fun package => ?_
  refine fun workspace => ?_
  rw [on_bind, on_tell]
  simp only
  split <;> exact ⟨rfl, rfl⟩

theorem mem_of_named? {files : List Path} {name : String} {path : Path}
    (h : named? files name = some path) : path ∈ files ∧ path.name = name :=
  ⟨List.mem_reverse.mp (List.mem_of_find?_eq_some h), by simpa using List.find?_some h⟩

/-- The two canonical files are different files of the directory, and the store's file has its usual
name. -/
theorem canonicalFiles_ok {directory : Path} {files : List Path} {storeFile entityFile : Path}
    (h : canonicalFiles config directory files = .ok (storeFile, entityFile)) :
    storeFile ∈ files ∧ entityFile ∈ files ∧ storeFile ≠ entityFile ∧
      storeFile.name = config.fileName config.storeFileName := by
  unfold canonicalFiles at h
  split at h
  · cases h
  next found hfound =>
    simp only at h
    split at h
    · next other hother =>
      obtain ⟨rfl, rfl⟩ := Prod.mk.inj (Except.ok.inj h)
      obtain ⟨hmem, hname⟩ := mem_of_named? hfound
      obtain ⟨stem, -, hstem⟩ := List.mem_filterMap.mp (List.mem_of_find?_eq_some hother)
      have hne : other ≠ found := by simpa using List.find?_some hother
      exact ⟨hmem, (mem_of_named? hstem).1, hne.symm, hname⟩
    · cases h

/-- A package depends on the texts of the files that it is read from. -/
theorem packageFrom_congr {directory : Path} {importPath : String} {files : List Path}
    {text other : Path → Except Error String} (h : ∀ file ∈ files, text file = other file) :
    packageFrom config directory importPath files text =
      packageFrom config directory importPath files other := by
  unfold packageFrom
  cases hcanonical : canonicalFiles config directory files with
  | error error => rfl
  | ok canonical =>
    obtain ⟨storeFile, entityFile⟩ := canonical
    obtain ⟨hstore, hentity, -, -⟩ := canonicalFiles_ok hcanonical
    have hothers : ∀ file ∈ otherFiles config storeFile entityFile files,
        text file = other file := fun file hfile => h file (List.mem_filter.mp hfile).1
    change (text entityFile >>= _) = (other entityFile >>= _)
    rw [h _ hentity, h _ hstore]
    refine bind_congr fun entityText => bind_congr fun mainEntity => bind_congr fun storeText => ?_
    refine bind_congr fun store => ?_
    rw [Outcome.foldlM_congr fun file hfile state => by rw [hothers file hfile]]

end Aggregation

end Scaffold
