import Scaffold.Proofs.Preparation

/-!
# Writing the files of a package

A name that can be asked for can be written to, or the disk refuses. So writing the files of a
package either puts all of them in place, or ends with a refusal.
-/

namespace Scaffold

open Tree Disk Action

variable {config : Config} {directory : Location} {name : String} {workspace last : Workspace}
  {disk : Disk}

/-- A change that can be asked for is made, or refused for its cause. -/
theorem Action.on_change_cases {cause : FileFault} {path : Path}
    {step : Disk → Except PathFault Disk} (h : step workspace.disk ≠ .error .unspeakable) :
    (∃ disk, step workspace.disk = .ok disk ∧
      (change cause path step).on workspace = (.ok (), { workspace with disk })) ∨
    ∃ reason, (change cause path step).on workspace =
      (.error (.fault (.file cause reason) (some path.render)), workspace) := by
  cases hstep : step workspace.disk with
  | ok disk => exact Or.inl ⟨disk, rfl, on_change_ok.mpr ⟨disk, hstep, rfl⟩⟩
  | error fault =>
    refine Or.inr ⟨fault, ?_⟩
    rw [change, on_disk_bind, hstep]
    cases fault with
    | unspeakable => exact absurd hstep h
    | _ => rfl

theorem Disk.speakable_append (hdirectory : Speakable directory) (hname : '\x00' ∉ name.toList) :
    Speakable (directory ++ [name]) := by
  intro other hother
  rcases List.mem_append.mp hother with hother | hother
  · exact hdirectory other hother
  · rwa [List.mem_singleton.mp hother]

theorem Disk.replaceFile_ne_unspeakable (h : disk.tree.IsOrderly)
    (hdirectory : ∀ name ∈ directory, IsName name) (hname : IsName name)
    (hspeakable : Speakable (directory ++ [name])) (content : ByteArray) (mode : Nat) :
    disk.replaceFile (.absolute (directory ++ [name])) content mode ≠ .error .unspeakable := by
  have hfind := find_ne_unspeakable h (isName_append hdirectory hname) hspeakable
  rw [replaceFile_eq h hdirectory hname]
  split
  · next fault hfault =>
    rw [hfault] at hfind
    simpa using hfind
  · simp
  · split_ifs <;> simp

namespace Export

/-- A file is put in place and recorded, or the disk refuses. -/
theorem writeFile_cases (horderly : workspace.disk.tree.IsOrderly)
    (hdirectory : ∀ name ∈ directory, IsName name) (hname : IsName name)
    (hspeakable : Speakable (directory ++ [name])) (mode : Nat) (content : String) :
    (∃ reason path,
      (writeFile false mode (.absolute (directory ++ [name])) content).on workspace =
        (.error (.fault (.file .writeFile reason) path), workspace)) ∨
    (writeFile false mode (.absolute (directory ++ [name])) content).on workspace =
      (.ok (.ofContent (.absolute (directory ++ [name])) content), { workspace with
        disk := { workspace.disk with
          tree := workspace.disk.tree.put (directory ++ [name])
            (.file content.toUTF8 mode) } }) := by
  have hwrite : writeFile false mode (.absolute (directory ++ [name])) content = (do
      change .writeFile (.absolute (directory ++ [name])) fun disk =>
        disk.replaceFile (.absolute (directory ++ [name])) content.toUTF8 mode
      return .ofContent (.absolute (directory ++ [name])) content) := rfl
  rw [hwrite, on_bind]
  rcases @on_change_cases workspace .writeFile (.absolute (directory ++ [name]))
    (fun disk => disk.replaceFile (.absolute (directory ++ [name])) content.toUTF8 mode)
    (replaceFile_ne_unspeakable horderly hdirectory hname hspeakable _ _) with
    ⟨disk, hdisk, hon⟩ | ⟨reason, hon⟩
  · obtain ⟨rfl, -⟩ := put_of_replaceFile horderly hdirectory hname hdisk
    right
    rw [hon]
    rfl
  · left
    rw [hon]
    exact ⟨_, _, rfl⟩

/-- The tree with the files of a package in its directory. -/
def written (config : Config) (directory : Location) (files : List GeneratedFile)
    (tree : Tree) : Tree :=
  files.foldl (fun tree file =>
    tree.put (directory ++ [file.path]) (.file file.content.toUTF8 config.fileMode)) tree

/-- The records of the files of a package. -/
def recordsOf (directory : Location) (files : List GeneratedFile) : List FileRecord :=
  files.map fun file => .ofContent (.absolute (directory ++ [file.path])) file.content

/-- All files are put in place and recorded, or the disk refuses one. -/
theorem writeAll_cases (horderly : workspace.disk.tree.IsOrderly)
    (hdirectory : ∀ name ∈ directory, IsName name) (hspeakable : Speakable directory)
    {files : List GeneratedFile} (hfiles : ∀ file ∈ files, IsFileName file.path) :
    (∃ reason path later, (writeAll config false (.absolute directory) files).on workspace =
      (.error (.fault (.file .writeFile reason) path), later)) ∨
    (writeAll config false (.absolute directory) files).on workspace =
      (.ok (recordsOf directory files), { workspace with
        disk := { workspace.disk with
          tree := written config directory files workspace.disk.tree } }) := by
  induction files generalizing workspace with
  | nil => exact Or.inr rfl
  | cons file rest ih =>
    rw [List.forall_mem_cons] at hfiles
    obtain ⟨hfile, hrest⟩ := hfiles
    rw [writeAll, List.mapM_cons, hfile.child directory, on_bind]
    rcases writeFile_cases horderly hdirectory hfile.isName
      (speakable_append hspeakable hfile.speakable) config.fileMode file.content with
      ⟨reason, path, hon⟩ | hon
    · left
      rw [hon]
      exact ⟨reason, path, workspace, rfl⟩
    · rw [hon]
      simp only
      rw [on_bind]
      have hput := horderly.put (show directory ++ [file.path] ≠ [] by simp)
        (isName_append hdirectory hfile.isName)
        (show ∀ target, Node.file file.content.toUTF8 config.fileMode ≠ .link target by simp)
      rcases @ih { workspace with disk := { workspace.disk with
        tree := workspace.disk.tree.put (directory ++ [file.path])
          (.file file.content.toUTF8 config.fileMode) } } hput hrest with
        ⟨reason, path, later, hon'⟩ | hon'
      · left
        rw [writeAll] at hon'
        rw [hon']
        exact ⟨reason, path, later, rfl⟩
      · right
        rw [writeAll] at hon'
        rw [hon']
        rfl

/-- Files that were written stand in place and are recorded. -/
theorem writeAll_ok (horderly : workspace.disk.tree.IsOrderly)
    (hdirectory : ∀ name ∈ directory, IsName name) {files : List GeneratedFile}
    (hfiles : ∀ file ∈ files, IsFileName file.path) {records : List FileRecord}
    (hok : (writeAll config false (.absolute directory) files).on workspace =
      (.ok records, last)) :
    records = recordsOf directory files ∧
      last.disk.tree = written config directory files workspace.disk.tree := by
  induction files generalizing workspace records with
  | nil =>
    obtain ⟨hrecords, rfl⟩ := Prod.mk.inj hok
    exact ⟨(Except.ok.inj hrecords).symm, rfl⟩
  | cons file rest ih =>
    rw [List.forall_mem_cons] at hfiles
    obtain ⟨hfile, hrest⟩ := hfiles
    rw [writeAll, List.mapM_cons, hfile.child directory] at hok
    obtain ⟨record, middle, hhead, hok⟩ := on_bind_ok.mp hok
    obtain ⟨others, later, htail, hpure⟩ := on_bind_ok.mp hok
    obtain ⟨hrecords, rfl⟩ := Prod.mk.inj hpure
    obtain ⟨_, changed, hchange, hrecord⟩ := on_bind_ok.mp hhead
    obtain ⟨disk, hdisk, rfl⟩ := on_change_ok.mp hchange
    obtain ⟨hvalue, rfl⟩ := Prod.mk.inj hrecord
    obtain ⟨rfl, -⟩ := put_of_replaceFile horderly hdirectory hfile.isName hdisk
    have hput := horderly.put (show directory ++ [file.path] ≠ [] by simp)
      (isName_append hdirectory hfile.isName)
      (show ∀ target, Node.file file.content.toUTF8 config.fileMode ≠ .link target by simp)
    obtain ⟨rfl, htree⟩ := @ih { workspace with disk := { workspace.disk with
      tree := workspace.disk.tree.put (directory ++ [file.path])
        (.file file.content.toUTF8 config.fileMode) } } hput hrest others htail
    refine ⟨(Except.ok.inj hrecords).symm.trans ?_, htree⟩
    rw [← Except.ok.inj hvalue]
    rfl

/-- A dry run records the files. -/
theorem writeAll_dry {files : List GeneratedFile}
    (hfiles : ∀ file ∈ files, IsFileName file.path) :
    (writeAll config true (.absolute directory) files).on workspace =
      (.ok (recordsOf directory files), workspace) := by
  induction files with
  | nil => rfl
  | cons file rest ih =>
    rw [List.forall_mem_cons] at hfiles
    have hhead : (writeFile true config.fileMode ((Path.absolute directory).child file.path)
        file.content).on workspace =
        (.ok (.ofContent (.absolute (directory ++ [file.path])) file.content), workspace) := by
      rw [hfiles.1.child directory]
      rfl
    exact on_mapM_cons hhead (ih hfiles.2)

end Export

namespace Discovery

/-- A package with an import path has a directory that can be asked for. -/
theorem speakable_of_importPath {root : Path} {importPath : String} (horderly : disk.tree.IsOrderly)
    (hdirectory : ∀ name ∈ directory, IsName name)
    (h : Discovery.importPath config disk (.absolute directory) root = .ok importPath) :
    Speakable directory := by
  by_contra hnot
  have hany : (directory.any fun part => part.toList.contains '\x00') = true := by
    simpa [Speakable] using hnot
  rw [Discovery.importPath, relative?, resolve_absolute horderly hdirectory, if_pos hany] at h
  cases h

end Discovery

namespace Run

open Aggregation

/-- What was prepared is a checked package with its own files. -/
theorem prepared_ok {root path : Path} {ready : Package × List GeneratedFile}
    (h : prepared config root path disk = .ok ready) :
    IsSound config ready.1 ∧ ready.1.files config = .ok ready.2 := by
  simp only [prepared, preparedAs, Outcome.bind_eq_ok_iff] at h
  obtain ⟨importPath, -, files, hfiles, package, hpackage, outputs, houtputs, hready⟩ := h
  obtain rfl := Except.ok.inj hready
  have hassemble : ((assemble config path importPath).on { disk }).1 = .ok package := by
    rw [(assemble_reads path importPath { disk }).1]
    exact Outcome.bind_eq_ok_iff.mpr ⟨files, hfiles, hpackage⟩
  exact ⟨assemble_gives path _ _ _ (Prod.ext hassemble rfl), houtputs⟩

theorem isOutput_of_prepared (hlayout : config.HasDefaultNames) {root path : Path}
    {ready : Package × List GeneratedFile} (h : prepared config root path disk = .ok ready) :
    ∀ file ∈ ready.2, IsOutput config file.path := by
  obtain ⟨⟨hvalid, hentities⟩, hfiles⟩ := prepared_ok h
  exact ready.1.isOutput_of_mem_files hlayout hvalid hentities hfiles

/-- The files of what was prepared have names that can be written to. -/
theorem isFileName_of_prepared (hlayout : config.HasDefaultNames) {root path : Path}
    {ready : Package × List GeneratedFile} (h : prepared config root path disk = .ok ready) :
    ∀ file ∈ ready.2, IsFileName file.path :=
  fun file hfile => (isOutput_of_prepared hlayout h file hfile).toIsFileName

/-- The progress after a package was finished. -/
def Progress.after (progress : Progress) (directory : Location)
    (ready : Package × List GeneratedFile) : Progress :=
  { packages := progress.packages ++ [ready.1.name]
    entities := progress.entities + ready.1.allEntities.length
    records := progress.records ++ Export.recordsOf directory ready.2 }

variable {root : Path} {progress : Progress} {importPath : String}

/-- The package is synthesized, or it cannot be prepared, or the disk refuses a change. -/
theorem synthesize_cases (hlayout : config.HasDefaultNames)
    (horderly : workspace.disk.tree.IsOrderly) (hdirectory : ∀ name ∈ directory, IsName name)
    (himport : Discovery.importPath config workspace.disk (.absolute directory) root =
      .ok importPath) :
    (∃ error later, (synthesize config false root progress (.absolute directory)).on workspace =
      (.error error, later) ∧ error.isRefusedChange = true) ∨
    (∃ error later, prepared config root (.absolute directory) workspace.disk = .error error ∧
      (synthesize config false root progress (.absolute directory)).on workspace =
        (.error error, later)) ∨
    ∃ ready cleaned later, prepared config root (.absolute directory) workspace.disk = .ok ready ∧
      (synthesize config false root progress (.absolute directory)).on workspace =
        (.ok (progress.after directory ready), later) ∧
      Without directory (staleNames config workspace.disk directory) workspace.disk cleaned ∧
      later.disk = { cleaned with
        tree := Export.written config directory ready.2 cleaned.tree } := by
  rw [synthesize_eq_prepare, on_bind]
  rcases prepare_cases hlayout horderly hdirectory himport with ⟨path, hon⟩ | ⟨houtcome, hwithout⟩
  · left
    rw [hon]
    exact ⟨_, _, rfl, rfl⟩
  · rcases hon : (prepare config false root (.absolute directory)).on workspace with
      ⟨error | ready, cleaned⟩ <;> rw [hon] at houtcome hwithout
    · exact Or.inr (Or.inl ⟨error, cleaned, houtcome.symm, rfl⟩)
    · have houtputs := isFileName_of_prepared hlayout houtcome.symm
      have hspeakable := Discovery.speakable_of_importPath horderly hdirectory himport
      simp only [finish]
      rw [on_bind]
      rcases Export.writeAll_cases hwithout.orderly hdirectory hspeakable houtputs with
        ⟨reason, path, later, hwrite⟩ | hwrite
      · left
        rw [hwrite]
        exact ⟨_, later, rfl, rfl⟩
      · right
        right
        rw [hwrite]
        exact ⟨ready, cleaned.disk, _, houtcome.symm, rfl, hwithout, rfl⟩

/-- A dry run goes on as if the package was synthesized. -/
theorem synthesize_dry (hlayout : config.HasDefaultNames) :
    ((synthesize config true root progress (.absolute directory)).on workspace).1 =
      (prepared config root (.absolute directory) workspace.disk).map
        (progress.after directory) := by
  rw [synthesize_eq_prepare, on_bind]
  have houtcome := (@prepare_reads config root (.absolute directory) workspace).1
  rcases hon : (prepare config true root (.absolute directory)).on workspace with
    ⟨error | ready, later⟩ <;> rw [hon] at houtcome
  · rw [← houtcome]
    rfl
  · have hfinish : (finish config true progress (.absolute directory) ready).on later =
        (.ok (progress.after directory ready), later) := on_bind_ok.mpr
      ⟨_, later, Export.writeAll_dry (isFileName_of_prepared hlayout houtcome.symm), rfl⟩
    rw [← houtcome]
    simp only [hfinish]
    rfl

end Run

end Scaffold
