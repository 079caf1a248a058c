import Scaffold.Proofs.DryRun
import Scaffold.Proofs.FailedRun
import Scaffold.Proofs.FileRecords
import Scaffold.Proofs.ManifestFile

/-!
# The manifest tells what is on the disk

After a successful run the generated files of the package directories are those that the manifest
records, each once, and every record describes the bytes that stand at its path. The file of the
manifest itself is not recorded, so it must not be put among the recorded ones.
-/

namespace Scaffold

open Tree Disk Action

variable {config : Config} {workspace last : Workspace} {above root directory : Location}

/-- Files that were made in one directory. -/
structure Batch where
  directory : Location
  files : List GeneratedFile

/-- Records of files that stand where they say: batches made in directories that paths tell apart,
under distinct names. -/
structure Recorded (config : Config) (batches : List Batch) (records : List FileRecord)
    (disk : Disk) : Prop where
  records : records = batches.flatMap fun batch => Export.recordsOf batch.directory batch.files
  openings : (batches.map fun batch => Path.opening batch.directory).Nodup
  slashFree : ∀ batch ∈ batches, ∀ file ∈ batch.files, '/' ∉ file.path.toList
  nodup : ∀ batch ∈ batches, (batch.files.map GeneratedFile.path).Nodup
  made : ∀ batch ∈ batches, ∀ file ∈ batch.files,
    disk.tree.get? (batch.directory ++ [file.path]) =
      some (.file file.content.toUTF8 config.fileMode)

namespace Recorded

variable {batches : List Batch} {records : List FileRecord} {disk : Disk}

theorem mem_records (h : Recorded config batches records disk) {record : FileRecord} :
    record ∈ records ↔ ∃ batch ∈ batches, ∃ file ∈ batch.files,
      .ofContent (.absolute (batch.directory ++ [file.path])) file.content = record := by
  simp only [h.records, List.mem_flatMap, Export.recordsOf, List.mem_map]

/-- A batch is told from the others by the text that its paths start with. -/
theorem eq_of_opening (h : Recorded config batches records disk) {batch other : Batch}
    (hbatch : batch ∈ batches) (hother : other ∈ batches)
    (heq : Path.opening batch.directory = Path.opening other.directory) : batch = other :=
  List.inj_on_of_nodup_map h.openings hbatch hother heq

/-- The records of a directory are those of its files. -/
theorem mem_paths_iff (h : Recorded config batches records disk) {batch : Batch}
    (hbatch : batch ∈ batches) {name : String} (hname : '/' ∉ name.toList) :
    (Path.absolute (batch.directory ++ [name])).render ∈ records.map FileRecord.path ↔
      name ∈ batch.files.map GeneratedFile.path := by
  constructor
  · intro hmem
    obtain ⟨record, hrecord, hpath⟩ := List.mem_map.mp hmem
    obtain ⟨other, hother, file, hfile, rfl⟩ := h.mem_records.mp hrecord
    obtain ⟨hopening, rfl⟩ :=
      Path.render_entry_inj (h.slashFree other hother file hfile) hname hpath
    obtain rfl := h.eq_of_opening hother hbatch hopening
    exact List.mem_map_of_mem hfile
  · intro hmem
    obtain ⟨file, hfile, rfl⟩ := List.mem_map.mp hmem
    exact List.mem_map.mpr ⟨_, h.mem_records.mpr ⟨batch, hbatch, file, hfile, rfl⟩, rfl⟩

/-- Every file is recorded once. -/
theorem nodup_paths (h : Recorded config batches records disk) :
    (records.map FileRecord.path).Nodup := by
  rw [h.records, List.map_flatMap, List.nodup_flatMap]
  constructor
  · intro batch hbatch
    have hpaths : (Export.recordsOf batch.directory batch.files).map FileRecord.path =
        (batch.files.map GeneratedFile.path).map fun name =>
          (Path.absolute (batch.directory ++ [name])).render := by
      simp only [Export.recordsOf, List.map_map]
      rfl
    rw [hpaths]
    refine (h.nodup batch hbatch).map_on fun name hname other hother heq => ?_
    obtain ⟨file, hfile, rfl⟩ := List.mem_map.mp hname
    obtain ⟨file', hfile', rfl⟩ := List.mem_map.mp hother
    exact (Path.render_entry_inj (h.slashFree batch hbatch file hfile)
      (h.slashFree batch hbatch file' hfile') heq).2
  · refine (List.pairwise_map.mp h.openings).imp_of_mem ?_
    intro batch other hbatch hother hne path hpath hpath'
    obtain ⟨record, hrecord, rfl⟩ := List.mem_map.mp hpath
    obtain ⟨record', hrecord', heq⟩ := List.mem_map.mp hpath'
    obtain ⟨file, hfile, rfl⟩ := List.mem_map.mp hrecord
    obtain ⟨file', hfile', rfl⟩ := List.mem_map.mp hrecord'
    exact hne (Path.render_entry_inj (h.slashFree _ hother file' hfile')
      (h.slashFree _ hbatch file hfile) heq).1.symm

/-- Every record describes the file at its path. -/
theorem describes (h : Recorded config batches records disk) {record : FileRecord}
    (hrecord : record ∈ records) :
    ∃ location content mode, record.path = (Path.absolute location).render ∧
      disk.tree.get? location = some (.file content mode) ∧ record.Describes content := by
  obtain ⟨batch, hbatch, file, hfile, rfl⟩ := h.mem_records.mp hrecord
  exact ⟨_, _, _, rfl, h.made batch hbatch file hfile, FileRecord.describes_ofContent _ _⟩

/-- Changes elsewhere leave the files as they are recorded. -/
theorem keepsFiles {region : Location → Prop} {after : Disk}
    (h : Recorded config batches records disk) (horderly : disk.IsOrderly)
    (hkept : KeepsFiles region disk after)
    (hregion : ∀ batch ∈ batches, ∀ file ∈ batch.files, ¬ region (batch.directory ++ [file.path])) :
    Recorded config batches records after where
  records := h.records
  openings := h.openings
  slashFree := h.slashFree
  nodup := h.nodup
  made batch hbatch file hfile :=
    (hkept.files horderly _ (hregion batch hbatch file hfile) _ _).mpr
      (h.made batch hbatch file hfile)

end Recorded

namespace Meta

/-- A meta package that was made holds its files, and they are recorded. -/
theorem files_of_build (hlayout : config.HasDefaultNames) (habove : ∀ name ∈ above, IsName name)
    (horderly : workspace.disk.tree.IsOrderly) {name : String} {records : List FileRecord}
    (hok : (build config false (.absolute (above ++ [name]))).on workspace = (.ok records, last)) :
    records = Export.recordsOf (above ++ ["storesmeta"]) (files config) ∧
      ∀ file ∈ files config, last.disk.tree.get? (above ++ ["storesmeta"] ++ [file.path]) =
        some (.file file.content.toUTF8 config.fileMode) := by
  have hname : IsName "storesmeta" := by decide
  have hnames := isName_append habove hname
  have hnodup : ((files config).map GeneratedFile.path).Nodup := by
    rw [map_path_files hlayout]
    decide
  rw [build_eq, directory_absolute hlayout] at hok
  obtain ⟨_, bare, hvacate, hfill⟩ := on_bind_ok.mp hok
  have hbare := ((vacate_keeps hnames).of_on hvacate).orderly horderly
  rw [fill_eq] at hfill
  obtain ⟨_, made, hmake, hwrite⟩ := on_bind_ok.mp hfill
  obtain ⟨disk, hdisk, rfl⟩ := on_change_ok.mp hmake
  obtain ⟨rfl, -⟩ := put_of_makeDirectory hbare habove hname hdisk
  obtain ⟨hrecords, htree⟩ := Export.writeAll_ok (hbare.put (by simp) hnames (by simp)) hnames
    (isFileName_of_mem_files hlayout) hwrite
  refine ⟨hrecords, fun file hfile => ?_⟩
  rw [htree]
  exact Export.get?_written_of_mem hnodup hfile

end Meta

namespace Run

open Aggregation

/-- The packages of a run: the files that each one was given are recorded in order, and its
directory holds them at the end. -/
theorem recorded_of_foldlM (hlayout : config.HasDefaultNames) (hroot : ∀ name ∈ root, IsName name)
    {names : List String} (hnodup : names.Nodup) (hnames : ∀ name ∈ names, IsName name)
    (horderly : workspace.disk.tree.IsOrderly) {progress final : Progress}
    (hok : ((names.map fun name => Path.absolute (root ++ [name])).foldlM
      (synthesize config false (.absolute root)) progress).on workspace = (.ok final, last)) :
    ∃ outputs : String → List GeneratedFile,
      final.records = progress.records ++
        names.flatMap (fun name => Export.recordsOf (root ++ [name]) (outputs name)) ∧
      ∀ name ∈ names, AreOutputs config (outputs name) ∧
        Synthesized config (root ++ [name]) (outputs name) workspace.disk last.disk := by
  induction names generalizing workspace progress with
  | nil =>
    obtain ⟨hfinal, -⟩ := Prod.mk.inj hok
    exact ⟨fun _ => [], by rw [← Except.ok.inj hfinal]; simp, by simp⟩
  | cons name rest ih =>
    obtain ⟨hfresh, hrest⟩ := List.nodup_cons.mp hnodup
    obtain ⟨hname, hothers⟩ := List.forall_mem_cons.mp hnames
    have hdirectory := isName_append hroot hname
    rw [List.map_cons, List.foldlM_cons] at hok
    obtain ⟨next, middle, hstep, hlater⟩ := on_bind_ok.mp hok
    obtain ⟨-, files, -, -, hrecords, hfiles, hsynthesized⟩ :=
      synthesized_of_synthesize hlayout horderly hdirectory hstep
    have hhere := (synthesize_keeps hlayout hdirectory false _).of_on hstep
    have hmiddle := hhere.orderly horderly
    have hafter := (foldlM_keeps hlayout hroot hothers next).of_on hlater
    obtain ⟨outputs, hall, heach⟩ := ih hrest hothers hmiddle hlater
    have hother : ∀ other ∈ rest, other ≠ name := by
      rintro other hmem rfl
      exact hfresh hmem
    have hkeep : ∀ other ∈ rest, Function.update outputs name files other = outputs other :=
      fun other hmem => Function.update_of_ne (hother other hmem) files outputs
    refine ⟨Function.update outputs name files, ?_, List.forall_mem_cons.mpr ⟨?_, ?_⟩⟩
    · have hrest : rest.flatMap (fun other => Export.recordsOf (root ++ [other])
          (Function.update outputs name files other)) =
          rest.flatMap fun other => Export.recordsOf (root ++ [other]) (outputs other) :=
        List.flatMap_congr fun other hmem => by rw [hkeep other hmem]
      rw [List.flatMap_cons, hrest, Function.update_self, hall, hrecords, List.append_assoc]
    · rw [Function.update_self]
      have hnothing : Untouched (root ++ [name]) workspace.disk workspace.disk := fun _ _ => rfl
      exact ⟨hfiles, hnothing.synthesized hsynthesized
        (untouched_of_changesOnly hmiddle hfresh hafter)⟩
    · intro other hmem
      rw [hkeep other hmem]
      obtain ⟨houtputs, hheld⟩ := heach other hmem
      have hbefore : Untouched (root ++ [other]) workspace.disk middle.disk :=
        @untouched_of_changesOnly config root _ _ horderly [name] other
          (by simpa using hother other hmem)
          (hhere.mono fun location hlocation => ⟨name, List.mem_cons_self, hlocation⟩)
      exact ⟨houtputs, hbefore.synthesized hheld fun _ _ => rfl⟩

/-- The generated files of a directory that was synthesized are the files that were made. -/
theorem Synthesized.generated_iff {files : List GeneratedFile} {before after : Disk}
    (h : Synthesized config directory files before after)
    (houtputs : ∀ file ∈ files, IsOutput config file.path) {name : String} :
    (isGeneratedName config name = true ∧ after.holdsFile (directory ++ [name]) = true) ↔
      name ∈ files.map GeneratedFile.path := by
  constructor
  · rintro ⟨hgenerated, hfile⟩
    by_contra hnew
    have hother : ∀ file ∈ files, directory ++ [name] ≠ directory ++ [file.path] := by
      intro file hmem heq
      obtain rfl : name = file.path := by simpa using heq
      exact hnew (List.mem_map_of_mem hmem)
    by_cases hstale : Stale config directory before (directory ++ [name])
    · simp [holdsFile, h.gone _ hother hstale] at hfile
    · have hkept := h.kept _ (List.prefix_append _ _) hother hstale
      rw [holdsFile, hkept, ← holdsFile] at hfile
      exact hstale ⟨⟨name, rfl, hgenerated⟩, hfile⟩
  · intro hmem
    obtain ⟨file, hfile, rfl⟩ := List.mem_map.mp hmem
    have houtput := houtputs file hfile
    refine ⟨by simp [isGeneratedName, houtput.marked, houtput.source], ?_⟩
    simp [holdsFile, h.made file hfile]

/-- The files of the meta package that a run makes. -/
def metaOutputs (config : Config) : List GeneratedFile :=
  if config.buildMeta then Meta.files config else []

/-- What a run makes: the files of the packages in order, and those of the meta package. -/
def batchesOf (config : Config) (above : Location) (names : List String)
    (outputs : String → List GeneratedFile) : List Batch :=
  names.map (fun name => ⟨above ++ ["stores"] ++ [name], outputs name⟩) ++
    [⟨above ++ ["storesmeta"], metaOutputs config⟩]

/-- Directories of different names are written differently, also where one name begins the other. -/
theorem nodup_openings {names : List String} (hnodup : names.Nodup)
    (outputs : String → List GeneratedFile) :
    ((batchesOf config above names outputs).map fun batch =>
      Path.opening batch.directory).Nodup := by
  have hpackage : ∀ name, (Path.opening (above ++ ["stores"] ++ [name])).toList =
      (Path.opening above).toList ++ ("stores/".toList ++ (name.toList ++ ['/'])) := by
    intro name
    rw [Path.opening_append, Path.opening_append]
    simp
  have hmeta : (Path.opening (above ++ ["storesmeta"])).toList =
      (Path.opening above).toList ++ "storesmeta/".toList := by
    rw [Path.opening_append]
    simp
  simp only [batchesOf, List.map_append, List.map_map, List.map_cons, List.map_nil]
  refine List.nodup_append.mpr ⟨hnodup.map fun name other heq => ?_, List.nodup_singleton _, ?_⟩
  · have hchars := congrArg String.toList heq
    simp only [Function.comp_apply, hpackage, List.append_cancel_left_eq,
      List.append_cancel_right_eq] at hchars
    exact String.toList_inj.mp hchars
  · intro opening hopening other hother heq
    obtain ⟨name, -, rfl⟩ := List.mem_map.mp hopening
    rw [List.mem_singleton.mp hother] at heq
    have hchars := congrArg String.toList heq
    simp only [Function.comp_apply, hpackage, hmeta, List.append_cancel_left_eq] at hchars
    simp at hchars

/-- The work of a run records what it makes. -/
theorem recorded_of_work (hlayout : config.HasDefaultNames) (horderly : workspace.disk.IsOrderly)
    {start : String} {done : Path × Progress × List FileRecord}
    (hok : (work config false (.ofString start)).on workspace = (.ok done, last)) :
    ∃ above names outputs, done.1 = .absolute (above ++ ["stores"]) ∧
      Discovery.packages config workspace.disk done.1 =
        .ok (names.map fun name => .absolute (above ++ ["stores"] ++ [name])) ∧
      Recorded config (batchesOf config above names outputs) (done.2.1.records ++ done.2.2)
        last.disk ∧
      ∀ name ∈ names, (∀ file ∈ outputs name, IsOutput config file.path) ∧
        Synthesized config (above ++ ["stores"] ++ [name]) (outputs name) workspace.disk
          last.disk := by
  obtain ⟨directories, middle, hroot, hpackages, hfold, hmeta⟩ := work_ok_iff.mp hok
  obtain ⟨above, hpath, habove, -⟩ := rootOf_eq hlayout horderly.tree horderly.cwd hroot
  have hrootNames : ∀ name ∈ above ++ ["stores"], IsName name := isName_append habove (by decide)
  rw [hpath] at hpackages hfold hmeta
  obtain ⟨names, rfl, hnodup, hnames⟩ := Discovery.packages_eq horderly.tree hrootNames hpackages
  obtain ⟨outputs, hrecords, heach⟩ :=
    recorded_of_foldlM hlayout hrootNames hnodup hnames horderly.tree hfold
  have hmiddle :=
    ((foldlM_keeps hlayout hrootNames hnames {}).of_on hfold).orderly horderly.tree
  obtain ⟨hmetaRecords, hmade⟩ : done.2.2 =
      Export.recordsOf (above ++ ["storesmeta"]) (metaOutputs config) ∧
      ∀ file ∈ metaOutputs config, last.disk.tree.get? (above ++ ["storesmeta"] ++ [file.path]) =
        some (.file file.content.toUTF8 config.fileMode) := by
    unfold metaFiles at hmeta
    unfold metaOutputs
    split_ifs at hmeta ⊢
    · exact Meta.files_of_build hlayout habove hmiddle hmeta
    · obtain ⟨hnone, -⟩ := Prod.mk.inj hmeta
      exact ⟨(Except.ok.inj hnone).symm, by simp⟩
  have hbuilt := (metaFiles_keeps hlayout habove).of_on hmeta
  have hsynthesized : ∀ name ∈ names, Synthesized config (above ++ ["stores"] ++ [name])
      (outputs name) workspace.disk last.disk := by
    intro name hname
    have hnothing : Untouched (above ++ ["stores"] ++ [name]) workspace.disk workspace.disk :=
      fun _ _ => rfl
    refine hnothing.synthesized (heach name hname).2 fun location hlocation =>
      hbuilt.same hmiddle location fun hbelow => ?_
    obtain ⟨rest, rfl⟩ := hlocation
    exact @not_below_meta above (name :: rest) _ (by simp) hbelow
  have hmetaFiles : ∀ file ∈ metaOutputs config, file ∈ Meta.files config := by
    unfold metaOutputs
    split_ifs <;> simp
  have hmetaNodup : ((metaOutputs config).map GeneratedFile.path).Nodup := by
    unfold metaOutputs
    split_ifs
    · rw [Meta.map_path_files hlayout]
      decide
    · simp
  refine ⟨above, names, outputs, hpath, by rw [hpath, hpackages], ?_, fun name hname =>
    ⟨(heach name hname).1.isOutput, hsynthesized name hname⟩⟩
  have hbatches : ∀ holds : Batch → Prop,
      (∀ name ∈ names, holds ⟨above ++ ["stores"] ++ [name], outputs name⟩) →
      holds ⟨above ++ ["storesmeta"], metaOutputs config⟩ →
      ∀ batch ∈ batchesOf config above names outputs, holds batch := by
    intro holds hpackage hlast batch hbatch
    rcases List.mem_append.mp hbatch with hbatch | hbatch
    · obtain ⟨name, hname, rfl⟩ := List.mem_map.mp hbatch
      exact hpackage name hname
    · rwa [List.mem_singleton.mp hbatch]
  refine ⟨?_, nodup_openings hnodup outputs, ?_, ?_, ?_⟩
  · rw [hrecords, hmetaRecords, batchesOf, List.flatMap_append, List.flatMap_map]
    simp
  · exact hbatches _ (fun name hname file hfile =>
      ((heach name hname).1.isOutput file hfile).slashFree) fun file hfile =>
        (Meta.isFileName_of_mem_files hlayout file (hmetaFiles file hfile)).slashFree
  · exact hbatches _ (fun name hname => (heach name hname).1.nodup) hmetaNodup
  · exact hbatches _ (fun name hname => (hsynthesized name hname).made) hmade

/-- Writes the manifest of a report, where a path for it is given. -/
def writeReport (report : RunReport) : Option Path → Action Unit
  | none => pure ()
  | some path => Export.writeManifest report.manifest path

/-- Without formatter, a run is its work, a report on it and the manifest's file. -/
theorem run_eq_writeReport (hformatter : config.runFormatter = false) (dryRun : Bool)
    (start : Path) (manifestPath : Option Path) (timestamp : String) :
    run config dryRun start manifestPath timestamp = (do
      let done ← work config dryRun start
      writeReport (reportOn config dryRun timestamp done) manifestPath
      return reportOn config dryRun timestamp done) := by
  cases manifestPath with
  | none =>
    rw [run_eq hformatter]
    simp only [writeReport, pure_bind]
  | some path =>
    cases hmeta : config.buildMeta <;>
      simp only [run, work, metaFiles, writeReport, hformatter, hmeta, Bool.false_and,
        Bool.false_eq_true, if_false, if_true, bind_assoc, pure_bind] <;> rfl

/-- The places of files that a run records: those of generated files in the package directories, and
those of the meta package. -/
def RecordedPlace (config : Config) (root : Path) (directories : List Path)
    (location : Location) : Prop :=
  (∃ directory ∈ directories, Generated config directory.parts location) ∨
    ∃ file ∈ metaOutputs config, location = (Meta.directory config root).parts ++ [file.path]

/-- After a successful run whose manifest goes to none of the recorded places, the generated files
of the package directories are those that the manifest records, each once, and every record
describes the content that stands at its path. -/
theorem manifest_exact (hlayout : config.HasDefaultNames)
    (hformatter : config.runFormatter = false) {disk : Disk} (horderly : disk.tree.IsOrderly)
    (hcwd : ∀ name ∈ disk.cwd, IsName name) {start timestamp : String} {manifest : Option String}
    {root : Path} {directories : List Path} {report : RunReport} {after : Workspace}
    (hroot : rootOf config disk (.ofString start) = .ok root)
    (hpackages : Discovery.packages config disk root = .ok directories)
    (hmanifest : ∀ path, manifest = some path →
      ¬ RecordedPlace config root directories (disk.spelled (.ofString path)))
    (hok : (run config false (.ofString start) (manifest.map .ofString) timestamp).runOn disk =
      (.ok report, after)) :
    (report.manifest.files.map FileRecord.path).Nodup ∧
    (∀ directory ∈ directories, ∀ name, '/' ∉ name.toList →
      ((isGeneratedName config name = true ∧
          after.disk.holdsFile (directory.parts ++ [name]) = true) ↔
        (Path.absolute (directory.parts ++ [name])).render ∈
          report.manifest.files.map FileRecord.path)) ∧
    ∀ record ∈ report.manifest.files, ∃ location content mode,
      record.path = (Path.absolute location).render ∧
      after.disk.tree.get? location = some (.file content mode) ∧ record.Describes content := by
  rw [run_eq_writeReport hformatter] at hok
  obtain ⟨done, later, hwork, hok⟩ := on_bind_ok.mp hok
  obtain ⟨_, written, hwrite, hpure⟩ := on_bind_ok.mp hok
  obtain ⟨hreport, rfl⟩ := Prod.mk.inj hpure
  obtain rfl := Except.ok.inj hreport
  have hdisk : disk.IsOrderly := ⟨horderly, hcwd⟩
  obtain ⟨above, names, outputs, hpath, hnames, hrecorded, heach⟩ :=
    @recorded_of_work config { disk } later hlayout hdisk _ _ hwork
  obtain ⟨_, _, hroot', -⟩ := work_ok_iff.mp hwork
  obtain rfl : done.1 = root := Except.ok.inj (hroot'.symm.trans hroot)
  obtain rfl := Except.ok.inj (hnames.symm.trans hpackages)
  have hworked : KeepsFiles (fun _ => True) disk later.disk := by
    have hkept := @work_keepsFiles config { disk } hlayout hdisk start (fun _ => True)
      fun _ _ _ _ => trivial
    rwa [hwork] at hkept
  have hlater := hworked.isOrderly hdisk
  have hkept : KeepsFiles (fun location => ∃ path, manifest = some path ∧
      location = disk.spelled (.ofString path)) later.disk written.disk := by
    cases manifest with
    | none =>
      obtain ⟨-, rfl⟩ := Prod.mk.inj hwrite
      exact refl_of _ _
    | some path =>
      have hspelled : later.disk.spelled (.ofString path) = disk.spelled (.ofString path) := by
        rw [spelled, spelled, Disk.start, Disk.start, hworked.cwd hdisk]
      have hput := Export.writeManifest_keepsFiles hlater (hasParts_ofString path)
        (reportOn config false timestamp done).manifest
      rw [show (Export.writeManifest (reportOn config false timestamp done).manifest
        (.ofString path)).on later = _ from hwrite, hspelled] at hput
      exact hput.mono fun location hlocation => ⟨path, rfl, hlocation⟩
  have hstands := hrecorded.keepsFiles hlater hkept (by
    rintro batch hbatch file hfile ⟨path, hsome, heq⟩
    refine hmanifest path hsome (heq ▸ ?_)
    rcases List.mem_append.mp hbatch with hbatch | hbatch
    · obtain ⟨name, hname, rfl⟩ := List.mem_map.mp hbatch
      have houtput := (heach name hname).1 file hfile
      exact Or.inl ⟨_, List.mem_map_of_mem hname, file.path, rfl,
        by simp [isGeneratedName, houtput.marked, houtput.source]⟩
    · rw [List.mem_singleton.mp hbatch] at hfile ⊢
      refine Or.inr ⟨file, hfile, ?_⟩
      rw [hpath, Meta.directory_absolute hlayout]
      rfl)
  refine ⟨hstands.nodup_paths, fun directory hdirectory name hslash => ?_, fun record hrecord =>
    hstands.describes hrecord⟩
  obtain ⟨package, hpackage, rfl⟩ := List.mem_map.mp hdirectory
  obtain ⟨houtputs, hsynthesized⟩ := heach package hpackage
  have hbatch : (⟨above ++ ["stores"] ++ [package], outputs package⟩ : Batch) ∈
      batchesOf config above names outputs :=
    List.mem_append_left _ (List.mem_map_of_mem hpackage)
  refine Iff.trans (and_congr_right fun hgenerated => ?_)
    ((hsynthesized.generated_iff houtputs).trans (hstands.mem_paths_iff hbatch hslash).symm)
  have hout : ¬ ∃ path, manifest = some path ∧
      above ++ ["stores"] ++ [package] ++ [name] = disk.spelled (.ofString path) := by
    rintro ⟨path, hsome, heq⟩
    exact hmanifest path hsome (heq ▸ Or.inl ⟨_, hdirectory, name, rfl, hgenerated⟩)
  simp only [holdsFile_iff]
  exact exists_congr fun content => exists_congr fun mode =>
    hkept.files hlater _ hout content mode

/-- What the work of a run leaves of the sample. -/
def workedDisk (store : String) : Disk :=
  finalDisk (sampleEntity.render sampleConfig) (sampleEntity.testText sampleConfig) store

/-- A run on the sample that writes its manifest to a vacant place of a directory. -/
private theorem run_sample {directory : Location} {name path : String}
    (hpath : Path.ofString path = .absolute (directory ++ [name]))
    (habove : ∀ store, (workedDisk store).find (.absolute directory) =
      .ok (.taken directory .plainDirectory))
    (hwrite : ∀ store content, (workedDisk store).writeFile (.absolute (directory ++ [name]))
      content = .ok { workedDisk store with
        tree := (workedDisk store).tree.put (directory ++ [name]) (.file content 0o644) }) :
    ∃ report after,
      (run sampleConfig false (.ofString "/") (some (.ofString path)) "now").runOn
        (sampleDisk [staleFile]) = (.ok report, after) ∧
      report.manifest.files.map FileRecord.path = samplePaths ++ sampleMetaPaths ∧
      after.disk.holdsFile (directory ++ [name]) = true := by
  obtain ⟨store, done, hrecords, hmeta, hwork⟩ := work_sample_on
  have hensure : (Export.ensureAbove (.absolute (directory ++ [name]))).on
      ⟨workedDisk store, sampleNotices⟩ = (.ok (), ⟨workedDisk store, sampleNotices⟩) := by
    rw [Export.ensureAbove, on_disk_bind, Path.parent_absolute, habove]
    rfl
  have hreport : (writeReport (reportOn sampleConfig false "now" done)
      (some (.absolute (directory ++ [name])))).on ⟨workedDisk store, sampleNotices⟩ =
      (.ok (), ⟨{ workedDisk store with
        tree := (workedDisk store).tree.put (directory ++ [name]) (.file
          ((reportOn sampleConfig false "now" done).manifest.render 2 ++ "\n").toUTF8 0o644) },
        sampleNotices⟩) :=
    on_bind_ok.mpr ⟨(), _, hensure, on_change_ok.mpr ⟨_, hwrite store _, rfl⟩⟩
  refine ⟨reportOn sampleConfig false "now" done, ⟨{ workedDisk store with
    tree := (workedDisk store).tree.put (directory ++ [name]) (.file
      ((reportOn sampleConfig false "now" done).manifest.render 2 ++ "\n").toUTF8 0o644) },
    sampleNotices⟩, ?_, ?_, ?_⟩
  · rw [run_eq_writeReport rfl, hpath]
    exact on_bind_ok.mpr ⟨done, _, hwork, on_bind_ok.mpr ⟨(), _, hreport, rfl⟩⟩
  · simp [reportOn, hrecords, hmeta]
  · simp [holdsFile, get?_put]

/-- A manifest beside the stores root leaves the sample's five records exact. -/
theorem manifest_exact_sample :
    ∃ report after,
      (run sampleConfig false (.ofString "/") (some (.ofString "/manifest.json")) "now").runOn
        (sampleDisk [staleFile]) = (.ok report, after) ∧
      report.manifest.files.length = 5 ∧
      (report.manifest.files.map FileRecord.path).Nodup ∧
      after.disk.holdsFile ["stores", "a", "a_synthesized.go"] = true ∧
      after.disk.holdsFile ["stores", "a", "old_synthesized.go"] = false ∧
      ∀ record ∈ report.manifest.files, ∃ location content mode,
        record.path = (Path.absolute location).render ∧
        after.disk.tree.get? location = some (.file content mode) ∧ record.Describes content := by
  obtain ⟨report, after, hrun, hpaths, -⟩ := @run_sample [] "manifest.json" "/manifest.json"
    (by decide) (fun _ => rfl) (fun _ _ => rfl)
  have hspelled : (sampleDisk [staleFile]).spelled (.ofString "/manifest.json") =
      ["manifest.json"] := by decide
  have hmeta : (Meta.directory sampleConfig (.absolute ["stores"])).parts = ["storesmeta"] := by
    decide
  obtain ⟨hnodup, hiff, hdescribes⟩ := @manifest_exact sampleConfig ⟨rfl, rfl, rfl, rfl, rfl, rfl⟩
    rfl (sampleDisk [staleFile]) (IsPlain.of_isPlain (by decide)).toIsOrderly
    (by simp [sampleDisk]) "/" "now" (some "/manifest.json") (.absolute ["stores"])
    [.absolute ["stores", "a"]] report after rfl packages_sample
    (by
      rintro path hpath hplace
      obtain rfl := Option.some.inj hpath
      rcases hplace with ⟨directory, hdirectory, name, heq, -⟩ | ⟨file, -, heq⟩
      · rw [List.mem_singleton.mp hdirectory, hspelled] at heq
        simp [Path.absolute] at heq
      · rw [hspelled, hmeta] at heq
        simp at heq) hrun
  have hlength := congrArg List.length hpaths
  have hheld := hiff (.absolute ["stores", "a"]) List.mem_cons_self
  rw [hpaths] at hheld
  refine ⟨report, after, hrun, by simpa [samplePaths, sampleMetaPaths] using hlength, hnodup,
    ((hheld "a_synthesized.go" (by decide)).mpr (by decide)).2, ?_, hdescribes⟩
  by_contra hstale
  exact absurd ((hheld "old_synthesized.go" (by decide)).mp
    ⟨by decide, (Bool.not_eq_false _).mp hstale⟩) (by decide)

/-- A manifest that goes to the place of a generated file is a generated file without a record. -/
theorem manifest_among_generated :
    ∃ report after,
      (run sampleConfig false (.ofString "/")
        (some (.ofString "/stores/a/m_synthesized.go")) "now").runOn (sampleDisk [staleFile]) =
          (.ok report, after) ∧
      Discovery.packages sampleConfig (sampleDisk [staleFile]) (.absolute ["stores"]) =
        .ok [.absolute ["stores", "a"]] ∧
      isGeneratedName sampleConfig "m_synthesized.go" = true ∧
      after.disk.holdsFile ["stores", "a", "m_synthesized.go"] = true ∧
      "/stores/a/m_synthesized.go" ∉ report.manifest.files.map FileRecord.path := by
  obtain ⟨report, after, hrun, hpaths, hheld⟩ := @run_sample ["stores", "a"] "m_synthesized.go"
    "/stores/a/m_synthesized.go" (by decide) (fun _ => rfl) (fun _ _ => rfl)
  refine ⟨report, after, hrun, packages_sample, by decide, hheld, ?_⟩
  rw [hpaths]
  decide

end Run

end Scaffold
