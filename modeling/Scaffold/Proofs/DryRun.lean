import Scaffold.Proofs.Idempotence
import Scaffold.Proofs.Writing

/-!
# A dry run foretells the run

A dry run changes nothing, and it ends as the run from the same disk does, with the same report or
the same error, as long as the disk refuses no change. What is prepared for a package does not
depend on what was written for the packages before it, so the two go side by side.
-/

namespace Scaffold

open Tree Disk Action

variable {config : Config} {above directory root : Location} {workspace dry real : Workspace}

namespace Action

variable {α β : Type}

/-- One action ends on its workspace as another one does on its own, unless a change is refused
there. -/
def Foretells (first second : Action α) (dry real : Workspace) : Prop :=
  (∀ error later, second.on real = (.error error, later) → error.isRefusedChange = false) →
    (first.on dry).1 = (second.on real).1

theorem Foretells.bind {first second : Action α} {next next' : α → Action β}
    (h : Foretells first second dry real)
    (hnext : ∀ value dryLater realLater, first.on dry = (.ok value, dryLater) →
      second.on real = (.ok value, realLater) →
      Foretells (next value) (next' value) dryLater realLater) :
    Foretells (first >>= next) (second >>= next') dry real := by
  intro hchanges
  rw [on_bind, on_bind]
  rw [on_bind] at hchanges
  have houtcome := h fun error later hon => by
    rw [hon] at hchanges
    exact hchanges error later rfl
  rcases hdry : first.on dry with ⟨outcome, dryLater⟩
  rcases hreal : second.on real with ⟨outcome', realLater⟩
  rw [hdry, hreal] at houtcome
  obtain rfl : outcome = outcome' := houtcome
  cases outcome with
  | error error => rfl
  | ok value =>
    rw [hreal] at hchanges
    exact hnext value dryLater realLater hdry hreal hchanges

theorem Foretells.pure (value : α) : Foretells (Pure.pure value) (Pure.pure value) dry real :=
  fun _ => rfl

/-- A step that does not look at the disk. -/
theorem Foretells.ofExcept_bind {outcome : Except Error α} {next next' : α → Action β}
    (h : ∀ value, outcome = .ok value → Foretells (next value) (next' value) dry real) :
    Foretells (Action.ofExcept outcome >>= next) (Action.ofExcept outcome >>= next') dry real := by
  refine .bind (fun _ => by rw [on_ofExcept, on_ofExcept])
    fun value dryLater realLater hdry hreal => ?_
  rw [on_ofExcept] at hdry hreal
  obtain ⟨hvalue, rfl⟩ := Prod.mk.inj hdry
  obtain ⟨-, rfl⟩ := Prod.mk.inj hreal
  exact h value hvalue

end Action

namespace Disk

variable {disk : Disk}

/-- What is done to a directory that can be asked for is refused for another reason, if at all. -/
theorem directory_ne_unspeakable (h : disk.tree.IsOrderly)
    (hnames : ∀ name ∈ directory, IsName name) (hspeakable : Speakable directory) :
    disk.emptyDirectory (.absolute directory) ≠ .error .unspeakable ∧
      disk.removeEmpty (.absolute directory) ≠ .error .unspeakable ∧
      ∀ mode, disk.makeDirectory mode (.absolute directory) ≠ .error .unspeakable := by
  simp only [emptyDirectory, removeEmpty, makeDirectory, findEntry_absolute h hnames, displace,
    place]
  have hfind := find_ne_unspeakable h hnames hspeakable
  obtain ⟨node, hnode, -⟩ | ⟨hvacant, -⟩ | ⟨fault, hfault⟩ := find_cases h hnames
  · rw [hnode]
    cases node with
    | directory mode => refine ⟨?_, ?_, fun _ => by simp⟩ <;> (simp only; split_ifs <;> simp)
    | file content mode => simp
    | link target => simp
  · rw [hvacant]
    refine ⟨by simp, by simp, fun _ => ?_⟩
    simp only
    split_ifs <;> simp
  · rw [hfault] at hfind ⊢
    have hother : fault ≠ .unspeakable := by simpa using hfind
    simpa using hother

end Disk

namespace Meta

/-- The files of the meta package. -/
def files (config : Config) : List GeneratedFile :=
  [⟨config.fileName config.metaDirectoryName, (file config).render⟩,
    ⟨config.testFileName config.metaDirectoryName, (testFile config).render⟩]

theorem map_path_files (hlayout : config.HasDefaultNames) :
    (files config).map GeneratedFile.path = ["storesmeta.go", "storesmeta_test.go"] := by
  simp [files, Config.testFileName, Config.fileName, hlayout.metaDirectoryName,
    hlayout.sourceExtension, hlayout.testFileSuffix]

theorem isFileName_of_mem_files (hlayout : config.HasDefaultNames) :
    ∀ file ∈ files config, IsFileName file.path := by
  have hall : ∀ name ∈ ["storesmeta.go", "storesmeta_test.go"], IsFileName name := by
    simp only [List.forall_mem_cons]
    exact ⟨⟨by decide, by decide, by decide⟩, ⟨by decide, by decide, by decide⟩,
      List.forall_mem_nil _⟩
  exact fun file hfile => hall _ (map_path_files hlayout ▸ List.mem_map_of_mem hfile)

theorem fill_eq (directory : Path) :
    fill config directory = (do
      Action.change .recreateMeta directory fun disk =>
        disk.makeDirectory config.directoryMode directory
      Export.writeAll config false directory (files config)) := by
  simp only [fill, Export.writeAll, files, List.mapM_cons, List.mapM_nil, bind_assoc, pure_bind]

/-- The directory is taken away, or the disk refuses. -/
theorem vacate_cases (hnames : ∀ name ∈ directory, IsName name)
    (hspeakable : Speakable directory) (horderly : workspace.disk.tree.IsOrderly) :
    (∃ reason path later, (vacate (.absolute directory)).on workspace =
      (.error (.fault (.file .recreateMeta reason) path), later)) ∨
    ∃ later, (vacate (.absolute directory)).on workspace = (.ok (), later) := by
  rw [vacate, on_disk_bind]
  split_ifs with htaken
  · rw [on_bind]
    rcases @on_change_cases workspace .recreateMeta (.absolute directory)
      (fun disk => disk.emptyDirectory (.absolute directory))
      (directory_ne_unspeakable horderly hnames hspeakable).1 with
      ⟨disk, hdisk, hon⟩ | ⟨reason, hon⟩
    · rw [hon]
      obtain rfl := clear_of_emptyDirectory horderly hnames hdisk
      rcases @on_change_cases { workspace with disk := { workspace.disk with
          tree := workspace.disk.tree.clear directory } } .recreateMeta (.absolute directory)
        (fun disk => disk.removeEmpty (.absolute directory))
        (directory_ne_unspeakable horderly.clear hnames hspeakable).2.1 with ⟨disk, -, hon'⟩ |
          ⟨reason, hon'⟩
      · exact Or.inr ⟨_, hon'⟩
      · exact Or.inl ⟨_, _, _, hon'⟩
    · rw [hon]
      exact Or.inl ⟨_, _, _, rfl⟩
  · exact Or.inr ⟨workspace, rfl⟩

/-- The meta package is filled with its files, or the disk refuses. -/
theorem fill_cases (hlayout : config.HasDefaultNames) {name : String}
    (habove : ∀ name ∈ above, IsName name) (hname : IsName name)
    (hspeakable : Speakable (above ++ [name])) (horderly : workspace.disk.tree.IsOrderly) :
    (∃ error later, (fill config (.absolute (above ++ [name]))).on workspace =
      (.error error, later) ∧ error.isRefusedChange = true) ∨
    ∃ later, (fill config (.absolute (above ++ [name]))).on workspace =
      (.ok (Export.recordsOf (above ++ [name]) (files config)), later) := by
  have hnames := isName_append habove hname
  rw [fill_eq, on_bind]
  rcases @on_change_cases workspace .recreateMeta (.absolute (above ++ [name]))
    (fun disk => disk.makeDirectory config.directoryMode (.absolute (above ++ [name])))
    ((directory_ne_unspeakable horderly hnames hspeakable).2.2 _) with ⟨disk, hdisk, hon⟩ |
      ⟨reason, hon⟩
  · obtain ⟨rfl, -⟩ := put_of_makeDirectory horderly habove hname hdisk
    rw [hon]
    have hmade := horderly.put (show above ++ [name] ≠ [] by simp) hnames
      (show ∀ target, Node.directory (maskedMode config.directoryMode) ≠ .link target by simp)
    rcases @Export.writeAll_cases config (above ++ [name]) { workspace with
        disk := { workspace.disk with
          tree := workspace.disk.tree.put (above ++ [name])
            (.directory (maskedMode config.directoryMode)) } } hmade hnames hspeakable _
      (isFileName_of_mem_files hlayout) with ⟨reason, path, later, hwrite⟩ | hwrite
    · exact Or.inl ⟨_, later, hwrite, rfl⟩
    · exact Or.inr ⟨_, hwrite⟩
  · rw [hon]
    exact Or.inl ⟨_, _, rfl, rfl⟩

/-- The meta package is made and recorded, or the disk refuses. -/
theorem build_cases (hlayout : config.HasDefaultNames) (habove : ∀ name ∈ above, IsName name)
    (hspeakable : Speakable above) (horderly : workspace.disk.tree.IsOrderly) {name : String} :
    (∃ error later, (build config false (.absolute (above ++ [name]))).on workspace =
      (.error error, later) ∧ error.isRefusedChange = true) ∨
    ∃ later, (build config false (.absolute (above ++ [name]))).on workspace =
      (.ok (Export.recordsOf (above ++ ["storesmeta"]) (files config)), later) := by
  have hname : IsName "storesmeta" := by decide
  have hnames := isName_append habove hname
  have hmeta := speakable_append hspeakable (show '\x00' ∉ "storesmeta".toList by decide)
  rw [build_eq, directory_absolute hlayout, on_bind]
  rcases vacate_cases hnames hmeta horderly with ⟨reason, path, later, hon⟩ | ⟨later, hon⟩ <;>
    rw [hon]
  · exact Or.inl ⟨_, later, rfl, rfl⟩
  · exact fill_cases hlayout habove hname hmeta
      (((vacate_keeps hnames).of_on hon).orderly horderly)

/-- A dry run records the meta package. -/
theorem build_dry (hlayout : config.HasDefaultNames) {name : String} :
    (build config true (.absolute (above ++ [name]))).on workspace =
      (.ok (Export.recordsOf (above ++ ["storesmeta"]) (files config)), workspace) := by
  have heq : build config true (.absolute (above ++ [name])) =
      Export.writeAll config true (directory config (.absolute (above ++ [name])))
        (files config) := by
    simp only [build, Export.writeAll, files, List.mapM_cons, List.mapM_nil, bind_assoc, pure_bind,
      Bool.not_true, Bool.false_eq_true, if_false]
  rw [heq, directory_absolute hlayout]
  exact Export.writeAll_dry (isFileName_of_mem_files hlayout)

end Meta

namespace Run

open Aggregation

/-- A package is tried as it is synthesized, wherever the disks agree around its directory. -/
theorem synthesize_foretells (hlayout : config.HasDefaultNames)
    (hroot : ∀ name ∈ root, IsName name) (hdirectory : ∀ name ∈ directory, IsName name)
    (hdry : dry.disk.tree.IsOrderly) (hreal : real.disk.tree.IsOrderly)
    (hsame : Agree (Around directory) dry.disk.tree real.disk.tree) (progress : Progress) :
    Foretells (synthesize config true (.absolute root) progress (.absolute directory))
      (synthesize config false (.absolute root) progress (.absolute directory)) dry real := by
  intro hchanges
  rw [synthesize_dry hlayout, prepared_congr hlayout hdry hreal hroot hdirectory hsame]
  cases himport : Discovery.importPath config real.disk (.absolute directory) (.absolute root) with
  | error error =>
    obtain ⟨hon, hprepared⟩ := @prepare_error config real false (.absolute root)
      (.absolute directory) error (Or.inl himport)
    rw [hprepared, synthesize_eq_prepare, on_bind, hon]
    rfl
  | ok importPath =>
    rcases @synthesize_cases config directory real (.absolute root) progress importPath hlayout
      hreal hdirectory himport with
      ⟨error, later, hon, hrefused⟩ | ⟨error, later, hprepared, hon⟩ |
      ⟨ready, cleaned, later, hprepared, hon, -⟩
    · rw [hchanges error later hon] at hrefused
      cases hrefused
    · rw [hprepared, hon]
      rfl
    · rw [hprepared, hon]
      rfl

/-- Packages are tried one after the other as they are synthesized: what is written for one does not
lie around another. -/
theorem foldlM_foretells (hlayout : config.HasDefaultNames) (hroot : ∀ name ∈ root, IsName name)
    {names : List String} (hnodup : names.Nodup) (hnames : ∀ name ∈ names, IsName name)
    (hdry : dry.disk.tree.IsOrderly) (hreal : real.disk.tree.IsOrderly)
    (hsame : ∀ name ∈ names, Agree (Around (root ++ [name])) dry.disk.tree real.disk.tree)
    (progress : Progress) :
    Foretells ((names.map fun name => Path.absolute (root ++ [name])).foldlM
        (synthesize config true (.absolute root)) progress)
      ((names.map fun name => Path.absolute (root ++ [name])).foldlM
        (synthesize config false (.absolute root)) progress) dry real := by
  induction names generalizing dry real progress with
  | nil => exact .pure progress
  | cons name rest ih =>
    obtain ⟨hfresh, hrest⟩ := List.nodup_cons.mp hnodup
    rw [List.forall_mem_cons] at hnames hsame
    have hdirectory := isName_append hroot hnames.1
    simp only [List.map_cons, List.foldlM_cons]
    refine .bind (synthesize_foretells hlayout hroot hdirectory hdry hreal hsame.1 progress)
      fun next dryLater realLater hdryOn hrealOn => ?_
    have hdryKept := (synthesize_dry_keeps _ _ _).of_on hdryOn
    have hrealKept := (synthesize_keeps hlayout hdirectory false _).of_on hrealOn
    refine ih hrest hnames.2 (hdryKept ▸ hdry) (hrealKept.orderly hreal) ?_ next
    intro other hother location hlocation
    have hne : other ≠ name := by
      rintro rfl
      exact hfresh hother
    rw [hrealKept.same hreal location (not_generated_of_around hne hlocation), ← hdryKept]
    exact hsame.2 other hother location hlocation

theorem metaFiles_foretells (hlayout : config.HasDefaultNames)
    (habove : ∀ name ∈ above, IsName name) (hspeakable : Speakable above)
    (hreal : real.disk.tree.IsOrderly) :
    Foretells (metaFiles config true (.absolute (above ++ ["stores"])))
      (metaFiles config false (.absolute (above ++ ["stores"]))) dry real := by
  unfold metaFiles
  split_ifs
  · intro hchanges
    rw [Meta.build_dry hlayout]
    rcases @Meta.build_cases config above real hlayout habove hspeakable hreal "stores" with
      ⟨error, later, hon, hrefused⟩ | ⟨later, hon⟩
    · rw [hchanges error later hon] at hrefused
      cases hrefused
    · rw [hon]
  · exact .pure []

/-- The work of a run is tried as it is done. -/
theorem work_foretells (hlayout : config.HasDefaultNames) (horderly : workspace.disk.tree.IsOrderly)
    (hcwd : ∀ name ∈ workspace.disk.cwd, IsName name) (hspeakable : Speakable workspace.disk.cwd)
    (start : String) :
    Foretells (work config true (.ofString start)) (work config false (.ofString start)) workspace
      workspace := by
  refine .bind (fun _ => rfl) ?_
  rintro disk _ _ ⟨⟩ ⟨⟩
  refine .ofExcept_bind fun root hroot => ?_
  obtain ⟨above, rfl, habove, hasked⟩ := rootOf_eq hlayout horderly hcwd hroot
  have hrootNames : ∀ name ∈ above ++ ["stores"], IsName name :=
    isName_append habove (by decide)
  refine .bind (fun _ => rfl) ?_
  rintro disk _ _ ⟨⟩ ⟨⟩
  refine .ofExcept_bind fun directories hpackages => ?_
  obtain ⟨names, rfl, hnodup, hnames⟩ := Discovery.packages_eq horderly hrootNames hpackages
  refine .bind (foldlM_foretells hlayout hrootNames hnodup hnames horderly horderly
    (fun _ _ _ _ => rfl) {}) fun progress dryLater realLater hdryOn hrealOn => ?_
  have hkept := (foldlM_keeps hlayout hrootNames hnames {}).of_on hrealOn
  exact .bind (metaFiles_foretells hlayout habove (hasked hspeakable) (hkept.orderly horderly))
    fun records _ _ _ _ => .pure _

/-- What a report tells about the work, whether it was done or only tried. -/
def figures (report : RunReport) : List String × Int × Int × Int × List FileRecord :=
  (report.packages, report.totalEntities, report.totalFiles, report.totalBytes,
    report.manifest.files)

/-- A dry run leaves the disk as it is. Unless the disk refuses a change to the run, the two fail
with the same error, or both succeed with the same figures and the same records. -/
theorem dry_run_foretells (hlayout : config.HasDefaultNames)
    (hformatter : config.runFormatter = false) {disk : Disk} (horderly : disk.tree.IsOrderly)
    (hcwd : ∀ name ∈ disk.cwd, IsName name) (hspeakable : Speakable disk.cwd)
    (start dryTime realTime : String) :
    ((run config true (.ofString start) none dryTime).runOn disk).2.disk = disk ∧
      ((∀ error, ((run config false (.ofString start) none realTime).runOn disk).1 = .error error →
          error.isRefusedChange = false) →
        ((run config true (.ofString start) none dryTime).runOn disk).1.map figures =
          ((run config false (.ofString start) none realTime).runOn disk).1.map figures) := by
  have hon : ∀ dryRun timestamp, (run config dryRun (.ofString start) none timestamp).runOn disk =
      match (work config dryRun (.ofString start)).on { disk } with
      | (.ok done, later) => (.ok (reportOn config dryRun timestamp done), later)
      | (.error error, later) => (.error error, later) := by
    intro dryRun timestamp
    rw [run_eq hformatter]
    change (_ >>= fun _ => pure _ : Action RunReport).on { disk } = _
    rw [on_bind]
    rcases (work config dryRun (.ofString start)).on { disk } with ⟨error | done, later⟩ <;> rfl
  rw [hon, hon]
  constructor
  · have hkept := @work_dry_keeps config (.ofString start) { disk }
    rcases hdry : (work config true (.ofString start)).on { disk } with ⟨error | done, later⟩ <;>
      rw [hdry] at hkept <;> exact hkept.symm
  · intro hchanges
    have houtcome := @work_foretells config { disk } hlayout horderly hcwd hspeakable start
      fun error later hreal => by
        rw [hreal] at hchanges
        exact hchanges error rfl
    rcases hdry : (work config true (.ofString start)).on { disk } with ⟨outcome, dryLater⟩
    rcases hreal : (work config false (.ofString start)).on { disk } with ⟨outcome', realLater⟩
    rw [hdry, hreal] at houtcome
    obtain rfl : outcome = outcome' := houtcome
    cases outcome <;> rfl

/-- A dry run tells the five files of a run, and leaves the stale file that the run removes. -/
theorem dry_run_foretells_sample :
    ∃ report report' after after',
      (run sampleConfig false (.ofString "/") none "later").runOn (sampleDisk [staleFile]) =
        (.ok report, after) ∧
      (run sampleConfig true (.ofString "/") none "now").runOn (sampleDisk [staleFile]) =
        (.ok report', after') ∧
      after'.disk = sampleDisk [staleFile] ∧ figures report' = figures report ∧
      report.manifest.files.length = 5 := by
  obtain ⟨done, later, hpackage, hmeta, hwork⟩ := work_sample
  have hreal : (run sampleConfig false (.ofString "/") none "later").runOn
      (sampleDisk [staleFile]) = (.ok (reportOn sampleConfig false "later" done), later) := by
    rw [run_eq rfl]
    exact on_bind_ok.mpr ⟨done, later, hwork, rfl⟩
  have horderly : (sampleDisk [staleFile]).tree.IsPlain := .of_isPlain (by decide)
  obtain ⟨hdisk, hsame⟩ := @dry_run_foretells sampleConfig ⟨rfl, rfl, rfl, rfl, rfl, rfl⟩ rfl
    (sampleDisk [staleFile]) horderly.toIsOrderly (List.forall_mem_nil _) (List.forall_mem_nil _)
    "/" "now" "later"
  have hfigures := hsame (by rw [hreal]; exact fun _ h => nomatch h)
  rcases hdry : (run sampleConfig true (.ofString "/") none "now").runOn
    (sampleDisk [staleFile]) with ⟨error | report', after'⟩ <;> rw [hdry, hreal] at hfigures
  · cases hfigures
  · rw [hdry] at hdisk
    exact ⟨_, report', later, after', hreal, rfl, hdisk, Except.ok.inj hfigures,
      by simp [reportOn, hpackage, hmeta]⟩

end Run

end Scaffold
