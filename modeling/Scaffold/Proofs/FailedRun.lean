import Scaffold.Proofs.DistinctOutputs
import Scaffold.Proofs.Idempotence
import Scaffold.Proofs.Writing

/-!
# What a failed run leaves

A run that fails at a package has finished the packages before it and has not begun those after it.
The directory of the package itself has been cleaned and holds nothing new.
-/

namespace Scaffold

open Tree Disk Action

variable {config : Config} {directory root : Location} {workspace last : Workspace}
  {first before after later : Disk} {files : List GeneratedFile}

namespace Export

theorem get?_written_of_ne {tree : Tree} {location : Location}
    (h : ∀ file ∈ files, location ≠ directory ++ [file.path]) :
    (written config directory files tree).get? location = tree.get? location := by
  induction files generalizing tree with
  | nil => rfl
  | cons file rest ih =>
    rw [List.forall_mem_cons] at h
    refine (ih h.2).trans ?_
    rw [get?_put (by simp), if_neg h.1]

/-- Files with distinct names stand where they were put. -/
theorem get?_written_of_mem {tree : Tree} (hnodup : (files.map GeneratedFile.path).Nodup)
    {file : GeneratedFile} (hfile : file ∈ files) :
    (written config directory files tree).get? (directory ++ [file.path]) =
      some (.file file.content.toUTF8 config.fileMode) := by
  induction files generalizing tree with
  | nil => cases hfile
  | cons head rest ih =>
    obtain ⟨hfresh, hrest⟩ := List.nodup_cons.mp hnodup
    rcases List.mem_cons.mp hfile with rfl | hmem
    · refine (@get?_written_of_ne config directory rest (tree.put (directory ++ [file.path])
        (.file file.content.toUTF8 config.fileMode)) _ fun other hother heq => hfresh ?_).trans ?_
      · have hpath : other.path = file.path := by simpa using heq.symm
        exact hpath ▸ List.mem_map_of_mem hother
      · rw [get?_put (by simp), if_pos rfl]
    · exact ih hrest hmem

end Export

namespace Discovery

/-- Every package is a directory. -/
theorem find_of_mem_packages (horderly : first.tree.IsOrderly)
    (hdirectory : ∀ name ∈ directory, IsName name) {path : Path} {directories : List Path}
    (hok : packages config first path = .ok directories)
    (hmem : .absolute directory ∈ directories) :
    ∃ mode, first.find (.absolute directory) = .ok (.taken directory (.directory mode)) := by
  unfold packages at hok
  split at hok
  · cases hok
  · cases hok
  · simp only [Outcome.bind_eq_ok_iff] at hok
    obtain ⟨names, -, verdicts, hverdicts, hfiltered⟩ := hok
    obtain rfl := Except.ok.inj hfiltered
    obtain ⟨⟨_, verdict⟩, hverdict, rfl⟩ := List.mem_map.mp hmem
    obtain ⟨hverdict, hyes⟩ := List.mem_filter.mp hverdict
    obtain ⟨entry, -, hentry⟩ := Outcome.exists_of_mapM hverdicts _ hverdict
    obtain ⟨answer, hanswer, hpair⟩ : ∃ answer, isPackage config first entry = .ok answer ∧
        (entry, answer) = (.absolute directory, verdict) := by
      cases hpackage : isPackage config first entry with
      | error error => simp [hpackage, Except.map] at hentry
      | ok answer => exact ⟨answer, rfl, by simpa [hpackage, Except.map] using hentry⟩
    obtain ⟨rfl, rfl⟩ := Prod.mk.inj hpair
    obtain ⟨node, hnode, -⟩ | ⟨hvacant, -⟩ | ⟨fault, hfault⟩ := find_cases horderly hdirectory
    · cases node <;> simp_all [isPackage]
    · simp_all [isPackage]
    · cases fault <;> simp_all [isPackage]

/-- Without links, an entry of the stores root that can be asked for has an import path. -/
theorem exists_importPath {name : String} (horderly : first.tree.IsOrderly)
    (hnames : ∀ other ∈ root ++ [name], IsName other) (hspeakable : Speakable (root ++ [name])) :
    ∃ importPath, Discovery.importPath config first (.absolute (root ++ [name]))
      (.absolute root) = .ok importPath := by
  have hroot : ∀ other ∈ root, IsName other :=
    fun other hother => hnames other (List.mem_append_left _ hother)
  have hspeakableRoot : Speakable root :=
    fun other hother => hspeakable other (List.mem_append_left _ hother)
  have hrelative : relative? first (.absolute (root ++ [name])) (.absolute root) =
      .ok (some [name]) := by
    rw [relative?, resolve_absolute horderly hnames, resolve_absolute horderly hroot,
      any_contains_eq_false hspeakable, any_contains_eq_false hspeakableRoot]
    change Except.ok (below? _ _) = _
    simp [below?, Path.absolute]
  rw [importPath, hrelative]
  exact ⟨_, rfl⟩

end Discovery

namespace Run

open Aggregation

/-- A generated source file of a directory stands at the location. -/
def Stale (config : Config) (directory : Location) (disk : Disk) (location : Location) : Prop :=
  Generated config directory location ∧ disk.holdsFile location = true

/-- A directory and everything below it is as before. -/
def Untouched (directory : Location) (before after : Disk) : Prop :=
  ∀ location, directory <+: location → after.tree.get? location = before.tree.get? location

/-- A directory holds what it held except its generated source files. It holds none of those if it
may be read and passed through. -/
structure Cleaned (config : Config) (directory : Location) (before after : Disk) : Prop where
  kept : ∀ location, directory <+: location → ¬ Stale config directory before location →
    after.tree.get? location = before.tree.get? location
  gone : before.tree.allows .read directory = true → before.tree.allows .pass directory = true →
    ∀ location, Stale config directory before location → after.tree.get? location = none

/-- A directory holds what it held except its generated source files, and the files that were
made. -/
structure Synthesized (config : Config) (directory : Location) (files : List GeneratedFile)
    (before after : Disk) : Prop where
  made : ∀ file ∈ files, after.tree.get? (directory ++ [file.path]) =
    some (.file file.content.toUTF8 config.fileMode)
  kept : ∀ location, directory <+: location →
    (∀ file ∈ files, location ≠ directory ++ [file.path]) →
    ¬ Stale config directory before location → after.tree.get? location = before.tree.get? location
  gone : ∀ location, (∀ file ∈ files, location ≠ directory ++ [file.path]) →
    Stale config directory before location → after.tree.get? location = none

theorem Stale.below {location : Location} (h : Stale config directory before location) :
    directory <+: location := by
  obtain ⟨⟨name, rfl, -⟩, -⟩ := h
  exact List.prefix_append _ _

theorem Untouched.trans (h : Untouched directory before after)
    (h' : Untouched directory after later) : Untouched directory before later :=
  fun location hlocation => (h' location hlocation).trans (h location hlocation)

theorem Untouched.stale_iff (h : Untouched directory before after) {location : Location} :
    Stale config directory after location ↔ Stale config directory before location := by
  refine and_congr_right fun ⟨name, hlocation, _⟩ => ?_
  rw [holdsFile, holdsFile, h location (hlocation ▸ List.prefix_append _ _)]

/-- A cleaned directory counts as cleaned since it was last changed. -/
theorem Untouched.cleaned (h : Untouched directory first before)
    (h' : Cleaned config directory before after) : Cleaned config directory first after where
  kept location hlocation hnot :=
    (h'.kept location hlocation (mt h.stale_iff.mp hnot)).trans (h location hlocation)
  gone hread hpass location hstale := by
    have hsame := h directory (List.prefix_refl _)
    exact h'.gone ((allows_congr hsame).trans hread) ((allows_congr hsame).trans hpass) location
      (h.stale_iff.mpr hstale)

theorem Untouched.synthesized (h : Untouched directory first before)
    (h' : Synthesized config directory files before after)
    (hlater : Untouched directory after later) :
    Synthesized config directory files first later where
  made file hfile := (hlater _ (List.prefix_append _ _)).trans (h'.made file hfile)
  kept location hlocation hnew hnot := by
    rw [hlater location hlocation, h'.kept location hlocation hnew (mt h.stale_iff.mp hnot),
      h location hlocation]
  gone location hnew hstale := by
    rw [hlater location hstale.below, h'.gone location hnew (h.stale_iff.mpr hstale)]

/-- The generated files that are listed are generated files. -/
theorem stale_of_mem_staleNames (hextension : config.sourceExtension = "go")
    (horderly : before.tree.IsOrderly) (hdirectory : ∀ name ∈ directory, IsName name)
    {name : String} (h : name ∈ staleNames config before directory) :
    Stale config directory before (directory ++ [name]) := by
  have hentered := entered_of_mem_staleNames hextension horderly hdirectory h
  rw [staleNames_of_entered hextension hentered] at h
  exact ⟨⟨name, rfl, (List.mem_filter.mp h).2⟩, (of_mem_generatedNames h).2⟩

theorem changesOnly_of_without (hextension : config.sourceExtension = "go")
    (hdirectory : ∀ name ∈ directory, IsName name)
    (h : Without directory (staleNames config before directory) before after) :
    ChangesOnly (Generated config directory) before after where
  cwd _ := h.cwd
  orderly _ := h.orderly
  same horderly location hnot := by
    refine h.same location fun name hname => ?_
    rintro rfl
    exact hnot (stale_of_mem_staleNames hextension horderly hdirectory hname).1

/-- Cleaning leaves a directory cleaned. -/
theorem cleaned_of_without (hextension : config.sourceExtension = "go")
    (horderly : before.tree.IsOrderly) (hdirectory : ∀ name ∈ directory, IsName name)
    (hfound : ∃ mode, before.find (.absolute directory) = .ok (.taken directory (.directory mode)))
    (h : Without directory (staleNames config before directory) before after) :
    Cleaned config directory before after where
  kept location _ hnot := by
    refine h.same location fun name hname => ?_
    rintro rfl
    exact hnot (stale_of_mem_staleNames hextension horderly hdirectory hname)
  gone hread hpass location hstale := by
    obtain ⟨⟨name, rfl, hname⟩, hfile⟩ := hstale
    refine h.gone name ?_
    rw [staleNames_of_entered hextension ⟨horderly, hdirectory, hfound, hpass⟩]
    exact (mem_generatedNames hread).mpr ⟨hname, hfile⟩

/-- A cleaned directory to which files are written holds those. -/
theorem Cleaned.synthesized (h : Cleaned config directory before after)
    (howned : Owned directory before) (hnodup : (files.map GeneratedFile.path).Nodup) :
    Synthesized config directory files before
      { after with tree := Export.written config directory files after.tree } where
  made _ hfile := Export.get?_written_of_mem hnodup hfile
  kept location hlocation hnew hnot :=
    (Export.get?_written_of_ne hnew).trans (h.kept location hlocation hnot)
  gone location hnew hstale :=
    (Export.get?_written_of_ne hnew).trans (h.gone howned.read howned.pass location hstale)

/-- Files generated in some entries of the stores root leave the others alone. -/
theorem untouched_of_changesOnly (horderly : before.tree.IsOrderly) {names : List String}
    {name : String} (hname : name ∉ names)
    (h : ChangesOnly (fun location => ∃ other ∈ names, Generated config (root ++ [other]) location)
      before after) : Untouched (root ++ [name]) before after := by
  intro location hlocation
  refine h.same horderly location ?_
  rintro ⟨other, hother, file, rfl, -⟩
  rw [List.append_assoc, List.prefix_append_right_inj, List.singleton_append,
    List.cons_prefix_cons] at hlocation
  exact hname (hlocation.1 ▸ hother)

/-- Files generated in entries of the stores root leave the meta package alone. -/
theorem untouched_meta_of_changesOnly (hlayout : config.HasDefaultNames)
    (horderly : before.tree.IsOrderly) {above : Location} {names : List String}
    (h : ChangesOnly (fun location => ∃ other ∈ names,
      Generated config (above ++ ["stores"] ++ [other]) location) before after) :
    Untouched (Meta.directory config (.absolute (above ++ ["stores"]))).parts before after := by
  rw [Meta.directory_absolute hlayout]
  intro location hlocation
  refine h.same horderly location ?_
  rintro ⟨other, -, file, rfl, -⟩
  exact not_below_meta_of_around (Or.inr ⟨file, rfl⟩) hlocation

/-- Files of a package have names that mark them as generated, each its own. -/
structure AreOutputs (config : Config) (files : List GeneratedFile) : Prop where
  isOutput : ∀ file ∈ files, IsOutput config file.path
  nodup : (files.map GeneratedFile.path).Nodup

theorem areOutputs_of_prepared (hlayout : config.HasDefaultNames) {root path : Path}
    {ready : Package × List GeneratedFile} (h : prepared config root path first = .ok ready) :
    AreOutputs config ready.2 := by
  refine ⟨isOutput_of_prepared hlayout h, ?_⟩
  obtain ⟨⟨hvalid, -⟩, hfiles⟩ := prepared_ok h
  obtain ⟨⟨-, -, houtputs⟩, -⟩ := Package.check_isValid_iff.mp hvalid
  refine Package.nodup_paths ?_ ?_ houtputs hfiles <;>
    rw [hlayout.generatedMarker, hlayout.testFileSuffix] <;> decide

/-- A package that was synthesized was prepared, its directory holds the files, and they are
recorded. -/
theorem synthesized_of_synthesize (hlayout : config.HasDefaultNames)
    (horderly : workspace.disk.tree.IsOrderly) (hdirectory : ∀ name ∈ directory, IsName name)
    {path : Path} {progress next : Progress}
    (hok : (synthesize config false path progress (.absolute directory)).on workspace =
      (.ok next, last)) :
    ∃ package files cleaned, (prepare config false path (.absolute directory)).on workspace =
        (.ok (package, files), cleaned) ∧
      next.records = progress.records ++ Export.recordsOf directory files ∧
      AreOutputs config files ∧ Synthesized config directory files workspace.disk last.disk := by
  obtain ⟨importPath, -, -, himport, -, -⟩ := synthesize_ok hok
  have howned := owned_of_synthesize hlayout horderly hdirectory hok
  rw [synthesize_eq_prepare] at hok
  obtain ⟨⟨package, files⟩, cleaned, hprepare, hfinish⟩ := on_bind_ok.mp hok
  refine ⟨package, files, cleaned, hprepare, ?_⟩
  rcases prepare_cases hlayout horderly hdirectory himport with ⟨_, hon⟩ | ⟨houtcome, hwithout⟩
  · cases hprepare.symm.trans hon
  rw [hprepare] at houtcome hwithout
  obtain ⟨records, written, hwrite, hpure⟩ := on_bind_ok.mp hfinish
  obtain ⟨hnext, rfl⟩ := Prod.mk.inj hpure
  have hspeakable := Discovery.speakable_of_importPath horderly hdirectory himport
  rcases @Export.writeAll_cases config directory cleaned hwithout.orderly hdirectory hspeakable
    files (isFileName_of_prepared hlayout houtcome.symm) with ⟨_, _, _, hon⟩ | hon
  · cases hwrite.symm.trans hon
  obtain ⟨hrecords, rfl⟩ := Prod.mk.inj (hwrite.symm.trans hon)
  have houtputs := areOutputs_of_prepared hlayout houtcome.symm
  refine ⟨?_, houtputs, (cleaned_of_without hlayout.sourceExtension horderly hdirectory
    howned.found hwithout).synthesized howned houtputs.nodup⟩
  rw [← Except.ok.inj hnext, Except.ok.inj hrecords]

/-- A package whose preparation fails leaves its directory cleaned, unless the disk refuses. -/
theorem cleaned_of_prepare (hlayout : config.HasDefaultNames)
    (horderly : workspace.disk.tree.IsOrderly) (hdirectory : ∀ name ∈ directory, IsName name)
    {path : Path} {importPath : String}
    (himport : Discovery.importPath config workspace.disk (.absolute directory) path =
      .ok importPath)
    (hfound : ∃ mode, workspace.disk.find (.absolute directory) =
      .ok (.taken directory (.directory mode)))
    {error : Error} (hchanges : error.isRefusedChange = false)
    (hfails : (prepare config false path (.absolute directory)).on workspace =
      (.error error, last)) :
    Cleaned config directory workspace.disk last.disk ∧
      ChangesOnly (Generated config directory) workspace.disk last.disk := by
  rcases prepare_cases hlayout horderly hdirectory himport with ⟨_, hon⟩ | ⟨-, hwithout⟩
  · obtain ⟨herror, -⟩ := Prod.mk.inj (hfails.symm.trans hon)
    rw [Except.error.inj herror] at hchanges
    cases hchanges
  · rw [hfails] at hwithout
    exact ⟨cleaned_of_without hlayout.sourceExtension horderly hdirectory hfound hwithout,
      changesOnly_of_without hlayout.sourceExtension hdirectory hwithout⟩

/-- In a run over some packages, each one was prepared on what the earlier ones left, and its
directory still holds its files at the end. -/
theorem synthesized_of_foldlM (hlayout : config.HasDefaultNames)
    (hroot : ∀ name ∈ root, IsName name) (horderly : workspace.disk.tree.IsOrderly)
    {earlier rest : List String} {name : String} (hnodup : (earlier ++ name :: rest).Nodup)
    (hnames : ∀ other ∈ earlier ++ name :: rest, IsName other) {progress : Progress}
    (hok : (((earlier ++ name :: rest).map fun other => Path.absolute (root ++ [other])).foldlM
      (synthesize config false (.absolute root)) {}).on workspace = (.ok progress, last)) :
    ∃ reached middle package files cleaned,
      ((earlier.map fun other => Path.absolute (root ++ [other])).foldlM
        (synthesize config false (.absolute root)) {}).on workspace = (.ok reached, middle) ∧
      (prepare config false (.absolute root) (.absolute (root ++ [name]))).on middle =
        (.ok (package, files), cleaned) ∧
      Synthesized config (root ++ [name]) files workspace.disk last.disk := by
  simp only [List.forall_mem_append, List.forall_mem_cons] at hnames
  obtain ⟨hearlier, hname, hrest⟩ := hnames
  obtain ⟨-, hlater, hdisjoint⟩ := List.nodup_append'.mp hnodup
  rw [List.map_append, List.foldlM_append, List.map_cons] at hok
  obtain ⟨reached, middle, hdone, hok⟩ := on_bind_ok.mp hok
  rw [List.foldlM_cons] at hok
  obtain ⟨next, after, hstep, hok⟩ := on_bind_ok.mp hok
  have hbefore := (foldlM_keeps hlayout hroot hearlier {}).of_on hdone
  have hmiddle := hbefore.orderly horderly
  have hdirectory := isName_append hroot hname
  have hhere := (synthesize_keeps hlayout hdirectory false _).of_on hstep
  have hafter := (foldlM_keeps hlayout hroot hrest next).of_on hok
  obtain ⟨package, files, cleaned, hprepare, -, -, hsynthesized⟩ :=
    synthesized_of_synthesize hlayout hmiddle hdirectory hstep
  refine ⟨reached, middle, package, files, cleaned, hdone, hprepare, ?_⟩
  exact (untouched_of_changesOnly horderly
      (fun hmem => hdisjoint hmem List.mem_cons_self) hbefore).synthesized hsynthesized
    (untouched_of_changesOnly (hhere.orderly hmiddle) (List.nodup_cons.mp hlater).1 hafter)

/-- The package at which a run over some packages fails has been cleaned. -/
theorem cleaned_of_foldlM (hlayout : config.HasDefaultNames) (hroot : ∀ name ∈ root, IsName name)
    (horderly : workspace.disk.tree.IsOrderly) {names : List String} {name : String}
    (hnames : ∀ other ∈ names, IsName other) (hname : IsName name) (hfresh : name ∉ names)
    (hspeakable : Speakable (root ++ [name]))
    (hfound : ∃ mode, workspace.disk.find (.absolute (root ++ [name])) =
      .ok (.taken (root ++ [name]) (.directory mode)))
    {progress : Progress} {middle : Workspace} {error : Error}
    (hdone : ((names.map fun other => Path.absolute (root ++ [other])).foldlM
      (synthesize config false (.absolute root)) {}).on workspace = (.ok progress, middle))
    (hfails : (prepare config false (.absolute root) (.absolute (root ++ [name]))).on middle =
      (.error error, last))
    (hchanges : error.isRefusedChange = false) :
    Cleaned config (root ++ [name]) workspace.disk last.disk ∧
      ChangesOnly (Generated config (root ++ [name])) middle.disk last.disk := by
  have hdirectory := isName_append hroot hname
  have hbefore := (foldlM_keeps hlayout hroot hnames {}).of_on hdone
  have hmiddle := hbefore.orderly horderly
  have hway : ∀ location, location <+: root ++ [name] →
      workspace.disk.tree.get? location = middle.disk.tree.get? location := by
    intro location hlocation
    refine (hbefore.same horderly location ?_).symm
    rintro ⟨other, hother, hgenerated⟩
    refine not_generated_of_around ?_ (Or.inl hlocation) hgenerated
    rintro rfl
    exact hfresh hother
  rw [find_congr horderly hmiddle hdirectory fun count => hway _ (List.take_prefix _ _)] at hfound
  obtain ⟨importPath, himport⟩ := @Discovery.exists_importPath config root middle.disk name hmiddle
    hdirectory hspeakable
  obtain ⟨hcleaned, hchange⟩ := cleaned_of_prepare hlayout hmiddle hdirectory himport hfound
    hchanges hfails
  exact ⟨(untouched_of_changesOnly horderly hfresh hbefore).cleaned hcleaned, hchange⟩

/-- A run ends where a package cannot be prepared. -/
theorem run_eq_error {disk : Disk} {start path failing : Path} {done rest : List Path}
    {progress : Progress} {middle : Workspace} {error : Error}
    (hroot : rootOf config disk start = .ok path)
    (hpackages : Discovery.packages config disk path = .ok (done ++ failing :: rest))
    (hdone : (done.foldlM (synthesize config false path) {}).on { disk } = (.ok progress, middle))
    (hfails : (prepare config false path failing).on middle = (.error error, last))
    (manifestPath : Option Path) (timestamp : String) :
    (run config false start manifestPath timestamp).runOn disk = (.error error, last) := by
  have hsteps : ((done ++ failing :: rest).foldlM (synthesize config false path) {}).on { disk } =
      (.error error, last) := by
    rw [List.foldlM_append, on_bind, hdone]
    simp only [List.foldlM_cons]
    rw [on_bind, synthesize_eq_prepare, on_bind, hfails]
  change (run config false start manifestPath timestamp).on { disk } = _
  rw [run, on_disk_bind, on_bind, on_ofExcept, hroot]
  simp only
  rw [on_disk_bind, on_bind, on_ofExcept, hpackages]
  simp only
  rw [on_bind, hsteps]

/-- What a run leaves that fails at a package for another reason than a refused deletion or write:
every earlier package with the files that were made of it in the place of its old ones, the package
itself cleaned, and every later package and the meta package as they were. -/
theorem failed_run_leaves (hlayout : config.HasDefaultNames) {disk : Disk}
    (horderly : disk.tree.IsOrderly) (hcwd : ∀ name ∈ disk.cwd, IsName name) {start : String}
    {root failing : Path} {done rest : List Path} {progress : Progress}
    {middle last : Workspace} {error : Error}
    (hroot : rootOf config disk (.ofString start) = .ok root)
    (hpackages : Discovery.packages config disk root = .ok (done ++ failing :: rest))
    (hspeakable : Speakable failing.parts)
    (hdone : (done.foldlM (synthesize config false root) {}).on { disk } = (.ok progress, middle))
    (hfails : (prepare config false root failing).on middle = (.error error, last))
    (hchanges : error.isRefusedChange = false) (manifestPath : Option Path) (timestamp : String) :
    (run config false (.ofString start) manifestPath timestamp).runOn disk = (.error error, last) ∧
    (∀ earlier path others, done = earlier ++ path :: others →
      ∃ reached between package files cleaned,
        (earlier.foldlM (synthesize config false root) {}).on { disk } = (.ok reached, between) ∧
        (prepare config false root path).on between = (.ok (package, files), cleaned) ∧
        Synthesized config path.parts files disk last.disk) ∧
    Cleaned config failing.parts disk last.disk ∧
    (∀ path ∈ rest, Untouched path.parts disk last.disk) ∧
    Untouched (Meta.directory config root).parts disk last.disk := by
  refine ⟨run_eq_error hroot hpackages hdone hfails manifestPath timestamp, ?_⟩
  obtain ⟨above, rfl, habove, -⟩ := rootOf_eq hlayout horderly hcwd hroot
  have hrootNames : ∀ name ∈ above ++ ["stores"], IsName name := isName_append habove (by decide)
  obtain ⟨names, hsplit, hnodup, hnames⟩ := Discovery.packages_eq horderly hrootNames hpackages
  obtain ⟨doneNames, _, rfl, rfl, hothers⟩ := List.map_eq_append_iff.mp hsplit.symm
  obtain ⟨name, restNames, rfl, rfl, rfl⟩ := List.map_eq_cons_iff.mp hothers
  obtain ⟨hdoneNodup, hnameNodup, hdisjoint⟩ := List.nodup_append'.mp hnodup
  have hdoneNames : ∀ other ∈ doneNames, IsName other :=
    fun other hother => hnames other (List.mem_append_left _ hother)
  have hname := hnames name (by simp)
  have hfresh : name ∉ doneNames := fun hmem => hdisjoint hmem List.mem_cons_self
  have hbefore := foldlM_keeps hlayout hrootNames hdoneNames {} { disk }
  rw [hdone] at hbefore
  have hmiddle := hbefore.orderly horderly
  have hfound := Discovery.find_of_mem_packages horderly (isName_append hrootNames hname) hpackages
    (by simp)
  obtain ⟨hcleaned, hchange⟩ := @cleaned_of_foldlM config _ { disk } last hlayout hrootNames
    horderly _ _ hdoneNames hname hfresh hspeakable hfound _ _ _ hdone hfails hchanges
  have hhere : ChangesOnly (fun location => ∃ other ∈ [name],
      Generated config (above ++ ["stores"] ++ [other]) location) middle.disk last.disk :=
    hchange.mono fun location hlocation => ⟨name, by simp, hlocation⟩
  refine ⟨?_, hcleaned, ?_, ?_⟩
  · intro earlier path others hearlier
    obtain ⟨earlierNames, _, rfl, rfl, hothers⟩ := List.map_eq_append_iff.mp hearlier
    obtain ⟨pathName, otherNames, rfl, rfl, rfl⟩ := List.map_eq_cons_iff.mp hothers
    obtain ⟨reached, between, package, files, cleaned, hfold, hprepare, hsynthesized⟩ :=
      synthesized_of_foldlM hlayout hrootNames horderly hdoneNodup hdoneNames hdone
    refine ⟨reached, between, package, files, cleaned, hfold, hprepare, ?_⟩
    refine Untouched.synthesized (fun _ _ => rfl) hsynthesized
      (untouched_of_changesOnly hmiddle ?_ hhere)
    rintro hmem
    obtain rfl := List.mem_singleton.mp hmem
    exact hfresh (by simp)
  · intro path hpath
    obtain ⟨other, hother, rfl⟩ := List.mem_map.mp hpath
    have hother' : other ∉ doneNames := fun hmem =>
      hdisjoint hmem (List.mem_cons_of_mem name hother)
    refine (untouched_of_changesOnly horderly hother' hbefore).trans
      (untouched_of_changesOnly hmiddle ?_ hhere)
    rintro hmem
    obtain rfl := List.mem_singleton.mp hmem
    exact (List.nodup_cons.mp hnameNodup).1 hother
  · exact (untouched_meta_of_changesOnly hlayout horderly hbefore).trans
      (untouched_meta_of_changesOnly hlayout hmiddle hhere)

/-- A directory that holds nothing written by hand has no store file. -/
theorem prepare_of_bare {path base : Path} {importPath : String} {removed : List Path}
    {cleaned : Workspace}
    (himport : Discovery.importPath config workspace.disk path base = .ok importPath)
    (hclean : (clean config false path).on workspace = (.ok removed, cleaned))
    (hbare : handWritten config workspace.disk path = .ok [])
    (hstill : handWritten config cleaned.disk path = .ok []) :
    ∃ last, (prepare config false base path).on workspace =
        (.error (.fault (.layout .noStoreFile) (some path.render)), last) ∧
      last.disk = cleaned.disk := by
  obtain ⟨houtcome, hdisk⟩ := prepare_on himport hclean (hstill.trans hbare.symm)
    fun files hfiles file hfile => by
      rw [← Except.ok.inj (hbare.symm.trans hfiles)] at hfile
      cases hfile
  have hprepared : prepared config base path workspace.disk =
      .error (.fault (.layout .noStoreFile) (some path.render)) := by
    rw [prepared, himport]
    change preparedAs config path importPath workspace.disk = _
    rw [preparedAs, hbare]
    rfl
  exact ⟨_, Prod.ext (houtcome.trans hprepared) rfl, hdisk⟩

/-- A disk on which a first package is complete and a second one holds nothing but a generated
file. -/
def incompleteDisk (storeText : String) : Disk :=
  let first := writtenDisk (sampleEntity.render sampleConfig) (sampleEntity.testText sampleConfig)
    storeText
  { first with
    tree := (first.tree.put ["stores", "b"] .plainDirectory).put
      ["stores", "b", "old_synthesized.go"] (.file "".toUTF8 0o600) }

private theorem packages_incompleteDisk (storeText : String) :
    Discovery.packages sampleConfig (incompleteDisk storeText) (.absolute ["stores"]) =
      .ok [.absolute ["stores", "a"], .absolute ["stores", "b"]] := by
  have hnames : (incompleteDisk storeText).names? ["stores"] = some ["a", "b"] := by
    rw [names?, names, List.mergeSort_of_pairwise]
    · rfl
    · change List.Pairwise _ ["a", "b"]
      decide
  have hdirectory : (incompleteDisk storeText).directory? (.absolute ["stores"]) =
      some ["stores"] := rfl
  simp only [Discovery.packages, hdirectory, hnames]
  rfl

private theorem agree_incompleteDisk (storeText : String) :
    Agree (Around ["stores", "a"]) (incompleteDisk storeText).tree
      (writtenDisk (sampleEntity.render sampleConfig) (sampleEntity.testText sampleConfig)
        storeText).tree := by
  intro location hlocation
  have hne : location ≠ ["stores", "b"] ∧ location ≠ ["stores", "b", "old_synthesized.go"] := by
    constructor <;> rintro rfl <;> simp [Around] at hlocation
  rw [incompleteDisk, get?_put (by simp), if_neg hne.2, get?_put (by simp), if_neg hne.1]

private theorem handWritten_incompleteDisk (storeText : String) :
    handWritten sampleConfig (incompleteDisk storeText) (.absolute ["stores", "b"]) = .ok [] := by
  have hnames : (incompleteDisk storeText).names? ["stores", "b"] =
      some ["old_synthesized.go"] := by
    rw [names?, names, List.mergeSort_of_pairwise]
    · rfl
    · change List.Pairwise _ ["old_synthesized.go"]
      decide
  rw [handWritten, sourceFiles_eq_filterM rfl rfl, hnames]
  rfl

/-- A disk whose second package fails is as it was around that package when the first one has been
made. -/
private theorem prepare_incompleteDisk {storeText : String} {middle : Workspace}
    (hkept : ChangesOnly (Generated sampleConfig ["stores", "a"]) (incompleteDisk storeText)
      middle.disk) (horderly : (incompleteDisk storeText).tree.IsOrderly) :
    ∃ last, (prepare sampleConfig false (.absolute ["stores"]) (.absolute ["stores", "b"])).on
      middle = (.error (.fault (.layout .noStoreFile) (some "/stores/b")), last) := by
  have hmiddle := hkept.orderly horderly
  have hsame : Agree (Around ["stores", "b"]) middle.disk.tree (incompleteDisk storeText).tree :=
    fun location hlocation => hkept.same horderly location
      (@not_generated_of_around sampleConfig ["stores"] "b" "a" (by decide) location hlocation)
  have howned : Owned ["stores", "b"] middle.disk :=
    Owned.congr ⟨⟨horderly, by decide, ⟨_, rfl⟩, rfl⟩, rfl, rfl⟩ hmiddle fun location hlocation =>
      hsame location (Or.inl hlocation)
  have hbare : handWritten sampleConfig middle.disk (.absolute ["stores", "b"]) = .ok [] := by
    rw [handWritten, sourceFiles_congr rfl hmiddle horderly (by decide) hsame]
    exact handWritten_incompleteDisk storeText
  obtain ⟨removed, cleaned, hclean, hwithout⟩ :=
    @clean_on sampleConfig _ _ rfl howned
  rw [← @staleNames_of_entered sampleConfig _ _ rfl howned.toEntered] at hwithout
  have hstill := handWritten_of_without rfl hmiddle (by decide) hwithout
  obtain ⟨importPath, himport⟩ := @Discovery.exists_importPath sampleConfig ["stores"] middle.disk
    "b" hmiddle (by decide) (by simp [Speakable])
  obtain ⟨last, hfails, -⟩ := prepare_of_bare himport hclean hbare (hstill.trans hbare)
  exact ⟨last, hfails⟩

/-- The first package is made again, and the second one fails after its directory was cleaned. -/
theorem failed_run_leaves_sample :
    ∃ storeText error last files,
      (run sampleConfig false (.ofString "/") none "now").runOn (incompleteDisk storeText) =
        (.error error, last) ∧
      Synthesized sampleConfig ["stores", "a"] files (incompleteDisk storeText) last.disk ∧
      last.disk.tree.get? ["stores", "b", "old_synthesized.go"] = none := by
  have hlayout : sampleConfig.HasDefaultNames := ⟨rfl, rfl, rfl, rfl, rfl, rfl⟩
  obtain ⟨storeText, records, -, hstep⟩ := synthesize_sample
  have hsample : (sampleDisk [staleFile]).tree.IsOrderly :=
    (IsPlain.of_isPlain (by decide)).toIsOrderly
  have hwritten := @synthesize_keeps sampleConfig ["stores", "a"] {} hlayout (by decide) false
    (.absolute ["stores"]) { disk := sampleDisk [staleFile] }
  rw [hstep] at hwritten
  have horderly : (incompleteDisk storeText).tree.IsOrderly :=
    ((hwritten.orderly hsample).put (by simp) (by decide) (by simp [Node.plainDirectory])).put
      (by simp) (by decide) (by simp)
  obtain ⟨middle, hmiddle, -⟩ := @synthesize_again sampleConfig ["stores", "a"]
    { disk := sampleDisk [staleFile] } _ {} _ ["stores"] hlayout (by decide) (by decide)
    hsample hstep { disk := incompleteDisk storeText } horderly (agree_incompleteDisk storeText)
  have hkept := @synthesize_keeps sampleConfig ["stores", "a"] {} hlayout (by decide) false
    (.absolute ["stores"]) { disk := incompleteDisk storeText }
  rw [hmiddle] at hkept
  obtain ⟨last, hfails⟩ := prepare_incompleteDisk hkept horderly
  have hdone : ([Path.absolute ["stores", "a"]].foldlM (synthesize sampleConfig false
      (.absolute ["stores"])) {}).on { disk := incompleteDisk storeText } =
      (.ok ⟨["a"], 1, records⟩, middle) := on_bind_ok.mpr ⟨_, _, hmiddle, rfl⟩
  obtain ⟨hrun, hfirst, hcleaned, -, -⟩ := @failed_run_leaves sampleConfig hlayout _ horderly
    (by simp [incompleteDisk, writtenDisk, withFile, sampleDisk]) "/" _ _
    [.absolute ["stores", "a"]] [] _ _ _ _ rfl (packages_incompleteDisk storeText)
    (by simp [Speakable, Path.absolute]) hdone hfails rfl none "now"
  obtain ⟨-, -, -, files, -, -, -, hsynthesized⟩ := hfirst [] _ [] rfl
  refine ⟨storeText, _, last, files, hrun, hsynthesized, ?_⟩
  exact hcleaned.gone rfl rfl _ ⟨⟨"old_synthesized.go", rfl, by decide⟩, rfl⟩

/-- The directory of a package outside the stores root, with a link to it. -/
def linkedDisk : Disk :=
  { tree := ⟨[(["elsewhere"], .plainDirectory), (["elsewhere", "a"], .plainDirectory),
      (["elsewhere", "a", "a_synthesized.go"], .file "".toUTF8 0o600),
      (["stores"], .plainDirectory), (["stores", "a"], .link "/elsewhere/a")]⟩ }

/-- The directory of a package that may not be read. -/
def closedDisk : Disk :=
  { tree := ⟨[(["stores"], .plainDirectory), (["stores", "a"], .directory 0o300),
      (["stores", "a", "a_synthesized.go"], .file "".toUTF8 0o600)]⟩ }

/-- The only package of the stores root makes a run fail, for another reason than a refused
deletion or write, and keeps its generated source file. -/
def KeepsGenerated (disk : Disk) : Prop :=
  ∃ error last,
    Discovery.packages sampleConfig disk (.absolute ["stores"]) = .ok [.absolute ["stores", "a"]] ∧
    (run sampleConfig false (.ofString "/") none "now").runOn disk = (.error error, last) ∧
    error.isRefusedChange = false ∧
    last.disk.isFile (.absolute ["stores", "a", "a_synthesized.go"]) = true

/-- The import path is asked for first, and the directory is not cleaned. -/
private theorem keepsGenerated_linkedDisk : KeepsGenerated linkedDisk := by
  have hnames : linkedDisk.names? ["stores"] = some ["a"] := by
    simp only [names?, names]
    rw [List.mergeSort_of_pairwise (by decide)]
    rfl
  have hpackages : Discovery.packages sampleConfig linkedDisk (.absolute ["stores"]) =
      .ok [.absolute ["stores", "a"]] := by
    have hdirectory : linkedDisk.directory? (.absolute ["stores"]) = some ["stores"] := rfl
    simp only [Discovery.packages, hdirectory, hnames]
    decide
  obtain ⟨hfails, -⟩ := @prepare_error sampleConfig { disk := linkedDisk } false
    (.absolute ["stores"]) (.absolute ["stores", "a"])
    (.fault (.layout (.outsideRoot "/stores/a" "/stores")) (some "/stores/a"))
    (Or.inl (by decide))
  exact ⟨_, _, hpackages, @run_eq_error sampleConfig _ linkedDisk _ _ _ [] [] _ _ _ (by decide)
    hpackages rfl hfails none "now", rfl, rfl⟩

/-- No file is listed, and so none is removed. -/
private theorem keepsGenerated_closedDisk : KeepsGenerated closedDisk := by
  have hnames : closedDisk.names? ["stores"] = some ["a"] := by
    simp only [names?, names]
    rw [List.mergeSort_of_pairwise (by decide)]
    rfl
  have hpackages : Discovery.packages sampleConfig closedDisk (.absolute ["stores"]) =
      .ok [.absolute ["stores", "a"]] := by
    have hdirectory : closedDisk.directory? (.absolute ["stores"]) = some ["stores"] := rfl
    simp only [Discovery.packages, hdirectory, hnames]
    decide
  have hsources : sourceFiles sampleConfig closedDisk (.absolute ["stores", "a"]) = .ok [] := by
    rw [sourceFiles_eq_filterM rfl (by decide)]
    rfl
  have hclean : (clean sampleConfig false (.absolute ["stores", "a"])).on
      { disk := closedDisk } = (.ok [], { disk := closedDisk }) := by
    rw [clean, on_disk_bind, on_ofExcept_bind_ok]
    exact ⟨[], hsources, rfl⟩
  have hbare : handWritten sampleConfig closedDisk (.absolute ["stores", "a"]) = .ok [] := by
    rw [handWritten, hsources]
    rfl
  obtain ⟨last, hfails, hdisk⟩ := @prepare_of_bare sampleConfig { disk := closedDisk } _
    (.absolute ["stores"]) sampleEntity.importPath _ _ (by decide) hclean hbare hbare
  refine ⟨_, last, hpackages, @run_eq_error sampleConfig _ closedDisk _ _ _ [] [] _ _ _ (by decide)
    hpackages rfl hfails none "now", rfl, ?_⟩
  rw [hdisk]
  rfl

/-- A package outside the stores root and a package that cannot be listed are not cleaned by the
run that fails at them. -/
theorem failed_run_keeps_generated : KeepsGenerated linkedDisk ∧ KeepsGenerated closedDisk :=
  ⟨keepsGenerated_linkedDisk, keepsGenerated_closedDisk⟩

end Run

end Scaffold
