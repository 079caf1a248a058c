import Scaffold.Proofs.MetaPackage
import Scaffold.Proofs.Preparation

/-!
# A run repeats itself

A second run on the disk that a successful run has left succeeds, writes the same files and leaves
the disk as it is. Each package depends on its own directory, which no other package's files go to,
so that the repeat of a run is the repeat of its packages one by one.
-/

namespace Scaffold

open Tree Disk Action

variable {config : Config} {root : Location} {workspace last : Workspace}

namespace Discovery

/-- The packages are distinct entries of the stores root. -/
theorem packages_eq {disk : Disk} (horderly : disk.tree.IsOrderly)
    (hroot : ∀ name ∈ root, IsName name) {directories : List Path}
    (hok : packages config disk (.absolute root) = .ok directories) :
    ∃ names : List String, directories = names.map (fun name => .absolute (root ++ [name])) ∧
      names.Nodup ∧ ∀ name ∈ names, IsName name := by
  unfold packages at hok
  split at hok
  · cases hok
  · cases hok
  next location hlocation =>
    obtain rfl := eq_of_directory? horderly hroot hlocation
    cases hnames : disk.names? location with
    | none => simp [hnames, Bind.bind, Except.bind] at hok
    | some names =>
      rw [hnames] at hok
      obtain ⟨_, hsome, hrest⟩ := Outcome.bind_eq_ok_iff.mp hok
      obtain rfl := Except.ok.inj hsome
      obtain ⟨verdicts, hverdicts, hfiltered⟩ := Outcome.bind_eq_ok_iff.mp hrest
      have hentries : verdicts.map Prod.fst =
          names.map fun name => Path.absolute (location ++ [name]) := by
        have hfst : ∀ entry (result : Path × Bool),
            (isPackage config disk entry).map (fun verdict => (entry, verdict)) = .ok result →
            result.1 = entry := by
          intro entry result hresult
          cases hpackage : isPackage config disk entry with
          | error error => simp [hpackage, Except.map] at hresult
          | ok verdict =>
            rw [hpackage] at hresult
            exact congrArg Prod.fst (Except.ok.inj hresult).symm
        exact (Outcome.map_eq_of_mapM hfst hverdicts).trans (List.map_id' _)
      have hsub : directories.Sublist
          (names.map fun name => Path.absolute (location ++ [name])) := by
        rw [← Except.ok.inj hfiltered, ← hentries]
        exact List.filter_sublist.map _
      obtain ⟨found, hfound, rfl⟩ := List.sublist_map_iff.mp hsub
      have hall : names = disk.tree.names location := by
        unfold names? at hnames
        split_ifs at hnames
        exact (Option.some.inj hnames).symm
      refine ⟨found, rfl, ?_, fun name hname => ?_⟩
      · exact (hall ▸ horderly.isMap.nodup_names).sublist hfound
      · exact horderly.isName_of_mem (hall ▸ hfound.subset hname)

/-- The packages depend on the way to the stores root and on what lies directly in it. -/
theorem packages_congr {first second : Disk} (hf : first.tree.IsOrderly)
    (hs : second.tree.IsOrderly) (hroot : ∀ name ∈ root, IsName name)
    (h : Agree (Around root) first.tree second.tree) :
    packages config first (.absolute root) = packages config second (.absolute root) := by
  have hfind : first.find (.absolute root) = second.find (.absolute root) :=
    find_congr hf hs hroot fun count => h _ (Or.inl (List.take_prefix _ _))
  have hnames : first.names? root = second.names? root := by
    simp only [names?, allows_congr (h root (Or.inl (List.prefix_refl _))),
      hf.isMap.names_congr hs.isMap fun name => h _ (Or.inr ⟨name, rfl⟩)]
  have hlooks : first.directory? (.absolute root) = second.directory? (.absolute root) ∧
      first.refusal? (.absolute root) = second.refusal? (.absolute root) := by
    simp only [directory?, refusal?, hfind, and_self]
  unfold packages
  rw [hlooks.1, hlooks.2]
  cases hlocation : second.directory? (.absolute root) with
  | none => cases second.refusal? (.absolute root) <;> rfl
  | some location =>
    obtain rfl := eq_of_directory? hs hroot hlocation
    simp only [hnames]
    cases hfound : second.names? location with
    | none => rfl
    | some names =>
      have hall : ∀ name ∈ names, IsName name := by
        intro name hname
        unfold names? at hfound
        split_ifs at hfound
        exact hs.isName_of_mem (Option.some.inj hfound ▸ hname)
      have hverdicts :
          (names.map fun name => (Path.absolute location).join ⟨.relative, [name]⟩).mapM
            (fun entry => (isPackage config first entry).map fun verdict => (entry, verdict)) =
          (names.map fun name => (Path.absolute location).join ⟨.relative, [name]⟩).mapM
            fun entry => (isPackage config second entry).map fun verdict => (entry, verdict) := by
        refine Outcome.mapM_congr fun entry hentry => ?_
        obtain ⟨name, hname, rfl⟩ := List.mem_map.mp hentry
        have hchild : first.find (.absolute (location ++ [name])) =
            second.find (.absolute (location ++ [name])) :=
          find_congr hf hs (isName_append hroot (hall name hname)) fun _ =>
            h _ (around_of_above_child (List.take_prefix _ _))
        have hjoin : (Path.absolute location).join ⟨.relative, [name]⟩ =
            .absolute (location ++ [name]) := rfl
        simp only [isPackage, hjoin, hchild]
      exact congrArg (· >>= fun verdicts : List (Path × Bool) =>
        pure ((verdicts.filter fun verdict => verdict.2).map Prod.fst)) hverdicts

end Discovery

namespace Run

open Aggregation

/-- Names that a path is written with stand for entries, or lead up. -/
theorem isName_of_mem_partsOf {text : Chars} {part : String} (h : part ∈ Path.partsOf text) :
    part = ".." ∨ IsName part := by
  obtain ⟨chars, hchars, rfl⟩ := List.mem_map.mp h
  have hkept := (List.mem_filter.mp hchars).2
  by_cases hdots : String.ofList chars = ".."
  · exact Or.inl hdots
  · refine Or.inr ⟨?_, ?_, hdots⟩ <;> intro heq <;>
      rw [← String.toList_inj, String.toList_ofList] at heq <;> subst heq <;>
      exact absurd hkept (by decide)

theorem isName_foldl_stepName {names : List String} {base : Location}
    (hbase : ∀ name ∈ base, IsName name) (hnames : ∀ name ∈ names, name = ".." ∨ IsName name) :
    ∀ name ∈ names.foldl stepName base, IsName name := by
  induction names generalizing base with
  | nil => exact hbase
  | cons first rest ih =>
    obtain ⟨hfirst, hrest⟩ := List.forall_mem_cons.mp hnames
    refine ih ?_ hrest
    unfold stepName
    split_ifs with hdots
    · exact fun name hname => hbase name (List.dropLast_subset base hname)
    · refine isName_append hbase (hfirst.resolve_left fun heq => ?_)
      exact hdots (by simp [heq])

theorem mem_of_mem_foldl_stepName {names : List String} {base : Location} {name : String}
    (h : name ∈ names.foldl stepName base) : name ∈ base ∨ name ∈ names := by
  induction names generalizing base with
  | nil => exact Or.inl h
  | cons first rest ih =>
    rcases ih h with hbase | hrest
    · unfold stepName at hbase
      split_ifs at hbase
      · exact Or.inl (List.dropLast_subset base hbase)
      · rcases List.mem_append.mp hbase with hbase | hfirst
        · exact Or.inl hbase
        · exact Or.inr (List.mem_singleton.mp hfirst ▸ List.mem_cons_self)
    · exact Or.inr (List.mem_cons_of_mem first hrest)

/-- The stores root that a location stands for carries the usual name. -/
theorem storesRoot_absolute (hlayout : config.HasDefaultNames) (location : Location) :
    ∃ above, Discovery.storesRoot config (.absolute location) = .absolute (above ++ ["stores"]) ∧
      above ⊆ location := by
  rw [Discovery.storesRoot, hlayout.storesDirectoryName]
  split_ifs with hname
  · have hlast : location.getLast? = some "stores" := by
      cases hlast : location.getLast? with
      | none => simp [Path.name, Path.absolute, hlast] at hname
      | some name => simpa [Path.name, Path.absolute, hlast] using hname
    obtain ⟨above, rfl⟩ := List.getLast?_eq_some_iff.mp hlast
    exact ⟨above, rfl, List.subset_append_left above _⟩
  · exact ⟨location, Path.child_eq (by decide) (by decide) (by decide), List.Subset.refl _⟩

/-- The stores root of a run is a location of names, the last of which is the usual one. It can be
asked for if the working directory can. -/
theorem rootOf_eq (hlayout : config.HasDefaultNames) {disk : Disk} (horderly : disk.tree.IsOrderly)
    (hcwd : ∀ name ∈ disk.cwd, IsName name) {start : String} {path : Path}
    (hok : rootOf config disk (.ofString start) = .ok path) :
    ∃ above, path = .absolute (above ++ ["stores"]) ∧ (∀ name ∈ above, IsName name) ∧
      (Speakable disk.cwd → Speakable above) := by
  have hstart : disk.start (.ofString start) ⊆ disk.cwd := by
    unfold Disk.start
    split_ifs
    · exact List.nil_subset _
    · exact List.Subset.refl _
  have hnames := isName_foldl_stepName (fun name hname => hcwd name (hstart hname))
    (fun name (hname : name ∈ (Path.ofString start).parts) => isName_of_mem_partsOf hname)
  simp only [rootOf, Disk.resolve, resolve_eq horderly.linkFree] at hok
  split_ifs at hok with hspeakable
  obtain ⟨above, hroot, hsub⟩ := storesRoot_absolute hlayout
    ((Path.ofString start).parts.foldl stepName (disk.start (.ofString start)))
  refine ⟨above, (Except.ok.inj hok).symm.trans hroot, fun name hname => hnames name (hsub hname),
    fun hcwd name hname => ?_⟩
  rcases mem_of_mem_foldl_stepName (hsub hname) with hmem | hmem
  · exact hcwd name (hstart hmem)
  · intro hnull
    refine hspeakable (List.any_eq_true.mpr ⟨name, hmem, ?_⟩)
    simpa using hnull

theorem rootOf_congr {first second : Disk} (hf : first.tree.IsOrderly) (hs : second.tree.IsOrderly)
    (hcwd : first.cwd = second.cwd) (start : Path) :
    rootOf config first start = rootOf config second start := by
  simp only [rootOf, Disk.resolve, Disk.start, hcwd, resolve_eq hf.linkFree, resolve_eq hs.linkFree]

/-- What the other packages generate does not lie around a package. -/
theorem not_generated_of_around {name other : String} (hne : name ≠ other) {location : Location}
    (h : Around (root ++ [name]) location) : ¬ Generated config (root ++ [other]) location := by
  rintro ⟨file, rfl, -⟩
  rcases h with habove | ⟨entry, heq⟩
  · have hlength := habove.length_le
    simp only [List.length_append, List.length_singleton] at hlength
    omega
  · simp only [List.append_assoc, List.append_cancel_left_eq, List.cons_append, List.nil_append,
      List.cons.injEq] at heq
    exact hne heq.1.symm

theorem foldlM_keeps (hlayout : config.HasDefaultNames) (hroot : ∀ name ∈ root, IsName name)
    {names : List String} (hnames : ∀ name ∈ names, IsName name) (progress : Progress) :
    Keeps (ChangesOnly fun location => ∃ name ∈ names, Generated config (root ++ [name]) location)
      ((names.map fun name => Path.absolute (root ++ [name])).foldlM
        (synthesize config false (.absolute root)) progress) := by
  refine .foldlM (fun path hpath progress => ?_) progress
  obtain ⟨name, hname, rfl⟩ := List.mem_map.mp hpath
  exact (synthesize_keeps hlayout (isName_append hroot (hnames name hname)) false _).mono
    fun _ _ h => h.mono fun location hlocation => ⟨name, hname, hlocation⟩

/-- Packages that were synthesized one after the other can be synthesized again so, with the same
outcome and no change, wherever the disk is as they left it around their directories. -/
theorem foldlM_again (hlayout : config.HasDefaultNames) (hroot : ∀ name ∈ root, IsName name)
    {names : List String} (hnodup : names.Nodup) (hnames : ∀ name ∈ names, IsName name)
    (horderly : workspace.disk.tree.IsOrderly) {progress final : Progress}
    (hok : ((names.map fun name => Path.absolute (root ++ [name])).foldlM
      (synthesize config false (.absolute root)) progress).on workspace = (.ok final, last))
    {again : Workspace} (hagain : again.disk.tree.IsOrderly)
    (hsame : ∀ name ∈ names, Agree (Around (root ++ [name])) again.disk.tree last.disk.tree) :
    ∃ later, ((names.map fun name => Path.absolute (root ++ [name])).foldlM
        (synthesize config false (.absolute root)) progress).on again = (.ok final, later) ∧
      later.disk.tree.IsOrderly ∧
      ∀ location, later.disk.tree.get? location = again.disk.tree.get? location := by
  induction names generalizing workspace again progress with
  | nil =>
    obtain ⟨hfinal, -⟩ := Prod.mk.inj hok
    exact ⟨again, by rw [← hfinal]; rfl, hagain, fun _ => rfl⟩
  | cons name rest ih =>
    obtain ⟨hfresh, hrest⟩ := List.nodup_cons.mp hnodup
    obtain ⟨hname, hothers⟩ := List.forall_mem_cons.mp hnames
    have hdirectory := isName_append hroot hname
    rw [List.map_cons, List.foldlM_cons] at hok ⊢
    obtain ⟨next, middle, hstep, hlater⟩ := on_bind_ok.mp hok
    have hmiddle := ((synthesize_keeps hlayout hdirectory false _).of_on hstep).orderly horderly
    have hframe : Agree (Around (root ++ [name])) last.disk.tree middle.disk.tree := by
      have hkept := (foldlM_keeps hlayout hroot hothers next).of_on hlater
      intro location hlocation
      refine hkept.same hmiddle location ?_
      rintro ⟨other, hother, hgenerated⟩
      refine not_generated_of_around ?_ hlocation hgenerated
      rintro rfl
      exact hfresh hother
    obtain ⟨between, hbetween, hagree⟩ := synthesize_again hlayout hdirectory hroot horderly hstep
      hagain fun location hlocation =>
        (hsame name List.mem_cons_self location hlocation).trans (hframe location hlocation)
    have hkept := (synthesize_keeps hlayout hdirectory false _).of_on hbetween
    have hstill : ∀ location,
        between.disk.tree.get? location = again.disk.tree.get? location := by
      intro location
      by_cases hlocation : Around (root ++ [name]) location
      · rw [hagree location hlocation, ← hframe location hlocation,
          hsame name List.mem_cons_self location hlocation]
      · refine hkept.same hagain location ?_
        rintro ⟨file, rfl, -⟩
        exact hlocation (Or.inr ⟨file, rfl⟩)
    obtain ⟨later, hon, hlaterOrderly, hlaterSame⟩ := ih hrest hothers hmiddle hlater
      (hkept.orderly hagain) fun other hother location hlocation =>
        (hstill location).trans (hsame other (List.mem_cons_of_mem name hother) location hlocation)
    exact ⟨later, on_bind_ok.mpr ⟨next, between, hbetween, hon⟩, hlaterOrderly, fun location =>
      (hlaterSame location).trans (hstill location)⟩

/-- Makes the meta package, where the configuration asks for one. -/
def metaFiles (config : Config) (dryRun : Bool) (root : Path) : Action (List FileRecord) :=
  if config.buildMeta then Meta.build config dryRun root else pure []

/-- The work of a run on the disk: the stores root, what was done and the files of the meta
package. -/
def work (config : Config) (dryRun : Bool) (start : Path) :
    Action (Path × Progress × List FileRecord) := do
  let root ← Action.ofExcept (rootOf config (← Action.disk) start)
  let directories ← Action.ofExcept (Discovery.packages config (← Action.disk) root)
  let progress ← directories.foldlM (synthesize config dryRun root) {}
  let metaRecords ← metaFiles config dryRun root
  return (root, progress, metaRecords)

/-- The report on the work of a run without formatter. -/
def reportOn (config : Config) (dryRun : Bool) (timestamp : String)
    (done : Path × Progress × List FileRecord) : RunReport :=
  let manifest :=
    { Manifest.start config done.1.render dryRun timestamp with
      files := done.2.1.records ++ done.2.2 }
  { storesRoot := done.1.render
    dryRun
    packages := done.2.1.packages
    totalEntities := done.2.1.entities
    totalFiles := manifest.totalFiles
    totalBytes := manifest.totalBytes
    formatterRan := false
    manifest }

/-- Without formatter and manifest file, a run is its work and a report on it. -/
theorem run_eq (hformatter : config.runFormatter = false) (dryRun : Bool) (start : Path)
    (timestamp : String) :
    run config dryRun start none timestamp = (do
      let done ← work config dryRun start
      return reportOn config dryRun timestamp done) := by
  cases hmeta : config.buildMeta <;>
    simp only [run, work, metaFiles, hformatter, hmeta, Bool.false_and, Bool.false_eq_true,
      if_false, if_true, bind_assoc, pure_bind] <;> rfl

theorem work_dry_keeps (start : Path) : Keeps Eq (work config true start) := by
  have hwrite : ∀ mode path content, Keeps Eq (Export.writeFile true mode path content) :=
    fun _ _ _ => .of_disk_eq fun _ => rfl
  refine .bind (.of_disk_eq fun _ => rfl) fun _ => .bind (.ofExcept _) fun root => ?_
  refine .bind (.of_disk_eq fun _ => rfl) fun _ => .bind (.ofExcept _) fun directories => ?_
  refine .bind (.foldlM (fun path _ progress => synthesize_dry_keeps root path progress) _)
    fun _ => ?_
  refine .bind (.ite ?_ (.of_disk_eq fun _ => rfl)) fun _ => .of_disk_eq fun _ => rfl
  exact .bind (hwrite _ _ _) fun _ => .bind (hwrite _ _ _) fun _ => .of_disk_eq fun _ => rfl

/-- What is on the way to an entry of the stores root, or below it, is not in the meta package. -/
theorem not_below_meta {above rest location : Location}
    (h : location <+: above ++ "stores" :: rest) : ¬ above ++ ["storesmeta"] <+: location := by
  intro hbelow
  have hprefix := hbelow.trans h
  rw [List.prefix_append_right_inj, List.cons_prefix_cons] at hprefix
  exact absurd hprefix.1 (by decide)

theorem not_below_meta_of_around {above : Location} {name : String} {location : Location}
    (h : Around (above ++ ["stores"] ++ [name]) location) :
    ¬ above ++ ["storesmeta"] <+: location := by
  rcases h with hup | ⟨entry, rfl⟩
  · exact @not_below_meta above [name] location (by simpa using hup)
  · exact @not_below_meta above [name, entry] _ (by simp)

theorem not_below_meta_of_around_root {above location : Location}
    (h : Around (above ++ ["stores"]) location) : ¬ above ++ ["storesmeta"] <+: location := by
  rcases h with hup | ⟨entry, rfl⟩
  · exact @not_below_meta above [] location hup
  · exact @not_below_meta above [entry] _ (by simp)

theorem not_generated_of_around_root {names : List String} {location : Location}
    (h : Around root location) :
    ¬ ∃ name ∈ names, Generated config (root ++ [name]) location := by
  rintro ⟨name, -, file, rfl, -⟩
  rcases h with hup | ⟨entry, heq⟩
  · have hlength := hup.length_le
    simp only [List.length_append, List.length_singleton] at hlength
    omega
  · have hlength := congrArg List.length heq
    simp only [List.length_append, List.length_singleton] at hlength
    omega

/-- The parts of a run's work that succeeds. -/
theorem work_ok_iff {dryRun : Bool} {start : Path} {done : Path × Progress × List FileRecord} :
    (work config dryRun start).on workspace = (.ok done, last) ↔
      ∃ directories middle, rootOf config workspace.disk start = .ok done.1 ∧
        Discovery.packages config workspace.disk done.1 = .ok directories ∧
        (directories.foldlM (synthesize config dryRun done.1) {}).on workspace =
          (.ok done.2.1, middle) ∧
        (metaFiles config dryRun done.1).on middle = (.ok done.2.2, last) := by
  obtain ⟨root, progress, records⟩ := done
  rw [work, on_disk_bind, on_ofExcept_bind_ok]
  constructor
  · rintro ⟨_, hroot, hrest⟩
    obtain ⟨directories, hpackages, hrest⟩ := on_ofExcept_bind_ok.mp hrest
    obtain ⟨_, middle, hfold, hrest⟩ := on_bind_ok.mp hrest
    obtain ⟨_, _, hmeta, hpure⟩ := on_bind_ok.mp hrest
    cases hpure
    exact ⟨directories, middle, hroot, hpackages, hfold, hmeta⟩
  · rintro ⟨directories, middle, hroot, hpackages, hfold, hmeta⟩
    refine ⟨root, hroot, ?_⟩
    rw [on_disk_bind, on_ofExcept_bind_ok]
    refine ⟨directories, hpackages, on_bind_ok.mpr ⟨progress, middle, hfold, ?_⟩⟩
    exact on_bind_ok.mpr ⟨records, last, hmeta, rfl⟩

theorem metaFiles_keeps (hlayout : config.HasDefaultNames) {above : Location}
    (habove : ∀ name ∈ above, IsName name) :
    Keeps (ChangesOnly fun location => above ++ ["storesmeta"] <+: location)
      (metaFiles config false (.absolute (above ++ ["stores"]))) :=
  .ite (Meta.build_keeps hlayout habove) (.of_disk_eq fun _ => rfl)

/-- The work of a run can be done again where it was done, with the same outcome and no change. -/
theorem work_again (hlayout : config.IsDefaultLayout) (hplain : workspace.disk.tree.IsPlain)
    (hcwd : ∀ name ∈ workspace.disk.cwd, IsName name) {start : String}
    {done : Path × Progress × List FileRecord}
    (hok : (work config false (.ofString start)).on workspace = (.ok done, last)) :
    ∃ later, (work config false (.ofString start)).on { disk := last.disk } = (.ok done, later) ∧
      ∀ location, later.disk.tree.get? location = last.disk.tree.get? location := by
  have horderly := hplain.toIsOrderly
  obtain ⟨directories, middle, hroot, hpackages, hfold, hmeta⟩ := work_ok_iff.mp hok
  obtain ⟨above, hpath, habove, -⟩ := rootOf_eq hlayout.names horderly hcwd hroot
  have hrootNames : ∀ name ∈ above ++ ["stores"], IsName name :=
    isName_append habove (by decide)
  rw [hpath] at hpackages hfold hmeta
  obtain ⟨names, rfl, hnodup, hnames⟩ := Discovery.packages_eq horderly hrootNames hpackages
  have hfolded := (foldlM_keeps hlayout.names hrootNames hnames {}).of_on hfold
  have hmiddle := hfolded.orderly horderly
  have hbuilt := (metaFiles_keeps hlayout.names habove).of_on hmeta
  have hlast := hbuilt.orderly hmiddle
  have hrootAgain : rootOf config last.disk (.ofString start) = .ok done.1 := by
    rw [← hroot]
    exact rootOf_congr hlast horderly ((hbuilt.cwd hmiddle).trans (hfolded.cwd horderly)) _
  have hpackagesAgain : Discovery.packages config last.disk (.absolute (above ++ ["stores"])) =
      .ok (names.map fun name => .absolute (above ++ ["stores"] ++ [name])) := by
    rw [← hpackages]
    refine Discovery.packages_congr hlast horderly hrootNames fun location hlocation => ?_
    rw [hbuilt.same hmiddle location (not_below_meta_of_around_root hlocation),
      hfolded.same horderly location (not_generated_of_around_root hlocation)]
  obtain ⟨between, hfoldAgain, hbetween, hsame⟩ := @foldlM_again config _ workspace middle
    hlayout.names hrootNames _ hnodup hnames horderly _ _ hfold { disk := last.disk } hlast
    fun name _ location hlocation =>
      hbuilt.same hmiddle location (not_below_meta_of_around hlocation)
  have hclosed : middle.disk.tree.get? (above ++ ["storesmeta"]) = none →
      ∀ location, above ++ ["storesmeta"] <+: location →
        middle.disk.tree.get? location = none := by
    have hmeta : ∀ location, above ++ ["storesmeta"] <+: location →
        middle.disk.tree.get? location = workspace.disk.tree.get? location := by
      intro location hlocation
      refine hfolded.same horderly location ?_
      rintro ⟨name, -, file, rfl, -⟩
      exact not_below_meta_of_around (Or.inr ⟨file, rfl⟩) hlocation
    intro hnone location hlocation
    rw [hmeta location hlocation]
    exact hplain.get?_eq_none_of_below ((hmeta _ (List.prefix_refl _)).symm.trans hnone) hlocation
  obtain ⟨later, hmetaAgain, hlater⟩ : ∃ later,
      (metaFiles config false (.absolute (above ++ ["stores"]))).on between =
        (.ok done.2.2, later) ∧
      ∀ location, later.disk.tree.get? location = between.disk.tree.get? location := by
    unfold metaFiles at hmeta ⊢
    split_ifs at hmeta ⊢
    · exact Meta.build_again hlayout habove hmiddle hclosed hmeta hbetween hsame
    · obtain ⟨hrecords, -⟩ := Prod.mk.inj hmeta
      exact ⟨between, by rw [← hrecords]; rfl, fun _ => rfl⟩
  rw [← hpath] at hpackagesAgain hfoldAgain hmetaAgain
  exact ⟨later, work_ok_iff.mpr ⟨_, between, hrootAgain, hpackagesAgain, hfoldAgain, hmetaAgain⟩,
    fun location => (hlater location).trans (hsame location)⟩

/-- A second run on what a successful run has left succeeds, leaves every entry as it is and records
the same files in the same order. Neither run is asked for a manifest on the disk. -/
theorem run_idempotent (hlayout : config.IsDefaultLayout) (hformatter : config.runFormatter = false)
    {disk : Disk} (hplain : disk.tree.IsPlain) (hcwd : ∀ name ∈ disk.cwd, IsName name)
    {dryRun : Bool} {start firstTime secondTime : String} {report : RunReport} {after : Workspace}
    (hok : (run config dryRun (.ofString start) none firstTime).runOn disk = (.ok report, after)) :
    ∃ report' after',
      (run config dryRun (.ofString start) none secondTime).runOn after.disk =
        (.ok report', after') ∧
      (∀ location, after'.disk.tree.get? location = after.disk.tree.get? location) ∧
      report'.manifest.files = report.manifest.files := by
  rw [run_eq hformatter] at hok ⊢
  obtain ⟨done, later, hwork, hpure⟩ := on_bind_ok.mp hok
  cases hpure
  obtain ⟨after', hagain, hsame⟩ : ∃ after',
      (work config dryRun (.ofString start)).on { disk := after.disk } = (.ok done, after') ∧
      ∀ location, after'.disk.tree.get? location = after.disk.tree.get? location := by
    cases dryRun with
    | false => exact work_again hlayout hplain hcwd hwork
    | true =>
      have hkept := @work_dry_keeps config (.ofString start) { disk }
      rw [hwork] at hkept
      exact ⟨after, by rw [← hkept]; exact hwork, fun _ => rfl⟩
  exact ⟨_, after', on_bind_ok.mpr ⟨done, after', hagain, rfl⟩, hsame, rfl⟩

theorem decode?_toUTF8 {text : String} (h : Text.unifyNewlines text.toList = text.toList) :
    Disk.decode? text.toUTF8 = some text := by
  have hbytes : String.fromUTF8? text.toUTF8 = some text := by
    rw [String.fromUTF8?, String.toUTF8_eq_toByteArray, dif_pos text.isValidUTF8]
    rfl
  rw [Disk.decode?, hbytes, Option.map_some, h, String.ofList_toList]

/-- The defaults without formatter. -/
def sampleConfig : Config := { runFormatter := false }

def entitySource : String := "// @synthesize\ntype A struct \x7b\n\tid string\n\x7d\n"

def storeSource : String := "type S struct \x7b\n\x7d\n"

/-- A disk with one package, and further entries of its directory. -/
def sampleDisk (more : List (Location × Node)) : Disk :=
  { tree := ⟨[(["stores"], .plainDirectory), (["stores", "a"], .plainDirectory),
      (["stores", "a", "a.go"], .file entitySource.toUTF8 0o644)] ++ more ++
      [(["stores", "a", "store.go"], .file storeSource.toUTF8 0o644)]⟩ }

/-- A generated file of an earlier run. -/
def staleFile : Location × Node :=
  (["stores", "a", "old_synthesized.go"], .file "".toUTF8 0o600)

def sampleEntity : Entity :=
  { name := "A"
    packageName := "a"
    importPath := "github.com/espal-digital-development/espal-core/stores/a"
    properties := [⟨"id", "string", ""⟩]
    sourcePath := some "/stores/a/a.go" }

def sampleStore : Store :=
  { structName := "S"
    packageName := "a"
    mainEntity := some sampleEntity
    sourcePath := some "/stores/a/store.go" }

/-- The package that the directory declares. -/
def samplePackage : Package :=
  { name := "a"
    path := "/stores/a"
    importPath := sampleEntity.importPath
    mainEntity := some sampleEntity
    store := some (sampleStore.finalize sampleConfig) }

private theorem clean_sample :
    (clean sampleConfig false (.absolute ["stores", "a"])).on { disk := sampleDisk [staleFile] } =
      (.ok [.absolute ["stores", "a", "old_synthesized.go"]], { disk := sampleDisk [] }) := by
  have hnames : (sampleDisk [staleFile]).tree.names ["stores", "a"] =
      ["a.go", "old_synthesized.go", "store.go"] := by
    rw [names, List.mergeSort_of_pairwise (by decide)]
    rfl
  have hfiles : sourceFiles sampleConfig (sampleDisk [staleFile]) (.absolute ["stores", "a"]) =
      .ok [.absolute ["stores", "a", "a.go"], .absolute ["stores", "a", "old_synthesized.go"],
        .absolute ["stores", "a", "store.go"]] := by
    rw [sourceFiles_eq_filterM rfl (by decide), names?, hnames]
    decide
  rw [clean, on_disk_bind, on_ofExcept_bind_ok]
  exact ⟨_, hfiles, rfl⟩

private theorem assemble_sample :
    (assemble sampleConfig (.absolute ["stores", "a"]) sampleEntity.importPath).on
      { disk := sampleDisk [] } =
      (.ok samplePackage,
        ⟨sampleDisk [], samplePackage.checkNotices (samplePackage.check sampleConfig)⟩) := by
  have hnames : (sampleDisk []).tree.names ["stores", "a"] = ["a.go", "store.go"] := by
    rw [names, List.mergeSort_of_pairwise (by decide)]
    rfl
  have hfiles : sourceFiles sampleConfig (sampleDisk []) (.absolute ["stores", "a"]) =
      .ok [.absolute ["stores", "a", "a.go"], .absolute ["stores", "a", "store.go"]] := by
    rw [sourceFiles_eq_filterM rfl (by decide), names?, hnames]
    decide
  have hentity : (readText (.absolute ["stores", "a", "a.go"])).on { disk := sampleDisk [] } =
      (.ok entitySource, { disk := sampleDisk [] }) := by
    have hcontent : (sampleDisk []).fileContent (.absolute ["stores", "a", "a.go"]) =
        .ok entitySource.toUTF8 := rfl
    rw [readText, on_disk_bind]
    simp only [hcontent, @decode?_toUTF8 entitySource (by decide), on_pure]
  have hstore : (readText (.absolute ["stores", "a", "store.go"])).on { disk := sampleDisk [] } =
      (.ok storeSource, { disk := sampleDisk [] }) := by
    have hcontent : (sampleDisk []).fileContent (.absolute ["stores", "a", "store.go"]) =
        .ok storeSource.toUTF8 := rfl
    rw [readText, on_disk_bind]
    simp only [hcontent, @decode?_toUTF8 storeSource (by decide), on_pure]
  have hvalid : (samplePackage.check sampleConfig).isValid = true := by decide
  rw [assemble, on_disk_bind, on_ofExcept_bind_ok]
  refine ⟨_, hfiles, on_ofExcept_bind_ok.mpr ⟨(.absolute ["stores", "a", "store.go"],
    .absolute ["stores", "a", "a.go"]), by decide, ?_⟩⟩
  refine on_bind_ok.mpr ⟨_, _, hentity, on_ofExcept_bind_ok.mpr ⟨sampleEntity, by decide, ?_⟩⟩
  refine on_bind_ok.mpr ⟨_, _, hstore, on_ofExcept_bind_ok.mpr ⟨sampleStore, by decide, ?_⟩⟩
  refine on_bind_ok.mpr ⟨(sampleStore, []), _, rfl, ?_⟩
  refine on_ofExcept_bind_ok.mpr ⟨samplePackage, by decide, ?_⟩
  refine on_bind_ok.mpr ⟨(), _, on_tell _, ?_⟩
  rw [if_pos hvalid]
  rfl

/-- A disk with a file put in place. -/
def withFile (disk : Disk) (location : Location) (content : String) : Disk :=
  { disk with tree := disk.tree.put location (.file content.toUTF8 0o600) }

private theorem writeFile_on {disk after : Disk} {path : Path} {content : String} {mode : Nat}
    {notices : List Notice} (h : disk.replaceFile path content.toUTF8 mode = .ok after) :
    (Export.writeFile false mode path content).on ⟨disk, notices⟩ =
      (.ok (.ofContent path content), ⟨after, notices⟩) :=
  on_bind_ok.mpr ⟨(), _, on_change_ok.mpr ⟨_, h, rfl⟩, rfl⟩

/-- The disk with the files of the package. -/
def writtenDisk (main test store : String) : Disk :=
  withFile (withFile (withFile (sampleDisk []) ["stores", "a", "a_synthesized.go"] main)
    ["stores", "a", "a_synthesized_test.go"] test) ["stores", "a", "store_synthesized.go"] store

/-- The disk with the directory of the meta package too. -/
def furtherDisk (main test store : String) : Disk :=
  { writtenDisk main test store with
    tree := (writtenDisk main test store).tree.put ["storesmeta"] (.directory 0o700) }

/-- The disk with the meta package. -/
def finalDisk (main test store : String) : Disk :=
  withFile (withFile (furtherDisk main test store) ["storesmeta", "storesmeta.go"]
    (Meta.file sampleConfig).render) ["storesmeta", "storesmeta_test.go"]
    (Meta.testFile sampleConfig).render

/-- The paths of the files of the package. -/
def samplePaths : List String :=
  ["/stores/a/a_synthesized.go", "/stores/a/a_synthesized_test.go",
    "/stores/a/store_synthesized.go"]

/-- The paths of the files of the meta package. -/
def sampleMetaPaths : List String :=
  ["/storesmeta/storesmeta.go", "/storesmeta/storesmeta_test.go"]

private theorem writeAll_sample (main test store : String) (notices : List Notice) :
    ∃ records, records.map FileRecord.path = samplePaths ∧
      (Export.writeAll sampleConfig false (.absolute ["stores", "a"])
        [⟨"a_synthesized.go", main⟩, ⟨"a_synthesized_test.go", test⟩,
          ⟨"store_synthesized.go", store⟩]).on ⟨sampleDisk [], notices⟩ =
        (.ok records, ⟨writtenDisk main test store, notices⟩) := by
  have hmain : (sampleDisk []).replaceFile
      ((Path.absolute ["stores", "a"]).child "a_synthesized.go") main.toUTF8
      sampleConfig.fileMode =
      .ok (withFile (sampleDisk []) ["stores", "a", "a_synthesized.go"] main) := rfl
  have htest : (withFile (sampleDisk []) ["stores", "a", "a_synthesized.go"] main).replaceFile
      ((Path.absolute ["stores", "a"]).child "a_synthesized_test.go") test.toUTF8
      sampleConfig.fileMode =
      .ok (withFile (withFile (sampleDisk []) ["stores", "a", "a_synthesized.go"] main)
        ["stores", "a", "a_synthesized_test.go"] test) := rfl
  have hstore : (withFile (withFile (sampleDisk []) ["stores", "a", "a_synthesized.go"] main)
      ["stores", "a", "a_synthesized_test.go"] test).replaceFile
      ((Path.absolute ["stores", "a"]).child "store_synthesized.go") store.toUTF8
      sampleConfig.fileMode = .ok (writtenDisk main test store) := rfl
  have hdone : (([] : List GeneratedFile).mapM fun file =>
      Export.writeFile false sampleConfig.fileMode
        ((Path.absolute ["stores", "a"]).child file.path) file.content).on
      ⟨writtenDisk main test store, notices⟩ =
      (.ok [], ⟨writtenDisk main test store, notices⟩) := rfl
  have hfirst := @writeFile_on _ _ _ _ _ notices hmain
  have hsecond := @writeFile_on _ _ _ _ _ notices htest
  have hthird := @writeFile_on _ _ _ _ _ notices hstore
  refine ⟨_, ?_, on_mapM_cons hfirst (on_mapM_cons hsecond (on_mapM_cons hthird hdone))⟩
  simp only [List.map_cons, FileRecord.ofContent]
  decide

private theorem metaFiles_sample (main test store : String) (notices : List Notice) :
    ∃ records, records.map FileRecord.path = sampleMetaPaths ∧
      (metaFiles sampleConfig false (.absolute ["stores"])).on
        ⟨writtenDisk main test store, notices⟩ =
          (.ok records, ⟨finalDisk main test store, notices⟩) := by
  have hvacate : (Meta.vacate (Meta.directory sampleConfig (.absolute ["stores"]))).on
      ⟨writtenDisk main test store, notices⟩ =
      (.ok (), ⟨writtenDisk main test store, notices⟩) := rfl
  have hmake : (writtenDisk main test store).makeDirectory sampleConfig.directoryMode
      (Meta.directory sampleConfig (.absolute ["stores"])) =
      .ok (furtherDisk main test store) := rfl
  have hsource : (furtherDisk main test store).replaceFile
      ((Meta.directory sampleConfig (.absolute ["stores"])).child
        (sampleConfig.fileName sampleConfig.metaDirectoryName))
      (Meta.file sampleConfig).render.toUTF8 sampleConfig.fileMode =
      .ok (withFile (furtherDisk main test store) ["storesmeta", "storesmeta.go"]
        (Meta.file sampleConfig).render) := rfl
  have htest : (withFile (furtherDisk main test store) ["storesmeta", "storesmeta.go"]
      (Meta.file sampleConfig).render).replaceFile
      ((Meta.directory sampleConfig (.absolute ["stores"])).child
        (sampleConfig.testFileName sampleConfig.metaDirectoryName))
      (Meta.testFile sampleConfig).render.toUTF8 sampleConfig.fileMode =
      .ok (finalDisk main test store) := rfl
  have hbuild : sampleConfig.buildMeta = true := rfl
  rw [metaFiles, if_pos hbuild, Meta.build_eq]
  refine ⟨_, ?_, on_bind_ok.mpr ⟨(), _, hvacate, on_bind_ok.mpr ⟨(), _,
    on_change_ok.mpr ⟨_, hmake, rfl⟩, on_bind_ok.mpr ⟨_, _, writeFile_on hsource,
      on_bind_ok.mpr ⟨_, _, writeFile_on htest, on_pure _⟩⟩⟩⟩⟩
  decide

/-- The notices of the package. -/
def sampleNotices : List Notice :=
  samplePackage.checkNotices (samplePackage.check sampleConfig) ++
    samplePackage.notices sampleConfig

theorem synthesize_sample :
    ∃ store records, records.map FileRecord.path = samplePaths ∧
      (synthesize sampleConfig false (.absolute ["stores"]) {} (.absolute ["stores", "a"])).on
        { disk := sampleDisk [staleFile] } =
        (.ok ⟨["a"], 1, records⟩, ⟨writtenDisk (sampleEntity.render sampleConfig)
          (sampleEntity.testText sampleConfig) store, sampleNotices⟩) := by
  have hvalid : (samplePackage.check sampleConfig).isValid = true := by decide
  obtain ⟨main, -, storeText, hmain, -, -, hfiles⟩ := Package.files_of_check hvalid
  cases hmain
  obtain ⟨records, hrecords, hwrite⟩ := writeAll_sample (sampleEntity.render sampleConfig)
    (sampleEntity.testText sampleConfig) storeText sampleNotices
  refine ⟨storeText, records, hrecords, ?_⟩
  rw [synthesize_eq, on_disk_bind, on_ofExcept_bind_ok]
  refine ⟨sampleEntity.importPath, by decide, ?_⟩
  refine on_bind_ok.mpr ⟨(), _, on_bind_ok.mpr ⟨_, _, clean_sample, rfl⟩, ?_⟩
  refine on_bind_ok.mpr ⟨_, _, assemble_sample, on_bind_ok.mpr ⟨(), _, on_tell _, ?_⟩⟩
  exact on_ofExcept_bind_ok.mpr ⟨_, hfiles, on_bind_ok.mpr ⟨_, _, hwrite, rfl⟩⟩

theorem packages_sample :
    Discovery.packages sampleConfig (sampleDisk [staleFile]) (.absolute ["stores"]) =
      .ok [.absolute ["stores", "a"]] := by
  have hnames : (sampleDisk [staleFile]).names? ["stores"] = some ["a"] := by
    rw [names?, names, List.mergeSort_of_pairwise (by decide)]
    rfl
  have hdirectory : (sampleDisk [staleFile]).directory? (.absolute ["stores"]) =
      some ["stores"] := rfl
  simp only [Discovery.packages, hdirectory, hnames]
  decide

/-- The work of a run that removes a stale file, and what it leaves. -/
theorem work_sample_on :
    ∃ store done, done.2.1.records.map FileRecord.path = samplePaths ∧
      done.2.2.map FileRecord.path = sampleMetaPaths ∧
      (work sampleConfig false (.ofString "/")).on { disk := sampleDisk [staleFile] } =
        (.ok done, ⟨finalDisk (sampleEntity.render sampleConfig)
          (sampleEntity.testText sampleConfig) store, sampleNotices⟩) := by
  obtain ⟨store, records, hrecords, hstep⟩ := synthesize_sample
  obtain ⟨metaRecords, hmetaRecords, hmeta⟩ := metaFiles_sample
    (sampleEntity.render sampleConfig) (sampleEntity.testText sampleConfig) store sampleNotices
  refine ⟨store, (.absolute ["stores"], ⟨["a"], 1, records⟩, metaRecords), hrecords,
    hmetaRecords, ?_⟩
  rw [work, on_disk_bind, on_ofExcept_bind_ok]
  refine ⟨.absolute ["stores"], by decide, ?_⟩
  rw [on_disk_bind, on_ofExcept_bind_ok]
  refine ⟨_, packages_sample, on_bind_ok.mpr ⟨_, _, on_bind_ok.mpr ⟨_, _, hstep, rfl⟩, ?_⟩⟩
  exact on_bind_ok.mpr ⟨_, _, hmeta, rfl⟩

/-- The work writes five files. -/
theorem work_sample :
    ∃ done later, done.2.1.records.length = 3 ∧ done.2.2.length = 2 ∧
      (work sampleConfig false (.ofString "/")).on { disk := sampleDisk [staleFile] } =
        (.ok done, later) := by
  obtain ⟨store, done, hrecords, hmeta, hwork⟩ := work_sample_on
  exact ⟨done, _, by simpa [samplePaths] using congrArg List.length hrecords,
    by simpa [sampleMetaPaths] using congrArg List.length hmeta, hwork⟩

/-- The first run deletes a stale file and writes five files, the second one writes the same. -/
theorem run_idempotent_sample :
    ∃ report after report' after',
      (run sampleConfig false (.ofString "/") none "now").runOn (sampleDisk [staleFile]) =
        (.ok report, after) ∧
      report.manifest.files.length = 5 ∧
      (run sampleConfig false (.ofString "/") none "later").runOn after.disk =
        (.ok report', after') ∧
      (∀ location, after'.disk.tree.get? location = after.disk.tree.get? location) ∧
      report'.manifest.files = report.manifest.files := by
  obtain ⟨done, later, hpackage, hmeta, hwork⟩ := work_sample
  have hok : (run sampleConfig false (.ofString "/") none "now").runOn (sampleDisk [staleFile]) =
      (.ok (reportOn sampleConfig false "now" done), later) := by
    rw [run_eq rfl]
    exact on_bind_ok.mpr ⟨done, later, hwork, rfl⟩
  obtain ⟨report', after', hagain, hsame, hfiles⟩ :=
    @run_idempotent sampleConfig ⟨⟨rfl, rfl, rfl, rfl, rfl, rfl⟩, rfl⟩ rfl (sampleDisk [staleFile])
      (.of_isPlain (by decide)) (by simp [sampleDisk]) false "/" "now" "later" _ _ hok
  refine ⟨_, _, report', after', hok, ?_, hagain, hsame, hfiles⟩
  simp [reportOn, hpackage, hmeta]

end Run

end Scaffold
