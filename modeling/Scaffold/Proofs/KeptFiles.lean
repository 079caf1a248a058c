import Scaffold.Proofs.Idempotence

/-!
# Files that a run leaves alone

A run may write to few places: the generated files of the package directories, and what lies below
the directory of the meta package. Whatever happens in between, a file anywhere else is afterwards
what it was before, and no new one has come.
-/

namespace Scaffold

namespace Disk

open Tree

variable {first second : Disk} {region : Location → Prop} {top location : Location}

/-- An orderly tree, and a working directory that a location can be built on. -/
structure IsOrderly (disk : Disk) : Prop where
  tree : disk.tree.IsOrderly
  cwd : ∀ name ∈ disk.cwd, IsName name

/-- The files of an orderly disk outside a region are as before: none has changed, gone or come. -/
structure KeepsFiles (region : Location → Prop) (before after : Disk) : Prop where
  cwd : before.IsOrderly → after.cwd = before.cwd
  orderly : before.IsOrderly → after.tree.IsOrderly
  files : before.IsOrderly → ∀ location, ¬ region location → ∀ content mode,
    after.tree.get? location = some (.file content mode) ↔
      before.tree.get? location = some (.file content mode)

theorem KeepsFiles.isOrderly (h : KeepsFiles region first second) (ho : first.IsOrderly) :
    second.IsOrderly :=
  ⟨h.orderly ho, (h.cwd ho).symm ▸ ho.cwd⟩

instance : IsPreorder Disk (KeepsFiles region) where
  refl _ := ⟨fun _ => rfl, fun ho => ho.tree, fun _ _ _ _ _ => Iff.rfl⟩
  trans _ _ _ h h' :=
    ⟨fun ho => (h'.cwd (h.isOrderly ho)).trans (h.cwd ho), fun ho => h'.orderly (h.isOrderly ho),
      fun ho location hout content mode =>
        (h'.files (h.isOrderly ho) location hout content mode).trans
          (h.files ho location hout content mode)⟩

theorem KeepsFiles.mono {wider : Location → Prop} (h : KeepsFiles region first second)
    (hsub : ∀ location, region location → wider location) : KeepsFiles wider first second :=
  ⟨h.cwd, h.orderly, fun ho location hout => h.files ho location (mt (hsub location) hout)⟩

theorem KeepsFiles.of_orderly (h : first.IsOrderly → KeepsFiles region first second) :
    KeepsFiles region first second :=
  ⟨fun ho => (h ho).cwd ho, fun ho => (h ho).orderly ho, fun ho => (h ho).files ho⟩

theorem ChangesOnly.keepsFiles (h : ChangesOnly region first second) :
    KeepsFiles region first second :=
  ⟨fun ho => h.cwd ho.tree, fun ho => h.orderly ho.tree,
    fun ho location hout content mode => by rw [h.same ho.tree location hout]⟩

/-- A directory that comes to a vacant place is no file. -/
theorem keepsFiles_put_directory (h : first.tree.IsOrderly) (hne : location ≠ [])
    (hnames : ∀ name ∈ location, IsName name) (hvacant : first.tree.get? location = none)
    (mode : Nat) :
    KeepsFiles region first
      { first with tree := first.tree.put location (.directory mode) } := by
  refine ⟨fun _ => rfl, fun _ => h.put hne hnames (by simp), fun _ other _ content fileMode => ?_⟩
  rw [get?_put hne]
  split_ifs with hother
  · simp [hother, hvacant]
  · rfl

/-- A location lies below another one and is not that one itself. -/
def Below (top location : Location) : Prop :=
  top <+: location ∧ location ≠ top

/-- What lies below a location stands in it or in a directory below it. -/
theorem below_append_iff {directory : Location} {name : String} :
    Below top (directory ++ [name]) ↔ top <+: directory := by
  rw [Below, List.prefix_concat_iff]
  constructor
  · rintro ⟨heq | habove, hne⟩
    · exact absurd heq.symm hne
    · exact habove
  · intro habove
    refine ⟨Or.inr habove, ?_⟩
    rintro rfl
    have hlength := habove.length_le
    simp only [List.length_append, List.length_singleton] at hlength
    omega

end Disk

namespace Meta

open Tree Disk Action

variable {config : Config} {above : Location} {name : String}

/-- A file at the place of the directory itself is not taken away. -/
theorem vacate_keepsFiles (hnames : ∀ other ∈ above ++ [name], IsName other) :
    Keeps (KeepsFiles (Below (above ++ [name]))) (vacate (.absolute (above ++ [name]))) := by
  refine .bind (.of_disk_eq fun _ => rfl) fun disk => .ite (.bind ?_ fun _ => ?_)
    (.of_disk_eq fun _ => rfl)
  · refine .change fun disk after hafter => .of_orderly fun horderly => ?_
    obtain rfl := clear_of_emptyDirectory horderly.tree hnames hafter
    refine ⟨fun _ => rfl, fun _ => horderly.tree.clear, fun _ location hout content mode => ?_⟩
    rw [Below] at hout
    rw [get?_clear, if_neg hout]
  · refine .change fun disk after hafter => .of_orderly fun horderly => ?_
    obtain ⟨rfl, directoryMode, hdirectory⟩ := erase_of_removeEmpty horderly.tree hnames hafter
    refine ⟨fun _ => rfl, fun _ => horderly.tree.erase (by simp), ?_⟩
    intro _ location _ content mode
    rw [get?_erase (by simp)]
    split_ifs with hlocation
    · simp [hlocation, hdirectory]
    · rfl

theorem fill_keepsFiles (hlayout : config.HasDefaultNames) (habove : ∀ name ∈ above, IsName name)
    (hname : IsName name) :
    Keeps (KeepsFiles (Below (above ++ [name]))) (fill config (.absolute (above ++ [name]))) := by
  have hnames := isName_append habove hname
  refine .bind (.change fun disk after hafter => .of_orderly fun horderly => ?_) fun _ =>
    (write_keeps hlayout hnames fun _ => ⟨List.prefix_append _ _, by simp⟩).mono
      fun _ _ h => h.toChangesOnly.keepsFiles
  obtain ⟨rfl, hvacant, -⟩ := put_of_makeDirectory horderly.tree habove hname hafter
  exact keepsFiles_put_directory horderly.tree (by simp) hnames hvacant _

theorem build_keepsFiles (hlayout : config.HasDefaultNames) (habove : ∀ name ∈ above, IsName name) :
    Keeps (KeepsFiles (Below (above ++ ["storesmeta"])))
      (build config false (.absolute (above ++ [name]))) := by
  have hname : IsName "storesmeta" := by decide
  rw [build_eq, directory_absolute hlayout]
  exact .bind (vacate_keepsFiles (isName_append habove hname)) fun _ =>
    fill_keepsFiles hlayout habove hname

end Meta

namespace Run

open Tree Disk Action Aggregation

variable {config : Config} {workspace : Workspace}

/-- The places that a run may write to: generated files of the directories in the stores root, and
what lies below the directory of the meta package. -/
def Reserved (config : Config) (root : Path) (location : Location) : Prop :=
  (∃ name, Generated config (root.parts ++ [name]) location) ∨
    Below (Meta.directory config root).parts location

/-- The work of a run, whether it succeeds or fails, leaves the files outside its places alone. -/
theorem work_keepsFiles (hlayout : config.HasDefaultNames)
    (horderly : workspace.disk.IsOrderly) (start : String) {region : Location → Prop}
    (hregion : ∀ root, rootOf config workspace.disk (.ofString start) = .ok root →
      ∀ location, Reserved config root location → region location) :
    KeepsFiles region workspace.disk
      ((work config false (.ofString start)).on workspace).2.disk := by
  rw [work, on_disk_bind, on_bind, on_ofExcept]
  cases hroot : rootOf config workspace.disk (.ofString start) with
  | error error => exact refl_of _ _
  | ok root =>
    obtain ⟨above, rfl, habove, -⟩ := rootOf_eq hlayout horderly.tree horderly.cwd hroot
    have hrootNames : ∀ name ∈ above ++ ["stores"], IsName name :=
      isName_append habove (by decide)
    simp only
    rw [on_disk_bind, on_bind, on_ofExcept]
    cases hpackages :
        Discovery.packages config workspace.disk (.absolute (above ++ ["stores"])) with
    | error error => exact refl_of _ _
    | ok directories =>
      obtain ⟨names, rfl, -, hnames⟩ := Discovery.packages_eq horderly.tree hrootNames hpackages
      refine @Keeps.bind _ _ _ _ (KeepsFiles region) _ ?_ (fun progress => ?_) workspace
      · refine (foldlM_keeps hlayout hrootNames hnames {}).mono fun _ _ h => ?_
        refine h.keepsFiles.mono fun location hlocation => hregion _ hroot location ?_
        obtain ⟨name, -, hgenerated⟩ := hlocation
        exact Or.inl ⟨name, hgenerated⟩
      · refine .bind (.ite ((Meta.build_keepsFiles hlayout habove).mono fun _ _ h => ?_)
          (.of_disk_eq fun _ => rfl)) fun _ => .of_disk_eq fun _ => rfl
        refine h.mono fun location hlocation => hregion _ hroot location (Or.inr ?_)
        rwa [Meta.directory_absolute hlayout]

/-- A file whose name lacks the marker of generated files, outside the directory of the meta
package, is after a run what it was before, whether the run is dry or not and whether it succeeds
or fails; and no such file has come. -/
theorem run_keeps_handWritten (hlayout : config.HasDefaultNames)
    (hformatter : config.runFormatter = false) {disk : Disk} (horderly : disk.tree.IsOrderly)
    (hcwd : ∀ name ∈ disk.cwd, IsName name) (dryRun : Bool) (start timestamp : String)
    {directory : Location} {name : String}
    (hname : Text.contains name config.generatedMarker = false)
    (houtside : ∀ root, rootOf config disk (.ofString start) = .ok root →
      ¬ (Meta.directory config root).parts <+: directory)
    (content : ByteArray) (mode : Nat) :
    ((run config dryRun (.ofString start) none timestamp).runOn disk).2.disk.tree.get?
        (directory ++ [name]) = some (.file content mode) ↔
      disk.tree.get? (directory ++ [name]) = some (.file content mode) := by
  have hwork : KeepsFiles (· ≠ directory ++ [name]) disk
      ((work config dryRun (.ofString start)).on { disk }).2.disk := by
    cases dryRun with
    | true =>
      rw [← @work_dry_keeps config (.ofString start) { disk }]
      exact refl_of _ _
    | false =>
      refine @work_keepsFiles config { disk } hlayout ⟨horderly, hcwd⟩ start _ ?_
      rintro root hroot _ hreserved rfl
      rcases hreserved with ⟨package, file, heq, hgenerated⟩ | hbelow
      · obtain rfl : name = file := by simpa using congrArg List.getLast? heq
        simp [isGeneratedName, hname] at hgenerated
      · exact houtside root hroot (below_append_iff.mp hbelow)
  have hrun : ((run config dryRun (.ofString start) none timestamp).runOn disk).2.disk =
      ((work config dryRun (.ofString start)).on { disk }).2.disk := by
    rw [run_eq hformatter]
    change (Action.on _ { disk }).2.disk = _
    rw [on_bind]
    split <;> simp_all
  rw [hrun]
  exact hwork.files ⟨horderly, hcwd⟩ _ (by simp) content mode

/-- The source of an entity survives a run that writes generated files beside it. -/
theorem run_keeps_handWritten_sample :
    ((run sampleConfig false (.ofString "/") none "now").runOn
        (sampleDisk [staleFile])).2.disk.tree.get? ["stores", "a", "a.go"] =
      some (.file entitySource.toUTF8 0o644) := by
  refine (@run_keeps_handWritten sampleConfig ⟨rfl, rfl, rfl, rfl, rfl, rfl⟩ rfl
    (sampleDisk [staleFile]) (IsPlain.of_isPlain (by decide)).toIsOrderly (by simp [sampleDisk])
    false "/" "now" ["stores", "a"] "a.go" (by decide) ?_ _ _).mpr rfl
  intro root hroot
  obtain rfl : Path.absolute ["stores"] = root := Except.ok.inj hroot
  decide

end Run

end Scaffold
