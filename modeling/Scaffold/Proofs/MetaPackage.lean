import Scaffold.Meta
import Scaffold.Proofs.PackageStep

/-!
# Making the meta package anew

The directory of the meta package is taken away with everything below it, and then filled. What it
is filled with depends on the way to it only, and what was made can be taken away again.
-/

namespace Scaffold.Tree

variable {tree : Tree} {top location : Location}

/-- The tree without a location and everything below it. -/
def prune (tree : Tree) (top : Location) : Tree :=
  (tree.clear top).erase top

theorem get?_prune (h : top ≠ []) :
    (tree.prune top).get? location = if top <+: location then none else tree.get? location := by
  rw [prune, get?_erase h, get?_clear]
  by_cases hhere : location = top
  · simp [hhere]
  · simp [hhere]

theorem IsOrderly.prune (h : tree.IsOrderly) (hne : top ≠ []) : (tree.prune top).IsOrderly :=
  h.clear.erase hne

end Scaffold.Tree

namespace Scaffold.Disk

open Tree

variable {disk first second after : Disk} {directory top : Location} {name : String}

theorem clear_of_emptyDirectory (h : disk.tree.IsOrderly)
    (hnames : ∀ name ∈ top, IsName name) (hok : disk.emptyDirectory (.absolute top) = .ok after) :
    after = { disk with tree := disk.tree.clear top } := by
  rw [emptyDirectory, findEntry_absolute h hnames] at hok
  obtain ⟨node, hnode, -⟩ | ⟨hvacant, -⟩ | ⟨fault, hfault⟩ := find_cases h hnames
  · rw [hnode] at hok
    cases node with
    | directory mode =>
      simp only at hok
      split_ifs at hok
      exact (Except.ok.inj hok).symm
    | file content mode => cases hok
    | link target => cases hok
  · simp [hvacant] at hok
  · simp [hfault] at hok

theorem erase_of_removeEmpty (h : disk.tree.IsOrderly)
    (hnames : ∀ name ∈ top, IsName name) (hok : disk.removeEmpty (.absolute top) = .ok after) :
    after = { disk with tree := disk.tree.erase top } ∧
      ∃ mode, disk.tree.get? top = some (.directory mode) := by
  rw [removeEmpty, findEntry_absolute h hnames] at hok
  obtain ⟨node, hnode, hget⟩ | ⟨hvacant, -⟩ | ⟨fault, hfault⟩ := find_cases h hnames
  · rw [hnode] at hok
    cases node with
    | directory mode =>
      simp only [displace] at hok
      split_ifs at hok
      exact ⟨(Except.ok.inj hok).symm, mode, hget⟩
    | file content mode => cases hok
    | link target => cases hok
  · simp [hvacant] at hok
  · simp [hfault] at hok

/-- What making a directory does: it needs an alterable directory with nothing in its place. -/
theorem makeDirectory_eq (h : disk.tree.IsOrderly) (hdirectory : ∀ name ∈ directory, IsName name)
    (hname : IsName name) (mode : Nat) :
    disk.makeDirectory mode (.absolute (directory ++ [name])) =
      match disk.find (.absolute (directory ++ [name])) with
      | .ok (.vacant _) =>
        if disk.tree.isAlterable directory then
          .ok { disk with
            tree := disk.tree.put (directory ++ [name]) (.directory (maskedMode mode)) }
        else .error .denied
      | .ok (.taken _ _) => .error .occupied
      | .error fault => .error fault := by
  have hnames := isName_append hdirectory hname
  rw [makeDirectory, findEntry_absolute h hnames]
  obtain ⟨node, hnode, -⟩ | ⟨hvacant, -⟩ | ⟨fault, hfault⟩ := find_cases h hnames
  · rw [hnode]
  · simp only [hvacant, place, List.dropLast_concat]
  · rw [hfault]

/-- A directory was made in an alterable directory, where nothing was. -/
theorem put_of_makeDirectory (h : disk.tree.IsOrderly)
    (hdirectory : ∀ name ∈ directory, IsName name) (hname : IsName name) {mode : Nat}
    (hok : disk.makeDirectory mode (.absolute (directory ++ [name])) = .ok after) :
    after = { disk with
        tree := disk.tree.put (directory ++ [name]) (.directory (maskedMode mode)) } ∧
      disk.tree.get? (directory ++ [name]) = none ∧
      Entered directory disk ∧ disk.tree.isAlterable directory = true := by
  rw [makeDirectory_eq h hdirectory hname] at hok
  obtain ⟨node, hnode, -⟩ | ⟨hvacant, hget⟩ | ⟨fault, hfault⟩ :=
    find_cases h (isName_append hdirectory hname)
  · simp [hnode] at hok
  · simp only [hvacant] at hok
    split_ifs at hok with halter
    exact ⟨(Except.ok.inj hok).symm, hget, entered_of_find h hdirectory hname hvacant, halter⟩
  · simp [hfault] at hok

/-- Two orderly disks agree on the way to a location and on everything below it. -/
structure SameBranch (top : Location) (first second : Disk) : Prop where
  left : first.tree.IsOrderly
  right : second.tree.IsOrderly
  agree : Agree (fun location => location <+: top ∨ top <+: location) first.tree second.tree

/-- The same node put below the location keeps the branches the same. -/
theorem SameBranch.put (h : SameBranch top first second) {location : Location} {node : Node}
    (hne : location ≠ []) (hnames : ∀ name ∈ location, IsName name)
    (hnode : ∀ target, node ≠ .link target) :
    SameBranch top { first with tree := first.tree.put location node }
      { second with tree := second.tree.put location node } where
  left := h.left.put hne hnames hnode
  right := h.right.put hne hnames hnode
  agree := by
    intro other hother
    rw [get?_put hne, get?_put hne, h.agree other hother]

theorem SameBranch.makeDirectory (h : SameBranch (directory ++ [name]) first second)
    (hdirectory : ∀ name ∈ directory, IsName name) (hname : IsName name) (mode : Nat) :
    Action.SameOutcome (SameBranch (directory ++ [name]))
      (first.makeDirectory mode (.absolute (directory ++ [name])))
      (second.makeDirectory mode (.absolute (directory ++ [name]))) := by
  have hnames := isName_append hdirectory hname
  have hfind : first.find (.absolute (directory ++ [name])) =
      second.find (.absolute (directory ++ [name])) :=
    find_congr h.left h.right hnames fun count => h.agree _ (Or.inl (List.take_prefix _ _))
  have halter := isAlterable_congr (h.agree directory (Or.inl (List.prefix_append _ _)))
  rw [makeDirectory_eq h.left hdirectory hname, makeDirectory_eq h.right hdirectory hname, hfind,
    halter]
  split
  · split_ifs
    · exact .ok (h.put (by simp) hnames (by simp))
    · exact .error _
  · exact .error _
  · exact .error _

theorem SameBranch.replaceFile (h : SameBranch directory first second)
    (hdirectory : ∀ name ∈ directory, IsName name) (hname : IsName name) (content : ByteArray)
    (mode : Nat) :
    Action.SameOutcome (SameBranch directory)
      (first.replaceFile (.absolute (directory ++ [name])) content mode)
      (second.replaceFile (.absolute (directory ++ [name])) content mode) := by
  refine replaceFile_congr h.left h.right hdirectory hname (fun location hlocation => ?_)
    (h.put (by simp) (isName_append hdirectory hname) (by simp))
  refine h.agree location ?_
  rcases List.prefix_concat_iff.mp hlocation with rfl | habove
  · exact Or.inr (List.prefix_append _ _)
  · exact Or.inl habove

end Scaffold.Disk

namespace Scaffold.Meta

open Tree Disk Action

variable {config : Config} {workspace last : Workspace} {above : Location} {name : String}
  {records : List FileRecord}

/-- Takes a directory away, if it is there, with everything below it. -/
def vacate (directory : Path) : Action Unit := do
  if (← Action.disk).isTaken directory then
    Action.change .recreateMeta directory fun disk => disk.emptyDirectory directory
    Action.change .recreateMeta directory fun disk => disk.removeEmpty directory

/-- Makes the directory of the meta package and its two files. -/
def fill (config : Config) (directory : Path) : Action (List FileRecord) := do
  Action.change .recreateMeta directory fun disk =>
    disk.makeDirectory config.directoryMode directory
  let source ← Export.writeFile false config.fileMode
    (directory.child (config.fileName config.metaDirectoryName)) (file config).render
  let test ← Export.writeFile false config.fileMode
    (directory.child (config.testFileName config.metaDirectoryName)) (testFile config).render
  return [source, test]

theorem build_eq (root : Path) :
    build config false root = (do
      vacate (directory config root)
      fill config (directory config root)) := by
  have hrecreate : ∀ mode path, recreate mode path = (do
      vacate path
      Action.change .recreateMeta path fun disk => disk.makeDirectory mode path) := by
    intro mode path
    simp only [recreate, vacate, bind_assoc]
    refine congrArg (Action.disk >>= ·) (funext fun disk => ?_)
    split_ifs <;> simp [bind_assoc]
  simp only [build, hrecreate, fill, bind_assoc]
  rfl

theorem directory_absolute (hlayout : config.HasDefaultNames) :
    directory config (.absolute (above ++ [name])) = .absolute (above ++ ["storesmeta"]) := by
  rw [directory, Path.parent_absolute, hlayout.metaDirectoryName]
  exact Path.child_eq (by decide) (by decide) (by decide)

theorem child_sourceName (hlayout : config.HasDefaultNames) (top : Location) :
    (Path.absolute top).child (config.fileName config.metaDirectoryName) =
      .absolute (top ++ ["storesmeta.go"]) := by
  rw [Config.fileName, hlayout.metaDirectoryName, hlayout.sourceExtension]
  exact Path.child_eq (by decide) (by decide) (by decide)

theorem child_testName (hlayout : config.HasDefaultNames) (top : Location) :
    (Path.absolute top).child (config.testFileName config.metaDirectoryName) =
      .absolute (top ++ ["storesmeta_test.go"]) := by
  rw [Config.testFileName, Config.fileName, hlayout.metaDirectoryName, hlayout.sourceExtension,
    hlayout.testFileSuffix]
  exact Path.child_eq (by decide) (by decide) (by decide)

private theorem isName_sourceName : IsName "storesmeta.go" := by decide

private theorem isName_testName : IsName "storesmeta_test.go" := by decide

theorem vacate_keeps (hnames : ∀ other ∈ above ++ [name], IsName other) :
    Keeps (ChangesOnly fun location => above ++ [name] <+: location)
      (vacate (.absolute (above ++ [name]))) := by
  refine .bind (.of_disk_eq fun _ => rfl) fun disk => .ite (.bind ?_ fun _ => ?_)
    (.of_disk_eq fun _ => rfl)
  · refine .change fun disk after hafter => .of_orderly fun horderly => ?_
    rw [clear_of_emptyDirectory horderly hnames hafter]
    refine ⟨fun _ => rfl, fun _ => horderly.clear, fun _ location hout => ?_⟩
    rw [get?_clear, if_neg fun h => hout h.1]
  · refine .change fun disk after hafter => .of_orderly fun horderly => ?_
    obtain ⟨rfl, -⟩ := erase_of_removeEmpty horderly hnames hafter
    refine ⟨fun _ => rfl, fun _ => horderly.erase (by simp), fun _ location hout => ?_⟩
    rw [get?_erase (by simp), if_neg]
    rintro rfl
    exact hout (List.prefix_refl _)

/-- The two files go directly into the directory. -/
theorem write_keeps (hlayout : config.HasDefaultNames) {top : Location}
    (hnames : ∀ name ∈ top, IsName name) {region : Location → Prop}
    (hregion : ∀ name, region (top ++ [name])) :
    Keeps (PutsFiles region) (do
      let source ← Export.writeFile false config.fileMode
        ((Path.absolute top).child (config.fileName config.metaDirectoryName)) (file config).render
      let test ← Export.writeFile false config.fileMode
        ((Path.absolute top).child (config.testFileName config.metaDirectoryName))
        (testFile config).render
      return [source, test]) := by
  rw [child_sourceName hlayout, child_testName hlayout]
  refine .bind ?_ fun source => .bind ?_ fun test => .of_disk_eq fun _ => rfl
  · exact Export.writeFile_keeps hnames isName_sourceName (hregion _) _ _ _
  · exact Export.writeFile_keeps hnames isName_testName (hregion _) _ _ _

theorem fill_keeps (hlayout : config.HasDefaultNames) (habove : ∀ name ∈ above, IsName name)
    (hname : IsName name) :
    Keeps (ChangesOnly fun location => above ++ [name] <+: location)
      (fill config (.absolute (above ++ [name]))) := by
  have hnames := isName_append habove hname
  refine .bind (.change fun disk after hafter => .of_orderly fun horderly => ?_) fun _ =>
    (write_keeps hlayout hnames fun _ => List.prefix_append _ _).mono fun _ _ h => h.toChangesOnly
  obtain ⟨rfl, -⟩ := put_of_makeDirectory horderly habove hname hafter
  refine ⟨fun _ => rfl, fun _ => horderly.put (by simp) hnames (by simp), fun _ location hout => ?_⟩
  rw [get?_put (by simp), if_neg]
  rintro rfl
  exact hout (List.prefix_refl _)

theorem fill_matches (hlayout : config.HasDefaultNames) (habove : ∀ name ∈ above, IsName name)
    (hname : IsName name) :
    Matches (SameBranch (above ++ [name])) (fill config (.absolute (above ++ [name])))
      (fill config (.absolute (above ++ [name]))) := by
  have hnames := isName_append habove hname
  have hwrite : ∀ other, IsName other → ∀ content,
      Matches (SameBranch (above ++ [name]))
        (Export.writeFile false config.fileMode (.absolute (above ++ [name] ++ [other])) content)
        (Export.writeFile false config.fileMode (.absolute (above ++ [name] ++ [other])) content) :=
    fun other hother content => .ite (.bind (.change fun left right h =>
      h.replaceFile hnames hother _ _) fun _ => .pure _) (.pure _)
  rw [fill, child_sourceName hlayout, child_testName hlayout]
  refine .bind (.change fun left right h => h.makeDirectory habove hname _) fun _ => ?_
  refine .bind (hwrite _ isName_sourceName _) fun source => ?_
  exact .bind (hwrite _ isName_testName _) fun test => .pure _

/-- Taking the directory away leaves nothing below it, if nothing is below a missing one. -/
theorem get?_of_vacate (hnames : ∀ other ∈ above ++ [name], IsName other)
    (horderly : workspace.disk.tree.IsOrderly)
    (hclosed : workspace.disk.tree.get? (above ++ [name]) = none →
      ∀ location, above ++ [name] <+: location → workspace.disk.tree.get? location = none)
    (hok : (vacate (.absolute (above ++ [name]))).on workspace = (.ok (), last))
    (hgone : last.disk.tree.get? (above ++ [name]) = none) :
    ∀ location, above ++ [name] <+: location → last.disk.tree.get? location = none := by
  rw [vacate, on_bind, on_disk] at hok
  simp only at hok
  split_ifs at hok with htaken
  · obtain ⟨_, emptied, hempty, hremove⟩ := on_bind_ok.mp hok
    obtain ⟨disk, hdisk, rfl⟩ := on_change_ok.mp hempty
    obtain ⟨disk', hdisk', rfl⟩ := on_change_ok.mp hremove
    obtain rfl := clear_of_emptyDirectory horderly hnames hdisk
    obtain ⟨rfl, -⟩ := erase_of_removeEmpty horderly.clear hnames hdisk'
    intro location hlocation
    exact (get?_prune (by simp)).trans (if_pos hlocation)
  · obtain ⟨-, rfl⟩ := Prod.mk.inj hok
    exact hclosed hgone

/-- What was filled is one directory that its owner may use, and files. -/
structure Filled (top : Location) (disk : Disk) : Prop where
  usable : disk.tree.get? top = some (.directory 0o700)
  files : ∀ location, top <+: location → location ≠ top →
    ∀ mode, disk.tree.get? location ≠ some (.directory mode)

theorem filled_of_fill (hlayout : config.IsDefaultLayout) (habove : ∀ name ∈ above, IsName name)
    (hname : IsName name) (horderly : workspace.disk.tree.IsOrderly)
    (hnothing : ∀ location, above ++ [name] <+: location →
      workspace.disk.tree.get? location = none)
    (hok : (fill config (.absolute (above ++ [name]))).on workspace = (.ok records, last)) :
    Filled (above ++ [name]) last.disk := by
  have hnames := isName_append habove hname
  obtain ⟨_, made, hmade, hwritten⟩ := on_bind_ok.mp hok
  obtain ⟨disk, hdisk, rfl⟩ := on_change_ok.mp hmade
  obtain ⟨rfl, -⟩ := put_of_makeDirectory horderly habove hname hdisk
  have hputs := (write_keeps hlayout.names hnames fun _ => List.prefix_append _ _).of_on hwritten
  have hfiles := hputs.files (horderly.put (by simp) hnames (by simp))
  have hmode : maskedMode config.directoryMode = 0o700 := by
    rw [hlayout.directoryMode]
    rfl
  constructor
  · rcases hfiles (above ++ [name]) with hsame | ⟨-, hplace⟩
    · rw [hsame, get?_put (by simp), if_pos rfl, hmode]
    · exact absurd (by rw [get?_put (by simp), if_pos rfl]) (hplace (maskedMode _))
  · intro location hbelow hne mode hmode
    rcases hfiles location with hsame | ⟨hfile, -⟩
    · rw [hsame, get?_put (by simp), if_neg hne, hnothing location hbelow] at hmode
      cases hmode
    · simp [holdsFile, hmode] at hfile

/-- A filled directory can be removed with everything in it. -/
theorem isClearable_of_filled {disk : Disk} (horderly : disk.tree.IsOrderly) {top : Location}
    (hne : top ≠ []) (h : Filled top disk) : disk.isClearable top = true := by
  have hread : disk.tree.allows .read top = true := by
    rw [Tree.allows, h.usable]
    rfl
  have halter : disk.tree.isAlterable top = true := by
    rw [Tree.isAlterable, Tree.allows, Tree.allows, h.usable]
    rfl
  have hentry : ∀ location mode, (location, Node.directory mode) ∈ disk.tree.entries →
      top <+: location → location = top := by
    intro location mode hmem hbelow
    have hlocation : location ≠ [] := by
      rintro rfl
      exact hne (List.prefix_nil.mp hbelow)
    have hget : disk.tree.get? location = some (.directory mode) := by
      rw [get?_eq_lookup hlocation]
      exact horderly.isMap.lookup_eq_some_iff.mpr hmem
    by_contra hother
    exact h.files location hbelow hother mode hget
  rw [isClearable, List.all_eq_true]
  rintro ⟨location, node⟩ hmem
  cases node with
  | file content mode => rfl
  | link target => rfl
  | directory mode =>
    by_cases hbelow : top <+: location
    · obtain rfl : location = top := by
        rcases List.mem_cons.mp hmem with heq | hmem
        · exact (Prod.mk.inj heq).1
        · exact hentry location mode hmem hbelow
      simp [hread, halter]
    · have hnot : top.isPrefixOf location = false := by
        rwa [Bool.eq_false_iff, ne_eq, List.isPrefixOf_iff_prefix]
      simp [hnot]

/-- A filled directory in an alterable one can be taken away. -/
theorem vacate_on (h : Entered above workspace.disk)
    (halter : workspace.disk.tree.isAlterable above = true) (hname : IsName name)
    (hfilled : Filled (above ++ [name]) workspace.disk) :
    (vacate (.absolute (above ++ [name]))).on workspace =
      (.ok (), { workspace with disk := { workspace.disk with
        tree := workspace.disk.tree.prune (above ++ [name]) } }) := by
  have hnames := isName_append h.isName hname
  have hfind := h.find_child hname hfilled.usable
  have hclear : workspace.disk.emptyDirectory (.absolute (above ++ [name])) =
      .ok { workspace.disk with tree := workspace.disk.tree.clear (above ++ [name]) } := by
    rw [emptyDirectory, findEntry_absolute h.orderly hnames, hfind]
    simp only [isClearable_of_filled h.orderly (by simp) hfilled, if_true]
  have hcleared : Entered above { workspace.disk with
      tree := workspace.disk.tree.clear (above ++ [name]) } := by
    refine h.congr h.orderly.clear fun location hlocation => ?_
    rw [get?_clear, if_neg fun hbelow => not_below_of_above hlocation hbelow.1]
  have hremove : Disk.removeEmpty { workspace.disk with
      tree := workspace.disk.tree.clear (above ++ [name]) } (.absolute (above ++ [name])) =
      .ok { workspace.disk with tree := workspace.disk.tree.prune (above ++ [name]) } := by
    have hthere : (workspace.disk.tree.clear (above ++ [name])).get? (above ++ [name]) =
        some (.directory 0o700) := by
      rw [get?_clear, if_neg fun hbelow => hbelow.2 rfl, hfilled.usable]
    have hempty : (workspace.disk.tree.clear (above ++ [name])).names (above ++ [name]) = [] := by
      refine List.eq_nil_iff_forall_not_mem.mpr fun other hother => ?_
      rw [mem_names, get?_clear, if_pos ⟨List.prefix_append _ _, by simp⟩] at hother
      cases hother
    have hhere : (workspace.disk.tree.clear (above ++ [name])).isAlterable above = true := by
      rw [← halter]
      apply isAlterable_congr
      rw [get?_clear, if_neg fun hbelow => not_below_of_above (List.prefix_refl _) hbelow.1]
    rw [removeEmpty, findEntry_absolute hcleared.orderly hnames, hcleared.find_child hname hthere]
    simp [hempty, hname.2.2, displace, hhere, prune]
  have htaken : workspace.disk.isTaken (.absolute (above ++ [name])) = true := by
    rw [isTaken, hfind]
  rw [vacate, on_bind, on_disk]
  simp only [htaken, if_true]
  rw [on_bind_ok]
  exact ⟨(), _, on_change_ok.mpr ⟨_, hclear, rfl⟩, on_change_ok.mpr ⟨_, hremove, rfl⟩⟩

/-- Where nothing is below a location, the disk agrees with one that has it taken away. -/
private theorem agree_pruned {bare disk : Disk}
    (hnothing : ∀ location, above ++ [name] <+: location → bare.tree.get? location = none)
    (hway : ∀ location, location <+: above →
      disk.tree.get? location = bare.tree.get? location) :
    Agree (fun location => location <+: above ++ [name] ∨ above ++ [name] <+: location) bare.tree
      (disk.tree.prune (above ++ [name])) := by
  intro location hlocation
  rw [get?_prune (by simp)]
  split_ifs with hbelow
  · exact hnothing location hbelow
  · rcases List.prefix_concat_iff.mp (hlocation.resolve_right hbelow) with rfl | habove
    · exact absurd (List.prefix_refl _) hbelow
    · exact (hway location habove).symm

/-- Making the meta package changes nothing outside its directory. -/
theorem build_keeps (hlayout : config.HasDefaultNames) (habove : ∀ name ∈ above, IsName name) :
    Keeps (ChangesOnly fun location => above ++ ["storesmeta"] <+: location)
      (build config false (.absolute (above ++ [name]))) := by
  rw [build_eq, directory_absolute hlayout]
  have hname : IsName "storesmeta" := by decide
  exact .bind (vacate_keeps (isName_append habove hname)) fun _ => fill_keeps hlayout habove hname

/-- The meta package can be made again where it was made, with the same outcome and no change. -/
theorem build_again (hlayout : config.IsDefaultLayout) (habove : ∀ name ∈ above, IsName name)
    (horderly : workspace.disk.tree.IsOrderly)
    (hclosed : workspace.disk.tree.get? (above ++ ["storesmeta"]) = none →
      ∀ location, above ++ ["storesmeta"] <+: location → workspace.disk.tree.get? location = none)
    (hok : (build config false (.absolute (above ++ [name]))).on workspace = (.ok records, last))
    {again : Workspace} (hagain : again.disk.tree.IsOrderly)
    (hsame : ∀ location, again.disk.tree.get? location = last.disk.tree.get? location) :
    ∃ later, (build config false (.absolute (above ++ [name]))).on again = (.ok records, later) ∧
      ∀ location, later.disk.tree.get? location = again.disk.tree.get? location := by
  have hname : IsName "storesmeta" := by decide
  have hnames := isName_append habove hname
  have hkept := @build_keeps config above name hlayout.names habove again
  rw [build_eq, directory_absolute hlayout.names] at hok hkept ⊢
  obtain ⟨_, bare, hvacate, hfill⟩ := on_bind_ok.mp hok
  have hbareOrderly := ((vacate_keeps hnames).of_on hvacate).orderly horderly
  have hfilling := (fill_keeps hlayout.names habove hname).of_on hfill
  have hway : ∀ location, location <+: above →
      again.disk.tree.get? location = bare.disk.tree.get? location := fun location hlocation =>
    (hsame location).trans (hfilling.same hbareOrderly location (not_below_of_above hlocation))
  obtain ⟨_, made, hmade, -⟩ := on_bind_ok.mp hfill
  obtain ⟨disk, hdisk, -⟩ := on_change_ok.mp hmade
  obtain ⟨-, hgone, hentered, halter⟩ := put_of_makeDirectory hbareOrderly habove hname hdisk
  have hnothing := get?_of_vacate hnames horderly hclosed hvacate hgone
  have hfilled : Filled (above ++ ["storesmeta"]) again.disk := by
    have hlast := filled_of_fill hlayout habove hname hbareOrderly hnothing hfill
    exact ⟨(hsame _).trans hlast.usable, fun location hbelow hne mode =>
      hsame location ▸ hlast.files location hbelow hne mode⟩
  have hvacateAgain := vacate_on (hentered.congr hagain hway)
    ((isAlterable_congr (hway _ (List.prefix_refl _))).trans halter) hname hfilled
  obtain ⟨houtcome, hlater⟩ := fill_matches hlayout.names habove hname bare
    { again with disk := { again.disk with
      tree := again.disk.tree.prune (above ++ ["storesmeta"]) } }
    ⟨hbareOrderly, hagain.prune (by simp), agree_pruned hnothing hway⟩
  rw [hfill] at houtcome hlater
  rw [on_bind, hvacateAgain] at hkept ⊢
  simp only at hkept ⊢
  generalize Action.on (fill config (.absolute (above ++ ["storesmeta"]))) _ = outcome
    at houtcome hlater hkept ⊢
  obtain ⟨result, later⟩ := outcome
  obtain rfl : Except.ok records = result := houtcome
  refine ⟨later, rfl, fun location => ?_⟩
  by_cases hbelow : above ++ ["storesmeta"] <+: location
  · exact (hlater.agree location (Or.inr hbelow)).symm.trans (hsame location).symm
  · exact hkept.same hagain location hbelow

end Scaffold.Meta
