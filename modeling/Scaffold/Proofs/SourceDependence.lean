import Scaffold.Proofs.Idempotence
import Scaffold.Proofs.Links

/-!
# What a package depends on

A package and its files depend on the source files of its directory that were written by hand and
hold no tests. Whatever else the directory holds can only keep it from being listed or cleaned, as
long as no such source file is a link.
-/

namespace Scaffold

open Tree Disk Action

/-- The default names, those of the primary entity's file among them. -/
structure Config.IsDefaultNaming (config : Config) : Prop extends config.HasDefaultNames where
  entityFileSuffix : config.entityFileSuffix = "entity"
  primaryEntityExceptions : config.primaryEntityExceptions = [("product", "model")]

/-- A directory could not be listed, or a generated file in it not be deleted. -/
def Error.isRefusedCleaning : Error → Bool
  | .fault (.file .listPackage _) _ => true
  | .fault (.file .deleteFile _) _ => true
  | _ => false

/-- A disk with a sound tree, whose working directory is there. -/
structure Disk.IsSound (disk : Disk) : Prop where
  tree : disk.tree.IsSound
  cwd : disk.tree.HoldsDirectory disk.cwd

theorem Disk.IsSound.holdsDirectory_start {disk : Disk} (h : disk.IsSound) (path : Path) :
    disk.tree.HoldsDirectory (disk.start path) := by
  unfold Disk.start
  split_ifs
  · exact ⟨_, get?_nil disk.tree⟩
  · exact h.cwd

/-- The stem of a source file's name is what its name was made from. -/
theorem Path.splitName_source {stem : String} (h : stem ≠ "") :
    (splitName (stem ++ "." ++ "go")).1 = stem := by
  have hlong : 0 < stem.toList.length :=
    List.length_pos_iff.mpr fun hnil => h (String.toList_eq_nil_iff.mp hnil)
  simp only [splitName, String.toList_append, List.reverse_append]
  simp [show ¬ stem.toList.length + 1 < 2 by omega]

namespace Aggregation

variable {config : Config} {directory root : Path} {location : Location} {name importPath : String}
  {files : List Path} {disk first second : Disk} {avoid : Location → Prop}

/-! ### Files with tests -/

/-- The name of a source file that was written by hand and holds no tests. -/
def isSourceName (config : Config) (name : String) : Bool :=
  Text.fits "*.go" name && !Text.contains name config.generatedMarker &&
    !Text.endsWith (Path.splitName name).1 config.testFileSuffix

theorem isTest_of_fileName (hnaming : config.HasDefaultNames) {file : Path} {stem : String}
    (hfile : file.name = config.fileName stem) (hstem : Text.endsWith stem "_test" = false) :
    isTest config file = false := by
  rw [isTest, Path.stem, hfile, Config.fileName, hnaming.sourceExtension, hnaming.testFileSuffix]
  by_cases hempty : stem = ""
  · subst hempty
    decide
  · rw [Path.splitName_source hempty, hstem]

/-- None of the stems of a primary entity's file is that of a test. -/
theorem endsWith_of_mem_entityStems (hnaming : config.IsDefaultNaming) {package stem : String}
    (hpackage : Text.endsWith package "_test" = false) (hstem : stem ∈ entityStems config package) :
    Text.endsWith stem "_test" = false := by
  simp only [entityStems, hnaming.entityFileSuffix, hnaming.primaryEntityExceptions,
    List.mem_append, List.mem_cons, List.not_mem_nil, or_false, Option.mem_toList] at hstem
  rcases hstem with (rfl | rfl) | hstem
  · exact hpackage
  · simp [Text.endsWith, List.isSuffixOf, List.isPrefixOf]
  · simp only [List.lookup_cons, List.lookup_nil] at hstem
    split at hstem
    · obtain rfl := Option.some.inj hstem
      decide
    · cases hstem

/-- Leaving out tests loses no file with a name that no test has. -/
theorem named?_filter (h : ∀ file : Path, file.name = name → isTest config file = false) :
    named? (files.filter fun file => !isTest config file) name = named? files name := by
  rw [named?, named?, ← List.filter_reverse, List.find?_filter]
  refine congrArg (fun test => List.find? test files.reverse) (funext fun file => ?_)
  by_cases hname : file.name = name
  · simp [hname, h file hname]
  · simp [hname]

/-- Files with tests do not count as canonical. -/
theorem canonicalFiles_filter (hnaming : config.IsDefaultNaming)
    (hdirectory : Text.endsWith directory.name "_test" = false) :
    canonicalFiles config directory (files.filter fun file => !isTest config file) =
      canonicalFiles config directory files := by
  have hstore : named? (files.filter fun file => !isTest config file)
      (config.fileName config.storeFileName) =
        named? files (config.fileName config.storeFileName) :=
    named?_filter fun file hfile => isTest_of_fileName hnaming.toHasDefaultNames hfile
      (by rw [hnaming.storeFileName]; decide)
  have hentity : ((entityStems config directory.name).filterMap fun stem =>
      named? (files.filter fun file => !isTest config file) (config.fileName stem)) =
        (entityStems config directory.name).filterMap fun stem =>
          named? files (config.fileName stem) := by
    refine List.filterMap_congr fun stem hstem => named?_filter fun file hfile => ?_
    exact isTest_of_fileName hnaming.toHasDefaultNames hfile
      (endsWith_of_mem_entityStems hnaming hdirectory hstem)
  simp only [canonicalFiles, hstore, hentity]

/-- Files with tests add nothing to a package. -/
theorem packageFrom_filter (hnaming : config.IsDefaultNaming)
    (hdirectory : Text.endsWith directory.name "_test" = false)
    (text : Path → Except Error String) :
    packageFrom config directory importPath (files.filter fun file => !isTest config file) text =
      packageFrom config directory importPath files text := by
  have hothers : ∀ storeFile entityFile,
      otherFiles config storeFile entityFile (files.filter fun file => !isTest config file) =
        otherFiles config storeFile entityFile files := by
    intro storeFile entityFile
    rw [otherFiles, otherFiles, List.filter_filter]
    congr 1
    funext file
    cases isTest config file <;> simp
  simp only [packageFrom, canonicalFiles_filter hnaming hdirectory, hothers]

/-! ### The source files of a directory -/

/-- A path leads to a directory, past the entries that are to be avoided, and no source file in it
is a link. -/
structure PackageAt (config : Config) (avoid : Location → Prop) (directory : Path)
    (location : Location) (disk : Disk) : Prop where
  isMap : disk.tree.IsMap
  isName : ∀ {location node}, disk.tree.get? location = some node → ∀ name ∈ location, IsName name
  leadsTo : disk.tree.LeadsTo avoid linkLimit (disk.start directory) directory.parts location
  holds : disk.tree.HoldsDirectory location
  linkFree : ∀ name target, isSourceName config name = true →
    disk.tree.get? (location ++ [name]) ≠ some (.link target)

/-- A directory without links among its sources is a package. -/
theorem packageAt_of_directory? (hsound : disk.IsSound)
    (hleads : disk.directory? directory = some location)
    (hlinks : ∀ name target, isSourceName config name = true →
      disk.tree.get? (location ++ [name]) ≠ some (.link target)) :
    PackageAt config (fun _ => False) directory location disk := by
  unfold Disk.directory? at hleads
  split at hleads
  · next found mode hfind =>
    obtain rfl := Option.some.inj hleads
    have hto := leadsTo_of_follow (asked_eq_taken.mp hfind)
    exact ⟨hsound.tree.isMap, hsound.tree.isName, hto,
      hto.holdsDirectory hsound.tree (hsound.holdsDirectory_start directory), hlinks⟩
  · cases hleads

/-- A package is a directory. -/
theorem PackageAt.directory? (h : PackageAt config avoid directory location disk) :
    disk.directory? directory = some location := by
  obtain ⟨mode, hget⟩ := h.holds
  have hfind : disk.find directory = .ok (.taken location (.directory mode)) := by
    rw [find, asked_eq_taken, h.leadsTo.follow_eq, hget, Option.getD_some]
  simp only [Disk.directory?, hfind]

theorem PackageAt.follow_entry (h : PackageAt config avoid directory location disk)
    (followLast : Bool) (name : String) :
    ∃ left, disk.tree.follow followLast linkLimit (disk.start (Glob.entry directory name))
        (Glob.entry directory name).parts = disk.tree.follow followLast left location [name] :=
  h.leadsTo.follow_append (Or.inr (by simp))

theorem isFile_iff {path : Path} :
    disk.isFile path = true ↔ ∃ place content mode,
      disk.tree.follow true linkLimit (disk.start path) path.parts =
        .ok (.taken place (.file content mode)) := by
  constructor
  · intro h
    unfold isFile at h
    split at h
    · next place content mode hfind => exact ⟨place, content, mode, asked_eq_taken.mp hfind⟩
    · cases h
  · rintro ⟨place, content, mode, hfollow⟩
    have hfind : disk.find path = .ok (.taken place (.file content mode)) :=
      asked_eq_taken.mpr hfollow
    rw [isFile, hfind]

/-- An entry that is no link is a file if it may be reached and a file stands there. -/
theorem PackageAt.isFile_entry (h : PackageAt config avoid directory location disk)
    (hname : IsName name) (hlink : ∀ target, disk.tree.get? (location ++ [name]) ≠
      some (.link target)) :
    disk.isFile (Glob.entry directory name) =
      (disk.tree.allows .pass location && disk.holdsFile (location ++ [name])) := by
  obtain ⟨left, hfollow⟩ := h.follow_entry true name
  rw [Bool.eq_iff_iff, isFile_iff, hfollow, Bool.and_eq_true, holdsFile_iff]
  cases hpass : disk.tree.allows .pass location with
  | false => simp [follow_denied hname hpass]
  | true =>
    cases hget : disk.tree.get? (location ++ [name]) with
    | none => simp [follow_vacant hpass hname hget]
    | some node =>
      rw [Tree.follow_entry hpass hname hget
        (Or.inr fun target heq => hlink target (heq ▸ hget))]
      simp

@[simp] theorem name_entry : (Glob.entry directory name).name = name := by
  simp [Path.name, Glob.entry]

theorem PackageAt.isName_of_listed (h : PackageAt config avoid directory location disk)
    (hmem : name ∈ (disk.names? location).getD []) : IsName name := by
  obtain ⟨node, hnode⟩ := Option.isSome_iff_exists.mp (mem_names.mp (mem_names?_getD hmem))
  exact h.isName hnode name (by simp)

/-- A directory is listed, or an entry in it cannot be looked at. -/
theorem PackageAt.sourceFiles_cases (h : PackageAt config avoid directory location disk)
    (hextension : config.sourceExtension = "go") :
    (∃ error, sourceFiles config disk directory = .error error ∧
        error.isRefusedCleaning = true) ∨
      sourceFiles config disk directory =
        .ok ((((disk.names? location).getD []).filter fun name => Text.fits "*.go" name &&
          disk.isFile (Glob.entry directory name)).map (Glob.entry directory)) := by
  have hreply : ∀ path reply, Glob.ask disk Disk.isFile path = .ok reply →
      disk.isFile path = reply := by
    intro path reply hreply
    unfold Glob.ask at hreply
    split at hreply
    · cases hreply
    · exact Except.ok.inj hreply
  rw [sourceFiles_of_directory hextension h.directory?]
  cases hfound : List.filterM (Glob.ask disk Disk.isFile) _ with
  | error fault => exact Or.inl ⟨_, rfl, rfl⟩
  | ok found =>
    right
    rw [Outcome.eq_filter_of_filterM hfound hreply, List.filter_map, List.filter_filter]
    refine congrArg (fun test => Except.ok (List.map _ (List.filter test _))) ?_
    exact funext fun name => Bool.and_comm _ _

/-- The listing of a package are its entries that fit and are files. -/
theorem PackageAt.listed (h : PackageAt config avoid directory location disk)
    (hextension : config.sourceExtension = "go")
    (hok : sourceFiles config disk directory = .ok files) :
    files = (((disk.names? location).getD []).filter fun name => Text.fits "*.go" name &&
      disk.isFile (Glob.entry directory name)).map (Glob.entry directory) := by
  rcases h.sourceFiles_cases hextension with ⟨error, herror, -⟩ | hlisted
  · cases hok.symm.trans herror
  · exact Except.ok.inj (hok.symm.trans hlisted)

/-- Listing a package fails only as cleaning it would. -/
theorem PackageAt.sourceFiles_error (h : PackageAt config avoid directory location disk)
    (hextension : config.sourceExtension = "go") {error : Error}
    (herror : sourceFiles config disk directory = .error error) :
    error.isRefusedCleaning = true := by
  rcases h.sourceFiles_cases hextension with ⟨other, hother, hrefused⟩ | hlisted
  · rwa [Except.error.inj (herror.symm.trans hother)]
  · cases herror.symm.trans hlisted

/-- The source files of a directory that were written by hand and hold no tests. -/
def sources (config : Config) (disk : Disk) (directory : Path) (location : Location) : List Path :=
  (((disk.names? location).getD []).filter fun name => isSourceName config name &&
    (disk.tree.allows .pass location && disk.holdsFile (location ++ [name]))).map
      (Glob.entry directory)

theorem PackageAt.filter_handWritten (h : PackageAt config avoid directory location disk)
    (hextension : config.sourceExtension = "go")
    (hok : handWritten config disk directory = .ok files) :
    (files.filter fun file => !isTest config file) = sources config disk directory location := by
  cases hlisted : sourceFiles config disk directory with
  | error error => simp [handWritten, hlisted, Except.map] at hok
  | ok listed =>
    simp only [handWritten, hlisted, Except.map] at hok
    obtain rfl := Except.ok.inj hok
    rw [h.listed hextension hlisted, sources, List.filter_map, List.filter_map, List.filter_filter,
      List.filter_filter]
    refine congrArg (List.map _) (List.filter_congr fun name hmem => ?_)
    simp only [Function.comp_apply, isTest, isGenerated, Path.stem, name_entry]
    cases hsource : isSourceName config name with
    | true =>
      simp only [isSourceName, Bool.and_eq_true, Bool.not_eq_true'] at hsource
      rw [h.isFile_entry (h.isName_of_listed hmem) fun target =>
        h.linkFree name target (by simp [isSourceName, hsource])]
      simp [hsource]
    | false =>
      simp only [isSourceName, Bool.and_eq_false_iff, Bool.not_eq_false'] at hsource
      rcases hsource with (hfits | hmarked) | htest
      · simp [hfits]
      · simp [hmarked]
      · simp [htest]

/-! ### Disks with the same source files -/

/-- What a disk holds of a file: its content, and whether it may be read. -/
def contentAt? (disk : Disk) (location : Location) : Option (ByteArray × Bool) :=
  match disk.tree.get? location with
  | some (.file content _) => some (content, disk.tree.allows .read location)
  | _ => none

/-- Two disks give the same rights to a directory and hold the same source files in it. -/
structure SameSources (config : Config) (location : Location) (first second : Disk) : Prop where
  rights : ∀ right, first.tree.allows right location = second.tree.allows right location
  content : ∀ name, isSourceName config name = true →
    contentAt? first (location ++ [name]) = contentAt? second (location ++ [name])

theorem isSome_contentAt? {place : Location} :
    (contentAt? disk place).isSome = disk.holdsFile place := by
  unfold contentAt? holdsFile
  split <;> simp_all

theorem mem_names_of_holdsFile (h : disk.holdsFile (location ++ [name]) = true) :
    name ∈ disk.tree.names location := by
  obtain ⟨content, mode, hget⟩ := holdsFile_iff.mp h
  exact mem_names.mpr (by simp [hget])

/-- Disks with the same sources list the same ones. -/
theorem SameSources.sources_eq (h : SameSources config location first second)
    (hf : first.tree.IsMap) (hs : second.tree.IsMap) :
    sources config first directory location = sources config second directory location := by
  rw [sources, sources, names?, names?, h.rights .read, h.rights .pass]
  split_ifs
  · refine congrArg (List.map _) (hf.filter_names_congr hs fun name => ?_)
    cases hsource : isSourceName config name with
    | false => simp
    | true =>
      have hholds : first.holdsFile (location ++ [name]) =
          second.holdsFile (location ++ [name]) := by
        rw [← isSome_contentAt?, ← isSome_contentAt?, h.content name hsource]
      simp only [Bool.true_and, Bool.and_eq_true, hholds]
      exact ⟨fun hmem => ⟨mem_names_of_holdsFile hmem.2.2, hmem.2⟩,
        fun hmem => ⟨mem_names_of_holdsFile (hholds ▸ hmem.2.2), hmem.2⟩⟩
  · rfl

/-- The text of a source file is decided by its content and whether it may be read. -/
theorem PackageAt.textOn_entry (h : PackageAt config avoid directory location disk)
    (hpass : disk.tree.allows .pass location = true) {content : ByteArray} {readable : Bool}
    (hcontent : contentAt? disk (location ++ [name]) = some (content, readable)) :
    textOn disk (Glob.entry directory name) =
      if readable then
        match Disk.decode? content with
        | some text => .ok text
        | none => .error (.ofBytes (some (Glob.entry directory name).render) content)
      else .error (.fault (.file .readSource .denied)
        (some (Glob.entry directory name).render)) := by
  unfold contentAt? at hcontent
  split at hcontent
  · next found mode hget =>
    obtain ⟨rfl, rfl⟩ := Prod.mk.inj (Option.some.inj hcontent)
    obtain ⟨left, hfollow⟩ := h.follow_entry true name
    have hfind : disk.find (Glob.entry directory name) =
        .ok (.taken (location ++ [name]) (.file found mode)) := by
      rw [find, asked_eq_taken, hfollow, Tree.follow_entry hpass (h.isName hget name (by simp)) hget
        (Or.inr fun target heq => by cases heq)]
    simp only [textOn, fileContent, hfind]
    cases disk.tree.allows .read (location ++ [name]) <;> rfl
  · cases hcontent

/-- Disks with the same sources read the same texts. -/
theorem SameSources.textOn_eq (h : SameSources config location first second)
    (hf : PackageAt config avoid directory location first) {other : Location → Prop}
    (hs : PackageAt config other directory location second) :
    ∀ file ∈ sources config first directory location, textOn first file = textOn second file := by
  intro file hfile
  obtain ⟨name, hname, rfl⟩ := List.mem_map.mp hfile
  obtain ⟨-, hkept⟩ := List.mem_filter.mp hname
  simp only [Bool.and_eq_true] at hkept
  obtain ⟨hsource, hpass, hholds⟩ := hkept
  rw [← isSome_contentAt?] at hholds
  obtain ⟨⟨content, readable⟩, hcontent⟩ := Option.isSome_iff_exists.mp hholds
  rw [hf.textOn_entry hpass hcontent,
    hs.textOn_entry (h.rights .pass ▸ hpass) (h.content name hsource ▸ hcontent)]

/-! ### Cleaning the directory -/

/-- A disk without some of the entries that are to be avoided. -/
structure Pruned (avoid : Location → Prop) (before after : Disk) : Prop where
  cwd : after.cwd = before.cwd
  isMap : before.tree.IsMap → after.tree.IsMap
  same : ∀ other, ¬ avoid other → after.tree.get? other = before.tree.get? other
  less : ∀ {other node}, after.tree.get? other = some node → before.tree.get? other = some node

theorem Pruned.refl (disk : Disk) : Pruned avoid disk disk :=
  ⟨rfl, id, fun _ _ => rfl, id⟩

theorem Pruned.trans {third : Disk} (h : Pruned avoid first second)
    (h' : Pruned avoid second third) : Pruned avoid first third :=
  ⟨h'.cwd.trans h.cwd, h'.isMap ∘ h.isMap,
    fun other hout => (h'.same other hout).trans (h.same other hout), h.less ∘ h'.less⟩

/-- Erasing what is to be avoided prunes the disk. -/
theorem pruned_erase {place : Location} (hne : place ≠ []) (hplace : avoid place) :
    Pruned avoid disk { disk with tree := disk.tree.erase place } where
  cwd := rfl
  isMap := IsMap.erase
  same := by
    intro other hout
    rw [get?_erase hne, if_neg]
    rintro rfl
    exact hout hplace
  less := by
    intro other node hnode
    rw [get?_erase hne] at hnode
    split at hnode
    · cases hnode
    · exact hnode

/-- Pruning a disk keeps its package. -/
theorem PackageAt.of_pruned (h : PackageAt config avoid directory location first)
    (hpruned : Pruned avoid first second) (hlocation : ¬ avoid location) :
    PackageAt config avoid directory location second where
  isMap := hpruned.isMap h.isMap
  isName hnode := h.isName (hpruned.less hnode)
  leadsTo := by
    have hstart : second.start directory = first.start directory := by
      rw [Disk.start, Disk.start, hpruned.cwd]
    rw [hstart]
    exact h.leadsTo.congr hpruned.same
  holds := by
    obtain ⟨mode, hget⟩ := h.holds
    exact ⟨mode, (hpruned.same location hlocation).trans hget⟩
  linkFree name target hsource hget := h.linkFree name target hsource (hpruned.less hget)

/-- An entry that can be removed by its name, if its directory may be altered. -/
structure IsRemovable (avoid : Location → Prop) (location : Location) (disk : Disk)
    (name : String) : Prop where
  pass : disk.tree.allows .pass location = true
  avoided : avoid (location ++ [name])
  entry : ∃ node, disk.tree.get? (location ++ [name]) = some node ∧ ∀ mode, node ≠ .directory mode

theorem PackageAt.remove_cases {workspace : Workspace}
    (h : PackageAt config avoid directory location workspace.disk)
    (hname : IsRemovable avoid location workspace.disk name) :
    (remove (Glob.entry directory name)).on workspace =
        (.error (.fault (.file .deleteFile .denied) (some (Glob.entry directory name).render)),
          workspace) ∨
      (remove (Glob.entry directory name)).on workspace =
        (.ok true, { workspace with disk := { workspace.disk with
          tree := workspace.disk.tree.erase (location ++ [name]) } }) := by
  obtain ⟨node, hget, hnode⟩ := hname.entry
  obtain ⟨left, hfollow⟩ := h.follow_entry false name
  have hentry : workspace.disk.findEntry (Glob.entry directory name) =
      .ok (.taken (location ++ [name]) node) := by
    rw [findEntry, asked_eq_taken, hfollow,
      Tree.follow_entry hname.pass (h.isName hget name (by simp)) hget (Or.inl rfl)]
  have hunlink : workspace.disk.unlink (Glob.entry directory name) =
      workspace.disk.displace (location ++ [name]) := by
    rw [unlink, hentry]
    cases node with
    | directory mode => exact absurd rfl (hnode mode)
    | file content mode => rfl
    | link target => rfl
  cases halter : workspace.disk.tree.isAlterable location with
  | false =>
    have hdenied : workspace.disk.unlink (Glob.entry directory name) = .error .denied := by
      rw [hunlink, displace, List.dropLast_concat, halter]
      rfl
    left
    rw [remove, on_disk_bind]
    simp only [hdenied]
    rw [on_bind, change, on_disk_bind]
    simp only [hdenied]
    rfl
  | true =>
    have herased : workspace.disk.unlink (Glob.entry directory name) =
        .ok { workspace.disk with tree := workspace.disk.tree.erase (location ++ [name]) } := by
      rw [hunlink, displace, List.dropLast_concat, halter]
      rfl
    right
    rw [remove, on_disk_bind]
    simp only [herased]
    rw [on_bind_ok]
    exact ⟨(), _, on_change_ok.mpr ⟨_, herased, rfl⟩, rfl⟩

/-- Files are removed one after the other until one is refused, and nothing else changes. -/
theorem PackageAt.removeAll_cases {names : List String} {workspace : Workspace}
    (h : PackageAt config avoid directory location workspace.disk) (hlocation : ¬ avoid location)
    (hnodup : names.Nodup)
    (hnames : ∀ name ∈ names, IsRemovable avoid location workspace.disk name)
    (found : List Path) :
    (∃ path later, ((names.map (Glob.entry directory)).filterAuxM remove found).on workspace =
      (.error (.fault (.file .deleteFile .denied) path), later)) ∨
    ∃ removed later, ((names.map (Glob.entry directory)).filterAuxM remove found).on workspace =
      (.ok removed, later) ∧ Pruned avoid workspace.disk later.disk := by
  induction names generalizing workspace found with
  | nil => exact Or.inr ⟨found, workspace, rfl, .refl _⟩
  | cons name rest ih =>
    obtain ⟨hfresh, hrest⟩ := List.nodup_cons.mp hnodup
    have hname := hnames name List.mem_cons_self
    rw [List.map_cons, List.filterAuxM, on_bind]
    rcases h.remove_cases hname with hon | hon <;> rw [hon]
    · exact Or.inl ⟨_, _, rfl⟩
    · have hpruned : Pruned avoid workspace.disk { workspace.disk with
          tree := workspace.disk.tree.erase (location ++ [name]) } :=
        pruned_erase (by simp) hname.avoided
      have hlater : ∀ other ∈ rest, IsRemovable avoid location { workspace.disk with
          tree := workspace.disk.tree.erase (location ++ [name]) } other := by
        intro other hother
        obtain ⟨hpass, havoided, node, hget, hnode⟩ :=
          hnames other (List.mem_cons_of_mem name hother)
        have hne : location ++ [other] ≠ location ++ [name] := by
          intro heq
          obtain rfl : other = name := by simpa using heq
          exact hfresh hother
        refine ⟨(allows_congr (hpruned.same location hlocation)).trans hpass, havoided, node, ?_,
          hnode⟩
        rw [get?_erase (by simp), if_neg hne, hget]
      rcases @ih { workspace with disk := { workspace.disk with
          tree := workspace.disk.tree.erase (location ++ [name]) } }
          (h.of_pruned hpruned hlocation) hrest hlater (Glob.entry directory name :: found) with
        hfailed | ⟨removed, later, hon, hless⟩
      · exact Or.inl hfailed
      · exact Or.inr ⟨removed, later, hon, hpruned.trans hless⟩

/-- Taking away generated files leaves the source files. -/
theorem Pruned.sameSources (h : Pruned avoid first second) (hlocation : ¬ avoid location)
    (hsources : ∀ name, isSourceName config name = true → ¬ avoid (location ++ [name])) :
    SameSources config location first second where
  rights right := (allows_congr (h.same location hlocation)).symm
  content name hsource := by
    have hget := h.same _ (hsources name hsource)
    simp only [contentAt?, hget, allows_congr hget]

/-- The generated files that are listed lead to files, so no path to the directory needs them. -/
theorem PackageAt.avoiding (h : PackageAt config (fun _ => False) directory location disk)
    (hsound : disk.IsSound) {names : List String}
    (hnames : ∀ name ∈ names, disk.isFile (Glob.entry directory name) = true ∧ IsName name) :
    PackageAt config (fun other => ∃ name ∈ names, other = location ++ [name]) directory location
        disk ∧
      ∀ name ∈ names, IsRemovable (fun other => ∃ name ∈ names, other = location ++ [name])
        location disk name := by
  have hfollow : ∀ name ∈ names, ∃ left place content mode,
      disk.tree.follow true left location [name] = .ok (.taken place (.file content mode)) := by
    intro name hname
    obtain ⟨place, content, mode, hfile⟩ := isFile_iff.mp (hnames name hname).1
    obtain ⟨left, hentry⟩ := h.follow_entry true name
    exact ⟨left, place, content, mode, hentry ▸ hfile⟩
  refine ⟨⟨h.isMap, h.isName, ?_, h.holds, h.linkFree⟩, fun name hname => ?_⟩
  · refine h.leadsTo.avoiding hsound.tree (hsound.holdsDirectory_start directory) ?_
    rintro other ⟨name, hname, rfl⟩
    obtain ⟨left, place, content, mode, hfile⟩ := hfollow name hname
    exact ⟨location, name, left, place, content, mode, rfl, (hnames name hname).2, hfile⟩
  · obtain ⟨left, place, content, mode, hfile⟩ := hfollow name hname
    have hisName := (hnames name hname).2
    have hpass : disk.tree.allows .pass location = true := by
      by_contra hpass
      simp [follow_denied hisName (Bool.eq_false_iff.mpr hpass)] at hfile
    refine ⟨hpass, ⟨name, hname, rfl⟩, ?_⟩
    cases hget : disk.tree.get? (location ++ [name]) with
    | none => exact absurd hfile (follow_vacant hpass hisName hget _ _)
    | some node =>
      refine ⟨node, rfl, ?_⟩
      rintro mode rfl
      simp [follow_directory hpass hisName hget, follow_nil, hget] at hfile

/-- The generated files that are listed, by their names. -/
theorem PackageAt.exists_staleNames (h : PackageAt config avoid directory location disk)
    (hextension : config.sourceExtension = "go")
    (hlisted : sourceFiles config disk directory = .ok files) :
    ∃ names : List String, names.Nodup ∧
      (∀ name ∈ names, (disk.isFile (Glob.entry directory name) = true ∧ IsName name) ∧
        Text.contains name config.generatedMarker = true) ∧
      files.filter (isGenerated config) = names.map (Glob.entry directory) := by
  rw [h.listed hextension hlisted, List.filter_map, List.filter_filter]
  refine ⟨_, List.Nodup.filter _ ?_, fun name hname => ?_, rfl⟩
  · unfold names?
    split_ifs
    · exact h.isMap.nodup_names
    · exact List.nodup_nil
  · obtain ⟨hmem, hkept⟩ := List.mem_filter.mp hname
    simp only [Function.comp_apply, isGenerated, name_entry, Bool.and_eq_true] at hkept
    exact ⟨⟨hkept.2.2, h.isName_of_listed hmem⟩, hkept.1⟩

/-- Cleaning fails as it cannot list or delete files, or it leaves the source files. -/
theorem PackageAt.clean_cases {workspace : Workspace}
    (h : PackageAt config (fun _ => False) directory location workspace.disk)
    (hextension : config.sourceExtension = "go") (hsound : workspace.disk.IsSound)
    (dryRun : Bool) :
    (∃ error later, (clean config dryRun directory).on workspace = (.error error, later) ∧
      error.isRefusedCleaning = true) ∨
    ∃ removed later avoid, (clean config dryRun directory).on workspace = (.ok removed, later) ∧
      PackageAt config avoid directory location later.disk ∧
      SameSources config location workspace.disk later.disk := by
  rw [clean, on_disk_bind, on_bind, on_ofExcept]
  cases hlisted : sourceFiles config workspace.disk directory with
  | error error =>
    exact Or.inl ⟨_, _, rfl, h.sourceFiles_error hextension hlisted⟩
  | ok files =>
    cases dryRun with
    | true => exact Or.inr ⟨_, workspace, _, rfl, h, fun _ => rfl, fun _ _ => rfl⟩
    | false =>
      obtain ⟨names, hnodup, hnames, hstale⟩ := h.exists_staleNames hextension hlisted
      obtain ⟨havoiding, hremovable⟩ := h.avoiding hsound fun name hname => (hnames name hname).1
      have hlocation : ¬ ∃ name ∈ names, location = location ++ [name] := by simp
      have hsources : ∀ name, isSourceName config name = true →
          ¬ ∃ other ∈ names, location ++ [name] = location ++ [other] := by
        rintro name hsource ⟨other, hother, heq⟩
        obtain rfl : name = other := by simpa using heq
        simp [isSourceName, (hnames name hother).2] at hsource
      simp only [Bool.false_eq_true, if_false, hstale]
      rw [List.filterM, on_bind]
      rcases havoiding.removeAll_cases hlocation hnodup hremovable [] with
        ⟨path, later, hon⟩ | ⟨removed, later, hon, hpruned⟩ <;> rw [hon]
      · exact Or.inl ⟨_, _, rfl, rfl⟩
      · exact Or.inr ⟨_, later, _, rfl, havoiding.of_pruned hpruned hlocation,
          hpruned.sameSources hlocation hsources⟩

end Aggregation

namespace Run

open Aggregation

variable {config : Config} {directory root : Path} {location : Location} {importPath : String}
  {first second : Disk} {avoid : Location → Prop}

/-- The package that source files declare, with its files. -/
def preparedFrom (config : Config) (directory : Path) (importPath : String) (files : List Path)
    (text : Path → Except Error String) : Except Error (Package × List GeneratedFile) := do
  let package ← packageFrom config directory importPath files text
  let outputs ← package.files config
  return (package, outputs)

/-- Disks with the same sources prepare the same package. -/
theorem preparedFrom_congr (hsame : SameSources config location first second)
    (hf : PackageAt config avoid directory location first) {other : Location → Prop}
    (hs : PackageAt config other directory location second) :
    preparedFrom config directory importPath (sources config first directory location)
        (textOn first) =
      preparedFrom config directory importPath (sources config second directory location)
        (textOn second) := by
  rw [preparedFrom, preparedFrom, packageFrom_congr (hsame.textOn_eq hf hs),
    hsame.sources_eq hf.isMap hs.isMap]

/-- A package is read from the source files, unless its directory cannot be listed. -/
theorem preparedAs_cases (hnaming : config.IsDefaultNaming)
    (hdirectory : Text.endsWith directory.name "_test" = false)
    (h : PackageAt config avoid directory location first) :
    (∃ error, preparedAs config directory importPath first = .error error ∧
      error.isRefusedCleaning = true) ∨
    preparedAs config directory importPath first =
      preparedFrom config directory importPath (sources config first directory location)
        (textOn first) := by
  cases hfiles : handWritten config first directory with
  | error error =>
    have hlisted : sourceFiles config first directory = .error error := by
      cases hlisted : sourceFiles config first directory with
      | error fault => simpa [handWritten, hlisted, Except.map] using hfiles
      | ok files => simp [handWritten, hlisted, Except.map] at hfiles
    exact Or.inl ⟨error, by rw [preparedAs, hfiles]; rfl,
      h.sourceFiles_error hnaming.sourceExtension hlisted⟩
  | ok files =>
    right
    rw [preparedAs, hfiles, preparedFrom, ← h.filter_handWritten hnaming.sourceExtension hfiles,
      packageFrom_filter hnaming hdirectory]
    rfl

/-- What is prepared is read from the source files, unless the directory cannot be listed or
cleaned. -/
theorem prepare_of_sources (hnaming : config.IsDefaultNaming)
    (hdirectory : Text.endsWith directory.name "_test" = false) {workspace : Workspace}
    (h : PackageAt config (fun _ => False) directory location workspace.disk)
    (hsound : workspace.disk.IsSound) (dryRun : Bool) :
    (∃ error, ((prepare config dryRun root directory).on workspace).1 = .error error ∧
      error.isRefusedCleaning = true) ∨
    ((prepare config dryRun root directory).on workspace).1 = (do
      let importPath ← Discovery.importPath config workspace.disk directory root
      preparedFrom config directory importPath
        (sources config workspace.disk directory location) (textOn workspace.disk)) := by
  rw [prepare_eq, on_disk_bind, on_bind, on_ofExcept]
  cases himport : Discovery.importPath config workspace.disk directory root with
  | error error => exact Or.inr rfl
  | ok importPath =>
    simp only
    rw [on_bind]
    rcases h.clean_cases hnaming.sourceExtension hsound dryRun with
      ⟨error, later, hon, hrefused⟩ | ⟨removed, later, avoid, hon, hat, hsame⟩
    · rw [on_discard, hon]
      exact Or.inl ⟨error, rfl, hrefused⟩
    · rw [on_discard, hon]
      simp only [Except.map]
      rw [(@assemble_render_reads config directory importPath later).1]
      rcases @preparedAs_cases config directory location importPath later.disk avoid hnaming
        hdirectory hat with hrefused | hprepared
      · exact Or.inl hrefused
      · right
        rw [hprepared, ← preparedFrom_congr hsame h hat]
        rfl

/-- Two disks on which a path leads to the same directory, with the same rights and source files
and no link among them, give the same package and files or the same error, unless on one of them the
directory cannot be listed or a generated file cannot be deleted. -/
theorem prepare_depends_on_sources (hnaming : config.IsDefaultNaming)
    (hdirectory : Text.endsWith directory.name config.testFileSuffix = false)
    (hfirst : first.IsSound) (hsecond : second.IsSound)
    (hleads : first.directory? directory = some location)
    (hleads' : second.directory? directory = some location)
    (hpath : first.resolve directory = second.resolve directory)
    (hroot : first.resolve root = second.resolve root)
    (hlinks : ∀ name target, isSourceName config name = true →
      first.tree.get? (location ++ [name]) ≠ some (.link target) ∧
        second.tree.get? (location ++ [name]) ≠ some (.link target))
    (hsame : SameSources config location first second) (dryRun : Bool) :
    ((prepare config dryRun root directory).runOn first).1 =
        ((prepare config dryRun root directory).runOn second).1 ∨
      ∃ disk ∈ [first, second], ∃ error,
        ((prepare config dryRun root directory).runOn disk).1 = .error error ∧
          error.isRefusedCleaning = true := by
  rw [hnaming.testFileSuffix] at hdirectory
  have hat : PackageAt config (fun _ => False) directory location first :=
    packageAt_of_directory? hfirst hleads fun name target hsource =>
      (hlinks name target hsource).1
  have hat' : PackageAt config (fun _ => False) directory location second :=
    packageAt_of_directory? hsecond hleads' fun name target hsource =>
      (hlinks name target hsource).2
  have himport : Discovery.importPath config first directory root =
      Discovery.importPath config second directory root := by
    simp only [Discovery.importPath, Discovery.relative?, hpath, hroot]
  rcases @prepare_of_sources config directory root location hnaming hdirectory { disk := first }
    hat hfirst dryRun with hrefused | hread
  · exact Or.inr ⟨first, by simp, hrefused⟩
  rcases @prepare_of_sources config directory root location hnaming hdirectory { disk := second }
    hat' hsecond dryRun with hrefused | hread'
  · exact Or.inr ⟨second, by simp, hrefused⟩
  left
  change ((prepare config dryRun root directory).on { disk := first }).1 =
    ((prepare config dryRun root directory).on { disk := second }).1
  rw [hread, hread', himport]
  exact bind_congr fun importPath => preparedFrom_congr hsame hat hat'

/-- What is prepared of the only package of a disk. -/
def sampleOutcome (dryRun : Bool) (disk : Disk) : Except Error (Package × List GeneratedFile) :=
  ((prepare sampleConfig dryRun (.absolute ["stores"]) (.absolute ["stores", "a"])).runOn disk).1

private theorem sampleOutcome_of_synthesize {disk : Disk} {progress : Progress} {last : Workspace}
    (h : (synthesize sampleConfig false (.absolute ["stores"]) {} (.absolute ["stores", "a"])).on
      { disk } = (.ok progress, last)) : ∃ ready, sampleOutcome false disk = .ok ready := by
  rw [synthesize_eq_prepare] at h
  obtain ⟨ready, later, hprepare, -⟩ := on_bind_ok.mp h
  exact ⟨ready, congrArg Prod.fst hprepare⟩

private theorem sameSources_sample (main test store : String) :
    SameSources sampleConfig ["stores", "a"] (sampleDisk [staleFile])
      (writtenDisk main test store) where
  rights _ := rfl
  content name hsource := by
    have hne : ∀ {other}, isSourceName sampleConfig other = false →
        (["stores", "a"] ++ [name] : Location) ≠ ["stores", "a", other] := by
      rintro other hother heq
      obtain rfl : name = other := by simpa using heq
      rw [hsource] at hother
      cases hother
    have hstale : (sampleDisk [staleFile]).tree.get? (["stores", "a"] ++ [name]) =
        (sampleDisk []).tree.get? (["stores", "a"] ++ [name]) := by
      have hold : (name == "old_synthesized.go") = false := by
        rw [beq_eq_false_iff_ne]
        rintro rfl
        exact absurd hsource (by decide)
      simp [sampleDisk, staleFile, get?, List.lookup_cons, hold]
    have hwritten : (writtenDisk main test store).tree.get? (["stores", "a"] ++ [name]) =
        (sampleDisk []).tree.get? (["stores", "a"] ++ [name]) := by
      simp only [writtenDisk, withFile]
      rw [get?_put (by simp), if_neg (hne (by decide)), get?_put (by simp),
        if_neg (hne (by decide)), get?_put (by simp), if_neg (hne (by decide))]
    simp only [contentAt?, allows, hstale, hwritten]

/-- The disk with the files that the package was made into. -/
def remadeDisk (store : String) : Disk :=
  writtenDisk (sampleEntity.render sampleConfig) (sampleEntity.testText sampleConfig) store

/-- A package is the same before its files are written and after. -/
theorem prepare_depends_on_sources_sample :
    ∃ store ready, sampleOutcome false (sampleDisk [staleFile]) = .ok ready ∧
      sampleOutcome false (remadeDisk store) = .ok ready := by
  have hplain : (sampleDisk [staleFile]).tree.IsPlain := .of_isPlain (by decide)
  obtain ⟨store, records, -, hstep⟩ := synthesize_sample
  have hremade : (remadeDisk store).tree.IsPlain := .of_isPlain rfl
  obtain ⟨later, hagain, -⟩ := @synthesize_again sampleConfig ["stores", "a"]
    { disk := sampleDisk [staleFile] } _ {} _ ["stores"] ⟨rfl, rfl, rfl, rfl, rfl, rfl⟩ (by decide)
    (by decide) hplain.toIsOrderly hstep { disk := remadeDisk store } hremade.toIsOrderly
    fun _ _ => rfl
  obtain ⟨ready, hready⟩ := sampleOutcome_of_synthesize hstep
  obtain ⟨other, hother⟩ := sampleOutcome_of_synthesize hagain
  refine ⟨store, ready, hready, ?_⟩
  rcases @prepare_depends_on_sources sampleConfig (.absolute ["stores", "a"]) (.absolute ["stores"])
    ["stores", "a"] (sampleDisk [staleFile]) (remadeDisk store)
    ⟨⟨rfl, rfl, rfl, rfl, rfl, rfl⟩, rfl, rfl⟩ (by decide) ⟨hplain.isSound, _, rfl⟩
    ⟨hremade.isSound, _, rfl⟩ rfl rfl rfl rfl
    (fun name target _ => ⟨hplain.linkFree _ target, hremade.linkFree _ target⟩)
    (sameSources_sample _ _ store) false with hsame | ⟨disk, hdisk, error, herror, -⟩
  · exact hsame.symm.trans hready
  · simp only [List.mem_cons, List.not_mem_nil, or_false] at hdisk
    rcases hdisk with rfl | rfl
    · cases hready.symm.trans herror
    · cases hother.symm.trans herror

/-- A disk with a package's directory of a mode and what it holds. -/
def directoryDisk (mode : Nat) (more : List (Location × Node)) : Disk :=
  { tree := ⟨[(["stores"], .plainDirectory), (["stores", "a"], .directory mode)] ++ more⟩ }

/-- A link that is named as the store's file and leads to a generated file. -/
def linkedStore : Location × Node :=
  (["stores", "a", "store.go"], .link "old_synthesized.go")

/-- No file in the directory is a source file, so the disks agree on the contents of all of them. -/
private theorem sameSources_directoryDisk (mode : Nat) {more : List (Location × Node)}
    (hmore : more = [staleFile] ∨ more = [staleFile, linkedStore]) :
    SameSources sampleConfig ["stores", "a"] (directoryDisk mode [])
      (directoryDisk mode more) where
  rights right := by rcases hmore with rfl | rfl <;> rfl
  content name hsource := by
    have hold : (name == "old_synthesized.go") = false := by
      rw [beq_eq_false_iff_ne]
      rintro rfl
      exact absurd hsource (by decide)
    rcases hmore with rfl | rfl
    · simp [contentAt?, directoryDisk, staleFile, get?, List.lookup_cons, hold]
    · cases hstore : name == "store.go" with
      | true =>
        obtain rfl := beq_iff_eq.mp hstore
        rfl
      | false =>
        simp [contentAt?, directoryDisk, staleFile, linkedStore, get?, List.lookup_cons, hold,
          hstore]

private theorem sampleOutcome_linkedStore :
    sampleOutcome true (directoryDisk 0o755 [staleFile, linkedStore]) =
      .error (.fault (.layout .noEntityFile) (some "/stores/a")) := by
  have hnames : (directoryDisk 0o755 [staleFile, linkedStore]).tree.names ["stores", "a"] =
      ["old_synthesized.go", "store.go"] := by
    rw [names, List.mergeSort_of_pairwise (by decide)]
    rfl
  have hfiles : handWritten sampleConfig (directoryDisk 0o755 [staleFile, linkedStore])
      (.absolute ["stores", "a"]) = .ok [.absolute ["stores", "a", "store.go"]] := by
    rw [handWritten, sourceFiles_eq_filterM rfl (by decide), names?, hnames]
    decide
  have hread := (@prepare_reads sampleConfig (.absolute ["stores"]) (.absolute ["stores", "a"])
    { disk := directoryDisk 0o755 [staleFile, linkedStore] }).1
  have himport : Discovery.importPath sampleConfig (directoryDisk 0o755 [staleFile, linkedStore])
      (.absolute ["stores", "a"]) (.absolute ["stores"]) = .ok sampleEntity.importPath := by
    decide
  refine hread.trans ?_
  rw [prepared, himport]
  change preparedAs _ _ _ _ = _
  rw [preparedAs, hfiles]
  rfl

/-- Two disks hold the same source files in a directory, and yet the package fails differently. -/
def FailsDifferently (dryRun : Bool) (first second : Disk) : Prop :=
  SameSources sampleConfig ["stores", "a"] first second ∧
    sampleOutcome dryRun first ≠ sampleOutcome dryRun second

/-- A link with a source file's name counts as one, and a generated file matters where it cannot be
deleted or looked at. -/
theorem sources_do_not_suffice :
    FailsDifferently true (directoryDisk 0o755 [])
        (directoryDisk 0o755 [staleFile, linkedStore]) ∧
      FailsDifferently false (directoryDisk 0o555 []) (directoryDisk 0o555 [staleFile]) ∧
      FailsDifferently true (directoryDisk 0o600 []) (directoryDisk 0o600 [staleFile]) := by
  refine ⟨⟨sameSources_directoryDisk _ (Or.inr rfl), ?_⟩,
    ⟨sameSources_directoryDisk _ (Or.inl rfl), by decide +kernel⟩,
    ⟨sameSources_directoryDisk _ (Or.inl rfl), by decide +kernel⟩⟩
  rw [sampleOutcome_linkedStore]
  decide +kernel

end Run

end Scaffold
