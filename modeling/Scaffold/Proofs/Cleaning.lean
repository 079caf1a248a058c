import Scaffold.Proofs.Action
import Scaffold.Proofs.Listing

/-!
# Cleaning a directory

Cleaning changes nothing but generated files of its directory, even where it fails. In a directory
that may be read and altered it does not fail, and it removes all of them.
-/

namespace Scaffold.Aggregation

open Tree Disk Action

variable {config : Config} {directory : Location} {name : String} {workspace : Workspace}

/-- A name that marks a file as generated. -/
def isGeneratedName (config : Config) (name : String) : Bool :=
  Text.contains name config.generatedMarker && Text.fits "*.go" name

/-- The places of generated files in a directory. -/
def Generated (config : Config) (directory location : Location) : Prop :=
  ∃ name, location = directory ++ [name] ∧ isGeneratedName config name = true

@[simp] theorem isGenerated_absolute :
    isGenerated config (.absolute (directory ++ [name])) =
      Text.contains name config.generatedMarker := by
  simp [isGenerated]

private theorem remove_keeps (hdirectory : ∀ name ∈ directory, IsName name) (hname : IsName name)
    (hgenerated : isGeneratedName config name = true) :
    Keeps (ChangesOnly (Generated config directory))
      (remove (.absolute (directory ++ [name]))) := by
  have hchange : Keeps (ChangesOnly (Generated config directory))
      (change .deleteFile (.absolute (directory ++ [name])) fun disk =>
        disk.unlink (.absolute (directory ++ [name]))) := by
    refine .change fun disk after hafter => .of_orderly fun horderly => ?_
    rw [eq_of_unlink horderly hdirectory hname hafter]
    refine ⟨fun _ => rfl, fun _ => horderly.erase (by simp), fun _ location hout => ?_⟩
    rw [get?_erase (by simp), if_neg]
    rintro rfl
    exact hout ⟨name, rfl, hgenerated⟩
  refine .bind (.of_disk_eq fun _ => rfl) fun disk => ?_
  split
  · exact .of_disk_eq fun _ => rfl
  · exact .bind hchange fun _ => .of_disk_eq fun _ => rfl

/-- Cleaning changes nothing but generated files. -/
theorem clean_keeps (hextension : config.sourceExtension = "go")
    (hdirectory : ∀ name ∈ directory, IsName name) (dryRun : Bool) :
    Keeps (ChangesOnly (Generated config directory))
      (clean config dryRun (.absolute directory)) := by
  intro workspace
  refine .of_orderly fun horderly => ?_
  rw [clean, on_bind, on_disk]
  simp only
  rw [on_bind, on_ofExcept]
  cases hfiles : sourceFiles config workspace.disk (.absolute directory) with
  | error error => exact refl_of _ _
  | ok files =>
    have hloop : Keeps (ChangesOnly (Generated config directory))
        ((files.filter (isGenerated config)).filterM remove) := by
      refine .filterM fun path hpath => ?_
      obtain ⟨hmem, hmarked⟩ := List.mem_filter.mp hpath
      obtain ⟨name, rfl, hname, hfits, -⟩ :=
        mem_of_sourceFiles hextension horderly hdirectory hfiles path hmem
      rw [isGenerated_absolute] at hmarked
      exact remove_keeps hdirectory hname (by simp [isGeneratedName, hmarked, hfits])
    simp only
    split_ifs
    · exact refl_of _ _
    · exact hloop workspace

private theorem remove_file (h : Owned directory workspace.disk) (hname : IsName name)
    (hfile : workspace.disk.holdsFile (directory ++ [name]) = true) :
    (remove (.absolute (directory ++ [name]))).on workspace =
      (.ok true, { workspace with
        disk := { workspace.disk with
          tree := workspace.disk.tree.erase (directory ++ [name]) } }) := by
  obtain ⟨content, mode, hget⟩ := holdsFile_iff.mp hfile
  have hunlink := h.unlink_file hname hget h.alterable
  rw [remove, on_bind, on_disk]
  simp only [hunlink]
  rw [on_bind_ok]
  exact ⟨(), _, on_change_ok.mpr ⟨_, hunlink, rfl⟩, rfl⟩

/-- A disk without some files of a directory. -/
structure Without (directory : Location) (names : List String) (before after : Disk) : Prop where
  cwd : after.cwd = before.cwd
  orderly : after.tree.IsOrderly
  gone : ∀ name ∈ names, after.tree.get? (directory ++ [name]) = none
  same : ∀ location, (∀ name ∈ names, location ≠ directory ++ [name]) →
    after.tree.get? location = before.tree.get? location

/-- The loop over the names: what is left to remove is still there, as the names are distinct. -/
private theorem filterM_remove {names : List String} (h : Owned directory workspace.disk)
    (hnodup : names.Nodup)
    (hnames : ∀ name ∈ names, IsName name ∧ workspace.disk.holdsFile (directory ++ [name]) = true) :
    ∃ removed later,
      ((names.map fun name => Path.absolute (directory ++ [name])).filterM remove).on workspace =
        (.ok removed, later) ∧ Without directory names workspace.disk later.disk := by
  have hfrom : ∀ found, ∃ removed later,
      ((names.map fun name => Path.absolute (directory ++ [name])).filterAuxM remove found).on
        workspace = (.ok removed, later) ∧ Without directory names workspace.disk later.disk := by
    induction names generalizing workspace with
    | nil => exact fun found => ⟨found, workspace, rfl, rfl, h.orderly, by simp, fun _ _ => rfl⟩
    | cons name rest ih =>
      intro found
      obtain ⟨hname, hfile⟩ := hnames name List.mem_cons_self
      obtain ⟨hfresh, hrest⟩ := List.nodup_cons.mp hnodup
      have hother : ∀ other ∈ rest, directory ++ [other] ≠ directory ++ [name] := by
        intro other hother heq
        obtain rfl : other = name := by simpa using heq
        exact hfresh hother
      have herased : Owned directory { workspace.disk with
          tree := workspace.disk.tree.erase (directory ++ [name]) } := by
        refine h.congr (h.orderly.erase (by simp)) fun location hlocation => ?_
        rw [get?_erase (by simp), if_neg (ne_child_of_above hlocation)]
      obtain ⟨removed, later, hon, hwithout⟩ := @ih
        { workspace with disk := { workspace.disk with
          tree := workspace.disk.tree.erase (directory ++ [name]) } } herased hrest
        (fun other hmem => by
          obtain ⟨hisName, hholds⟩ := hnames other (List.mem_cons_of_mem name hmem)
          refine ⟨hisName, ?_⟩
          rw [holdsFile, get?_erase (by simp), if_neg (hother other hmem)]
          exact hholds)
        (Path.absolute (directory ++ [name]) :: found)
      refine ⟨removed, later, ?_, hwithout.cwd, hwithout.orderly, ?_, ?_⟩
      · rw [List.map_cons, List.filterAuxM, on_bind, remove_file h hname hfile]
        exact hon
      · intro other hmem
        rcases List.mem_cons.mp hmem with rfl | hmem
        · rw [hwithout.same _ fun name hname => (hother name hname).symm, get?_erase (by simp),
            if_pos rfl]
        · exact hwithout.gone other hmem
      · intro location hlocation
        rw [hwithout.same location fun other hmem =>
          hlocation other (List.mem_cons_of_mem name hmem), get?_erase (by simp),
          if_neg (hlocation name List.mem_cons_self)]
  obtain ⟨removed, later, hon, hwithout⟩ := hfrom []
  exact ⟨removed.reverse, later, by rw [List.filterM, on_bind, hon]; rfl, hwithout⟩

/-- The names of the generated files in a directory. -/
def generatedNames (config : Config) (disk : Disk) (directory : Location) : List String :=
  (disk.sourceNames directory).filter (isGeneratedName config)

/-- Generated files are listed where the directory may be read. -/
theorem of_mem_generatedNames {disk : Disk} (h : name ∈ generatedNames config disk directory) :
    disk.tree.allows .read directory = true ∧ disk.holdsFile (directory ++ [name]) = true := by
  obtain ⟨hsource, -⟩ := List.mem_filter.mp h
  obtain ⟨hmem, hkept⟩ := List.mem_filter.mp hsource
  refine ⟨?_, (Bool.and_eq_true_iff.mp hkept).2⟩
  by_contra hread
  simp [names?, hread] at hmem

theorem mem_generatedNames {disk : Disk} (h : disk.tree.allows .read directory = true) :
    name ∈ generatedNames config disk directory ↔
      isGeneratedName config name = true ∧ disk.holdsFile (directory ++ [name]) = true := by
  simp only [generatedNames, sourceNames, names?, h, if_true, Option.getD_some,
    List.mem_filter, mem_names, Bool.and_eq_true]
  constructor
  · exact fun hmem => ⟨hmem.2, hmem.1.2.2⟩
  · rintro ⟨hgenerated, hfile⟩
    obtain ⟨content, mode, hget⟩ := holdsFile_iff.mp hfile
    have hfits : Text.fits "*.go" name = true := by
      simp only [isGeneratedName, Bool.and_eq_true] at hgenerated
      exact hgenerated.2
    exact ⟨⟨by simp [hget], hfits, hfile⟩, hgenerated⟩

theorem filter_isGenerated {disk : Disk} :
    ((disk.sourceNames directory).map fun name =>
      Path.absolute (directory ++ [name])).filter (isGenerated config) =
      (generatedNames config disk directory).map fun name =>
        Path.absolute (directory ++ [name]) := by
  rw [List.filter_map, generatedNames]
  refine congrArg (List.map _) (List.filter_congr fun name hname => ?_)
  simp only [sourceNames, List.mem_filter, Bool.and_eq_true] at hname
  simp [isGeneratedName, hname.2.1]

/-- In a directory that may be read and altered, cleaning removes all generated files. -/
theorem clean_on (hextension : config.sourceExtension = "go") (h : Owned directory workspace.disk) :
    ∃ removed later,
      (clean config false (.absolute directory)).on workspace = (.ok removed, later) ∧
      Without directory (generatedNames config workspace.disk directory) workspace.disk
        later.disk := by
  have hnodup : (generatedNames config workspace.disk directory).Nodup := by
    have hall := @IsMap.nodup_names workspace.disk.tree directory h.orderly.isMap
    rw [generatedNames, sourceNames, names?, h.read]
    exact (hall.filter _).filter _
  obtain ⟨removed, later, hon, hwithout⟩ := filterM_remove h hnodup fun name hname => by
    obtain ⟨-, hfile⟩ := (mem_generatedNames h.read).mp hname
    obtain ⟨content, mode, hget⟩ := holdsFile_iff.mp hfile
    exact ⟨h.orderly.isName hget name (by simp), hfile⟩
  refine ⟨removed, later, ?_, hwithout⟩
  rw [clean, on_disk_bind, on_ofExcept_bind_ok]
  refine ⟨_, h.sourceFiles_eq hextension, ?_⟩
  simp only [Bool.false_eq_true, if_false, filter_isGenerated]
  exact hon

/-- The names of the generated files that are listed in a directory. -/
def staleNames (config : Config) (disk : Disk) (directory : Location) : List String :=
  match sourceFiles config disk (.absolute directory) with
  | .ok files => (files.filter (isGenerated config)).map Path.name
  | .error _ => []

theorem staleNames_of_entered {disk : Disk} (hextension : config.sourceExtension = "go")
    (h : Entered directory disk) :
    staleNames config disk directory = generatedNames config disk directory := by
  simp only [staleNames, h.sourceFiles_eq hextension, filter_isGenerated, List.map_map]
  exact (List.map_congr_left fun name _ => Path.name_absolute).trans (List.map_id _)

/-- A file in a directory that may not be altered stays. -/
private theorem remove_denied (h : Entered directory workspace.disk) (hname : IsName name)
    (hfile : workspace.disk.holdsFile (directory ++ [name]) = true)
    (hfixed : workspace.disk.tree.isAlterable directory = false) :
    (remove (.absolute (directory ++ [name]))).on workspace =
      (.error (.fault (.file .deleteFile .denied)
        (some (Path.absolute (directory ++ [name])).render)), workspace) := by
  obtain ⟨content, mode, hget⟩ := holdsFile_iff.mp hfile
  have hunlink : workspace.disk.unlink (.absolute (directory ++ [name])) = .error .denied := by
    rw [unlink, findEntry_absolute h.orderly (isName_append h.isName hname),
      h.find_child hname hget]
    simp [displace, hfixed]
  rw [remove, on_disk_bind]
  simp only [hunlink]
  rw [on_bind, change, on_disk_bind]
  simp only [hunlink]
  rfl

/-- Cleaning fails where the directory cannot be listed or a file cannot be deleted, and then has
changed nothing. Otherwise it removes the generated files that are listed. -/
theorem clean_cases (hextension : config.sourceExtension = "go")
    (horderly : workspace.disk.tree.IsOrderly) (hdirectory : ∀ name ∈ directory, IsName name) :
    (∃ error, sourceFiles config workspace.disk (.absolute directory) = .error error ∧
      (clean config false (.absolute directory)).on workspace = (.error error, workspace)) ∨
    (∃ path, (clean config false (.absolute directory)).on workspace =
      (.error (.fault (.file .deleteFile .denied) path), workspace)) ∨
    ∃ files removed later,
      sourceFiles config workspace.disk (.absolute directory) = .ok files ∧
      (clean config false (.absolute directory)).on workspace = (.ok removed, later) ∧
      Without directory (staleNames config workspace.disk directory) workspace.disk
        later.disk := by
  cases hfiles : sourceFiles config workspace.disk (.absolute directory) with
  | error error =>
    refine Or.inl ⟨error, rfl, ?_⟩
    rw [clean, on_disk_bind, on_bind, on_ofExcept, hfiles]
  | ok files =>
    have hclean : (clean config false (.absolute directory)).on workspace =
        ((files.filter (isGenerated config)).filterM remove).on workspace := by
      rw [clean, on_disk_bind, on_bind, on_ofExcept, hfiles]
      rfl
    cases hstale : files.filter (isGenerated config) with
    | nil =>
      rw [hstale] at hclean
      refine Or.inr (Or.inr ⟨files, [], workspace, rfl, hclean, rfl, horderly, ?_, fun _ _ => rfl⟩)
      simp [staleNames, hfiles, hstale]
    | cons path rest =>
      have hpath : path ∈ files := (List.mem_filter.mp (hstale ▸ List.mem_cons_self)).1
      obtain ⟨-, -, -, -, hentered⟩ :=
        mem_of_sourceFiles hextension horderly hdirectory hfiles path hpath
      have hnames := @filter_isGenerated config directory workspace.disk
      rw [Except.ok.inj ((hentered.sourceFiles_eq hextension).symm.trans hfiles), hstale] at hnames
      obtain ⟨name, others, hgenerated, rfl, hothers⟩ := List.map_eq_cons_iff.mp hnames.symm
      obtain ⟨hread, hfile⟩ := of_mem_generatedNames (hgenerated ▸ List.mem_cons_self)
      cases halter : workspace.disk.tree.isAlterable directory with
      | true =>
        obtain ⟨removed, later, hon, hwithout⟩ :=
          clean_on hextension ⟨hentered, hread, halter⟩
        rw [← staleNames_of_entered hextension hentered] at hwithout
        exact Or.inr (Or.inr ⟨files, removed, later, rfl, hon, hwithout⟩)
      | false =>
        obtain ⟨content, mode, hget⟩ := holdsFile_iff.mp hfile
        have hremove := remove_denied hentered (horderly.isName hget name (by simp)) hfile halter
        refine Or.inr (Or.inl ⟨some (Path.absolute (directory ++ [name])).render, ?_⟩)
        rw [hclean, hstale, List.filterM, List.filterAuxM, on_bind, on_bind, hremove]

end Scaffold.Aggregation
