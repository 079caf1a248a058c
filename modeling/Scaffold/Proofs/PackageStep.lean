import Scaffold.Proofs.Assembly
import Scaffold.Proofs.Cleaning
import Scaffold.Proofs.OutputNames
import Scaffold.Run

/-!
# Synthesizing one package

After cleaning, a package depends on the way to its directory and on what lies directly in it, and
its files go to the places that the next cleaning takes them from. So two disks that agree once they
are cleaned yield the same files, and agree again.
-/

namespace Scaffold

open Tree Disk Action

variable {config : Config} {directory : Location} {workspace last : Workspace}

namespace Aggregation

variable {package importPath : String} {state : Store × List Entity}

/-- Entities named without marks stay so when a file is taken up. -/
theorem takeUp_gives {path : Path} (h : ∀ entity ∈ state.2, Text.IsMarkFree entity.name) :
    Gives (fun state => ∀ entity ∈ state.2, Text.IsMarkFree entity.name)
      (takeUp config package importPath state path) := by
  refine .bind_any fun source => .bind_any fun _ => .ite (fun _ => ?_) (.pure h)
  refine .bind (.ofExcept fun entity hentity => Entity.isMarkFree_name hentity)
    fun entity hentity => .pure fun other hother => ?_
  rcases List.mem_append.mp hother with hother | hother
  · exact h other hother
  · rwa [List.mem_singleton.mp hother]

/-- A package is checked, and its entities are named without marks. -/
def IsSound (config : Config) (package : Package) : Prop :=
  (package.check config).isValid = true ∧
    ∀ entity ∈ package.allEntities, Text.IsMarkFree entity.name

theorem assemble_gives (path : Path) :
    Gives (IsSound config) (assemble config path importPath) := by
  refine .bind_any fun disk => .bind_any fun sources => .bind_any fun files => ?_
  refine .bind_any fun text => .bind (.ofExcept fun entity => Entity.isMarkFree_name) ?_
  intro mainEntity hmain
  refine .bind_any fun text => .bind_any fun store => ?_
  refine .bind (.foldlM (fun path _ state => takeUp_gives) (List.forall_mem_nil _)) ?_
  rintro ⟨store, entities⟩ hentities
  refine .bind (.ofExcept fun package => Package.eq_of_checked) ?_
  rintro package rfl
  refine .bind_any fun _ => .ite (fun hvalid => .pure ⟨hvalid, ?_⟩) (.throw _)
  intro entity hentity
  rcases List.mem_append.mp hentity with hentity | hentity
  · obtain rfl : entity = mainEntity := by simpa using hentity
    exact hmain
  · exact hentities entity hentity

theorem textOn_congr {first second : Disk} {name : String} (hf : first.tree.IsOrderly)
    (hs : second.tree.IsOrderly) (hdirectory : ∀ name ∈ directory, IsName name)
    (hname : IsName name)
    (h : ∀ above, above <+: directory ++ [name] →
      first.tree.get? above = second.tree.get? above) :
    textOn first (.absolute (directory ++ [name])) =
      textOn second (.absolute (directory ++ [name])) := by
  simp only [textOn, fileContent_congr hf hs (isName_append hdirectory hname) h]

/-- A package depends on the way to its directory and on what lies directly in it. -/
theorem assemble_matches (hextension : config.sourceExtension = "go") :
    Matches (Alike directory) (assemble config (.absolute directory) importPath)
      (assemble config (.absolute directory) importPath) := by
  refine (assemble_reads _ _).matches fun left right h => ?_
  have hsources := sourceFiles_congr hextension h.left.orderly h.right.orderly h.left.isName h.agree
  simp only [handWritten, hsources]
  cases hfiles : sourceFiles config right (.absolute directory) with
  | error error => rfl
  | ok files =>
    refine packageFrom_congr fun file hfile => ?_
    obtain ⟨name, rfl, hname, -⟩ := mem_of_sourceFiles hextension h.right.orderly h.right.isName
      hfiles file (List.mem_filter.mp hfile).1
    exact textOn_congr h.left.orderly h.right.orderly h.left.isName hname fun _ habove =>
      h.agree _ (around_of_above_child habove)

/-- A directory that a package was read from may be read. -/
theorem read_of_assemble (hextension : config.sourceExtension = "go")
    (h : Entered directory workspace.disk) {package : Package}
    (hok : (assemble config (.absolute directory) importPath).on workspace = (.ok package, last)) :
    workspace.disk.tree.allows .read directory = true := by
  rw [assemble, on_disk_bind] at hok
  obtain ⟨sources, hsources, hrest⟩ := on_ofExcept_bind_ok.mp hok
  obtain ⟨⟨storeFile, entityFile⟩, hfiles, -⟩ := on_ofExcept_bind_ok.mp hrest
  rw [h.sourceFiles_eq hextension] at hsources
  obtain ⟨hstore, -⟩ := canonicalFiles_ok hfiles
  obtain rfl := Except.ok.inj hsources
  obtain ⟨name, hname, -⟩ := List.mem_map.mp (List.mem_filter.mp hstore).1
  by_contra hread
  simp [sourceNames, names?, hread] at hname

end Aggregation

namespace Export

variable {name : String} {files : List GeneratedFile}

/-- A file goes to its own place, which is not a directory's. -/
theorem writeFile_keeps {region : Location → Prop} (hdirectory : ∀ name ∈ directory, IsName name)
    (hname : IsName name) (hregion : region (directory ++ [name])) (dryRun : Bool) (mode : Nat)
    (content : String) :
    Keeps (PutsFiles region) (writeFile dryRun mode (.absolute (directory ++ [name])) content) := by
  refine .ite (.bind (.change fun disk after hafter => .of_orderly fun horderly => ?_) fun _ =>
    .of_disk_eq fun _ => rfl) (.of_disk_eq fun _ => rfl)
  obtain ⟨rfl, hplace, -⟩ := put_of_replaceFile horderly hdirectory hname hafter
  have hget : ∀ location, location ≠ directory ++ [name] →
      (disk.tree.put (directory ++ [name]) (.file content.toUTF8 mode)).get? location =
        disk.tree.get? location := by
    intro location hne
    rw [get?_put (by simp), if_neg hne]
  refine ⟨⟨fun _ => rfl, fun _ => ?_, fun _ location hout => hget location ?_⟩,
    fun _ location => ?_⟩
  · exact horderly.put (by simp) (isName_append hdirectory hname) (by simp)
  · rintro rfl
    exact hout hregion
  · by_cases hlocation : location = directory ++ [name]
    · subst hlocation
      exact Or.inr ⟨by simp [holdsFile, get?_put], hplace⟩
    · exact Or.inl (hget location hlocation)

theorem writeFile_matches (hname : IsName name) (dryRun : Bool) (mode : Nat) (content : String) :
    Matches (Alike directory)
      (writeFile dryRun mode (.absolute (directory ++ [name])) content)
      (writeFile dryRun mode (.absolute (directory ++ [name])) content) := by
  refine .ite (.bind (.change fun left right h => ?_) fun _ => .pure _) (.pure _)
  exact h.replaceFile hname _ _

theorem writeAll_keeps (hdirectory : ∀ name ∈ directory, IsName name)
    (hfiles : ∀ file ∈ files, IsOutput config file.path) (dryRun : Bool) :
    Keeps (PutsFiles (Aggregation.Generated config directory))
      (writeAll config dryRun (.absolute directory) files) := by
  refine .mapM fun file hfile => ?_
  have houtput := hfiles file hfile
  rw [houtput.child directory]
  refine writeFile_keeps hdirectory houtput.isName ⟨_, rfl, ?_⟩ _ _ _
  simp [Aggregation.isGeneratedName, houtput.marked, houtput.source]

theorem writeAll_matches (hfiles : ∀ file ∈ files, IsOutput config file.path) (dryRun : Bool) :
    Matches (Alike directory) (writeAll config dryRun (.absolute directory) files)
      (writeAll config dryRun (.absolute directory) files) := by
  refine .mapM fun file hfile => ?_
  rw [(hfiles file hfile).child directory]
  exact writeFile_matches (hfiles file hfile).isName _ _ _

/-- Files were written only where the directory is entered and alterable. -/
theorem entered_of_writeAll (horderly : workspace.disk.tree.IsOrderly)
    (hdirectory : ∀ name ∈ directory, IsName name)
    (hfiles : ∀ file ∈ files, IsOutput config file.path) (hne : files ≠ [])
    {records : List FileRecord}
    (hok : (writeAll config false (.absolute directory) files).on workspace =
      (.ok records, last)) :
    Entered directory workspace.disk ∧ workspace.disk.tree.isAlterable directory = true := by
  cases files with
  | nil => exact absurd rfl hne
  | cons file rest =>
    rw [writeAll, List.mapM_cons, (hfiles file List.mem_cons_self).child directory] at hok
    obtain ⟨record, later, hrecord, -⟩ := on_bind_ok.mp hok
    obtain ⟨_, later', hchange, -⟩ := on_bind_ok.mp hrecord
    obtain ⟨disk, hdisk, -⟩ := on_change_ok.mp hchange
    exact (put_of_replaceFile horderly hdirectory (hfiles file List.mem_cons_self).isName
      hdisk).2.2

end Export

namespace Discovery

/-- Without links the import path does not depend on the disk. -/
theorem importPath_congr {first second : Disk} {root : Location} (hf : first.tree.IsOrderly)
    (hs : second.tree.IsOrderly) (hdirectory : ∀ name ∈ directory, IsName name)
    (hroot : ∀ name ∈ root, IsName name) :
    importPath config first (.absolute directory) (.absolute root) =
      importPath config second (.absolute directory) (.absolute root) := by
  simp only [importPath, relative?, resolve_absolute hf hdirectory, resolve_absolute hf hroot,
    resolve_absolute hs hdirectory, resolve_absolute hs hroot]

end Discovery

namespace Run

open Aggregation

/-- What follows the cleaning of a package's directory. -/
def produce (config : Config) (dryRun : Bool) (progress : Progress) (directory : Path)
    (importPath : String) : Action Progress := do
  let package ← assemble config directory importPath
  Action.tell (package.notices config)
  let files ← Action.ofExcept (package.files config)
  let records ← Export.writeAll config dryRun directory files
  return {
    packages := progress.packages ++ [package.name]
    entities := progress.entities + package.allEntities.length
    records := progress.records ++ records }

/-- A package's directory is cleaned between naming the package and making its files. -/
theorem synthesize_eq (dryRun : Bool) (root path : Path) (progress : Progress) :
    synthesize config dryRun root progress path = (do
      let importPath ← Action.ofExcept
        (Discovery.importPath config (← Action.disk) path root)
      discard (clean config dryRun path)
      produce config dryRun progress path importPath) := by
  simp only [synthesize, aggregate, produce, bind_assoc]

variable {progress next : Progress} {importPath : String}

theorem produce_keeps (hlayout : config.HasDefaultNames)
    (hdirectory : ∀ name ∈ directory, IsName name) (dryRun : Bool) :
    Keeps (PutsFiles (Generated config directory))
      (produce config dryRun progress (.absolute directory) importPath) := by
  refine .bind_gives (.of_keeps_eq (assemble_reads _ _).keeps) (assemble_gives _) ?_
  rintro package ⟨hvalid, hentities⟩
  refine .bind (.of_disk_eq fun _ => rfl) fun _ => ?_
  refine .bind_gives (.ofExcept _) (.ofExcept fun _ hfiles =>
    package.isOutput_of_mem_files hlayout hvalid hentities hfiles) fun files hfiles => ?_
  exact .bind (Export.writeAll_keeps hdirectory hfiles dryRun) fun _ => .of_disk_eq fun _ => rfl

theorem produce_matches (hlayout : config.HasDefaultNames) (dryRun : Bool) :
    Matches (Alike directory)
      (produce config dryRun progress (.absolute directory) importPath)
      (produce config dryRun progress (.absolute directory) importPath) := by
  refine .bind_gives (assemble_matches hlayout.sourceExtension) (assemble_gives _) ?_
  rintro package ⟨hvalid, hentities⟩
  refine .bind (.tell _) fun _ => .ofExcept_bind fun files hfiles => ?_
  have houtputs := package.isOutput_of_mem_files hlayout hvalid hentities hfiles
  exact .bind (Export.writeAll_matches houtputs dryRun) fun _ => .pure _

/-- Synthesizing a package changes nothing but generated files of its directory. -/
theorem synthesize_keeps (hlayout : config.HasDefaultNames)
    (hdirectory : ∀ name ∈ directory, IsName name) (dryRun : Bool) (root : Path) :
    Keeps (ChangesOnly (Generated config directory))
      (synthesize config dryRun root progress (.absolute directory)) := by
  rw [synthesize_eq]
  refine .bind (.of_disk_eq fun _ => rfl) fun disk => .bind (.ofExcept _) fun importPath => ?_
  refine .bind (.bind (clean_keeps hlayout.sourceExtension hdirectory dryRun) fun _ =>
    .of_disk_eq fun _ => rfl) fun _ => ?_
  exact (produce_keeps hlayout hdirectory dryRun).mono fun _ _ h => h.toChangesOnly

/-- A package was produced only from a directory that may be read and altered. -/
theorem owned_of_produce (hlayout : config.HasDefaultNames)
    (horderly : workspace.disk.tree.IsOrderly) (hdirectory : ∀ name ∈ directory, IsName name)
    (hok : (produce config false progress (.absolute directory) importPath).on workspace =
      (.ok next, last)) : Owned directory workspace.disk := by
  obtain ⟨package, assembled, hassemble, hrest⟩ := on_bind_ok.mp hok
  obtain ⟨hvalid, hentities⟩ := assemble_gives _ _ _ _ hassemble
  have hdisk : workspace.disk = assembled.disk := by
    have hkept := (@assemble_reads config (.absolute directory) importPath).keeps workspace
    rwa [hassemble] at hkept
  obtain ⟨_, told, htell, hrest⟩ := on_bind_ok.mp hrest
  obtain ⟨files, hfiles, hrest⟩ := on_ofExcept_bind_ok.mp hrest
  obtain ⟨records, written, hwrite, -⟩ := on_bind_ok.mp hrest
  have htold : told.disk = workspace.disk := by
    rw [on_tell] at htell
    rw [hdisk, ← (Prod.mk.inj htell).2]
  have hne : files ≠ [] := by
    obtain ⟨main, store, text, -, -, -, hall⟩ := Package.files_of_check hvalid
    rw [hall] at hfiles
    rw [← Except.ok.inj hfiles]
    simp
  obtain ⟨hentered, halter⟩ := Export.entered_of_writeAll (htold ▸ horderly) hdirectory
    (package.isOutput_of_mem_files hlayout hvalid hentities hfiles) hne hwrite
  rw [htold] at hentered halter
  exact ⟨hentered, read_of_assemble hlayout.sourceExtension hentered hassemble, halter⟩

/-- The parts of a synthesis that succeeds. -/
theorem synthesize_ok {dryRun : Bool} {root path : Path}
    (hok : (synthesize config dryRun root progress path).on workspace = (.ok next, last)) :
    ∃ importPath removed cleaned,
      Discovery.importPath config workspace.disk path root = .ok importPath ∧
      (clean config dryRun path).on workspace = (.ok removed, cleaned) ∧
      (produce config dryRun progress path importPath).on cleaned = (.ok next, last) := by
  rw [synthesize_eq, on_disk_bind] at hok
  obtain ⟨importPath, himport, hrest⟩ := on_ofExcept_bind_ok.mp hok
  obtain ⟨_, cleaned, hdiscard, hproduce⟩ := on_bind_ok.mp hrest
  obtain ⟨removed, cleaned', hclean, hpure⟩ := on_bind_ok.mp hdiscard
  obtain ⟨-, rfl⟩ := Prod.mk.inj hpure
  exact ⟨importPath, removed, cleaned', himport, hclean, hproduce⟩

theorem not_generated_of_above {location : Location} (h : location <+: directory) :
    ¬ Generated config directory location := by
  rintro ⟨name, heq, -⟩
  exact ne_child_of_above h heq

/-- A package was synthesized only in a directory that may be read and altered. -/
theorem owned_of_synthesize (hlayout : config.HasDefaultNames)
    (horderly : workspace.disk.tree.IsOrderly) (hdirectory : ∀ name ∈ directory, IsName name)
    {root : Path}
    (hok : (synthesize config false root progress (.absolute directory)).on workspace =
      (.ok next, last)) : Owned directory workspace.disk := by
  obtain ⟨importPath, removed, cleaned, -, hclean, hproduce⟩ := synthesize_ok hok
  have hkept := (clean_keeps hlayout.sourceExtension hdirectory false).of_on hclean
  have hbare := owned_of_produce hlayout (hkept.orderly horderly) hdirectory hproduce
  exact hbare.congr horderly fun location hlocation =>
    (hkept.same horderly location (not_generated_of_above hlocation)).symm

theorem synthesize_on {dryRun : Bool} {root path : Path} {removed : List Path}
    {cleaned : Workspace}
    (himport : Discovery.importPath config workspace.disk path root = .ok importPath)
    (hclean : (clean config dryRun path).on workspace = (.ok removed, cleaned)) :
    (synthesize config dryRun root progress path).on workspace =
      (produce config dryRun progress path importPath).on cleaned := by
  have hdiscard : (discard (clean config dryRun path)).on workspace = (.ok (), cleaned) :=
    on_bind_ok.mpr ⟨removed, cleaned, hclean, rfl⟩
  rw [synthesize_eq, on_disk_bind, on_bind, on_ofExcept, himport]
  simp only
  rw [on_bind, hdiscard]

section Cleaned

variable {disk bare : Disk} {location : Location}

/-- Cleaning keeps everything but generated files. -/
theorem get?_of_without (h : Owned directory disk)
    (hwithout : Without directory (generatedNames config disk directory) disk bare)
    (hnot : Generated config directory location → disk.holdsFile location = false) :
    bare.tree.get? location = disk.tree.get? location := by
  refine hwithout.same location fun name hname heq => ?_
  obtain ⟨hgenerated, hfile⟩ := (mem_generatedNames h.read).mp hname
  rw [← heq, hnot ⟨name, heq, hgenerated⟩] at hfile
  cases hfile

/-- Cleaning leaves no generated file. -/
theorem get?_eq_none_of_without (h : Owned directory disk)
    (hwithout : Without directory (generatedNames config disk directory) disk bare)
    (hgenerated : Generated config directory location) (hfile : disk.holdsFile location = true) :
    bare.tree.get? location = none := by
  obtain ⟨name, rfl, hname⟩ := hgenerated
  exact hwithout.gone name ((mem_generatedNames h.read).mpr ⟨hname, hfile⟩)

theorem holdsFile_of_without (h : Owned directory disk)
    (hwithout : Without directory (generatedNames config disk directory) disk bare)
    (hgenerated : Generated config directory location) : bare.holdsFile location = false := by
  cases hfile : disk.holdsFile location with
  | true => rw [holdsFile, get?_eq_none_of_without h hwithout hgenerated hfile]
  | false => rw [holdsFile, get?_of_without h hwithout fun _ => hfile, ← holdsFile, hfile]

end Cleaned

/-- Cleaning takes back what was written after a cleaning: the disks agree around the directory. -/
theorem agree_cleaned {before cleaned after again cleanedAgain : Disk}
    (hbefore : Owned directory before) (hagain : Owned directory again)
    (hclean : Without directory (generatedNames config before directory) before cleaned)
    (hputs : PutsFiles (Generated config directory) cleaned after)
    (hsame : Agree (Around directory) again.tree after.tree)
    (hcleanAgain : Without directory (generatedNames config again directory) again cleanedAgain) :
    Agree (Around directory) cleaned.tree cleanedAgain.tree := by
  intro location hlocation
  have hhere : again.tree.get? location = after.tree.get? location := hsame location hlocation
  by_cases hgenerated : Generated config directory location
  · have hbare := holdsFile_of_without hbefore hclean hgenerated
    rcases hputs.files hclean.orderly location with hafter | ⟨hfile, hplace⟩
    · rw [get?_of_without hagain hcleanAgain, hhere, hafter]
      rw [holdsFile, hhere, hafter, ← holdsFile]
      exact fun _ => hbare
    · rw [get?_eq_none_of_without hagain hcleanAgain hgenerated (by
        rw [holdsFile, hhere, ← holdsFile, hfile])]
      cases hnode : cleaned.tree.get? location with
      | none => rfl
      | some node =>
        cases node with
        | directory mode => exact absurd hnode (hplace mode)
        | file content mode => simp [holdsFile, hnode] at hbare
        | link target => exact absurd hnode (hclean.orderly.linkFree _ target)
  · rw [get?_of_without hagain hcleanAgain fun h => absurd h hgenerated, hhere,
      hputs.same hclean.orderly location hgenerated]

/-- A package that was synthesized can be synthesized again, with the same outcome and the same
files, wherever the disk is as it was left around the package's directory. -/
theorem synthesize_again {root : Location} (hlayout : config.HasDefaultNames)
    (hdirectory : ∀ name ∈ directory, IsName name) (hroot : ∀ name ∈ root, IsName name)
    (horderly : workspace.disk.tree.IsOrderly)
    (hok : (synthesize config false (.absolute root) progress (.absolute directory)).on workspace =
      (.ok next, last))
    {again : Workspace} (hagain : again.disk.tree.IsOrderly)
    (hsame : Agree (Around directory) again.disk.tree last.disk.tree) :
    ∃ later,
      (synthesize config false (.absolute root) progress (.absolute directory)).on again =
        (.ok next, later) ∧
      Agree (Around directory) later.disk.tree last.disk.tree := by
  obtain ⟨importPath, removed, cleaned, himport, hclean, hproduce⟩ := synthesize_ok hok
  have hkept := (clean_keeps hlayout.sourceExtension hdirectory false).of_on hclean
  have hbare := owned_of_produce hlayout (hkept.orderly horderly) hdirectory hproduce
  have howned := owned_of_synthesize hlayout horderly hdirectory hok
  have hputs := (produce_keeps hlayout hdirectory false).of_on hproduce
  have hownedAgain : Owned directory again.disk := hbare.congr hagain fun location hlocation =>
    (hsame location (Or.inl hlocation)).trans
      (hputs.same hbare.orderly location (not_generated_of_above hlocation))
  obtain ⟨_, _, hclean', hwithout⟩ := clean_on hlayout.sourceExtension howned
  obtain ⟨-, rfl⟩ := Prod.mk.inj (hclean.symm.trans hclean')
  obtain ⟨removedAgain, cleanedAgain, hcleanAgain, hwithoutAgain⟩ :=
    clean_on hlayout.sourceExtension hownedAgain
  have hagree := agree_cleaned howned hownedAgain hwithout hputs hsame hwithoutAgain
  have hbareAgain : Owned directory cleanedAgain.disk :=
    hbare.congr hwithoutAgain.orderly fun location hlocation =>
      (hagree location (Or.inl hlocation)).symm
  obtain ⟨houtcome, halike⟩ := @produce_matches config directory progress importPath hlayout false
    cleaned cleanedAgain ⟨hbare.toEntered, hbareAgain.toEntered, hagree⟩
  rw [hproduce] at houtcome halike
  rw [Discovery.importPath_congr horderly hagain hdirectory hroot] at himport
  refine ⟨_, ?_, fun location hlocation => (halike.agree location hlocation).symm⟩
  rw [synthesize_on himport hcleanAgain]
  exact Prod.ext houtcome.symm rfl

end Run

end Scaffold
