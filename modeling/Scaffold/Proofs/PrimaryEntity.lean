import Scaffold.Proofs.FetchDetection

/-!
# The primary entity of a package

The entity of the canonical file is the package's main entity, whatever its struct is called; an
entity is primary if it carries the name of its package. No entity of a further file does, since
the package is checked for that. The main entity itself is not checked: a package whose canonical
file marks a struct of another name has no primary entity at all.
-/

namespace Scaffold

/-- No secondary entity of a checked package is primary. -/
theorem Package.isPrimary_eq_false_of_check {config : Config} {package : Package}
    (h : (package.check config).isValid = true) :
    ∀ entity ∈ package.entities, entity.isPrimary = false := by
  obtain ⟨⟨-, hsecondary, -⟩, -⟩ := check_isValid_iff.mp h
  intro entity hentity
  by_contra hprimary
  have hfinding : entity.error "SECONDARY_IS_PRIMARY"
      s!"Expected a non-primary entity for `{entity.name}` at `{package.path}`" ∈
        package.checkSecondary.findings := by
    refine List.mem_map.mpr ⟨entity, List.mem_filter.mpr ⟨hentity, ?_⟩, rfl⟩
    simpa using hprimary
  simp only [Report.isValid, Bool.not_eq_true', List.any_eq_false] at hsecondary
  exact hsecondary _ hfinding rfl

namespace Aggregation

open Action

variable {config : Config} {directory : Path} {package : Package} {importPath : String}
  {text : Path → Except Error String}

/-- The main entity of a package is read from the canonical file, for the package that the directory
names. -/
theorem packageFrom_main {files : List Path}
    (h : packageFrom config directory importPath files text = .ok package) :
    ∃ main storeFile entityFile source block, package.mainEntity = some main ∧
      canonicalFiles config directory files = .ok (storeFile, entityFile) ∧
      text entityFile = .ok source ∧
      Source.findMarkedStruct config.entityMarker.toList source.toList = .ok block ∧
      main.name = block.name ∧ main.packageName = directory.name ∧
      (package.check config).isValid = true := by
  obtain ⟨storeFile, entityFile, source, main, _, _, _, _, hcanonical, hsource, hmain, -, -, -, rfl,
    hcheck⟩ := packageFrom_ok h
  obtain ⟨block, hblock, hname, hpackage, -⟩ := Entity.names_of_ofSource hmain
  exact ⟨main, storeFile, entityFile, source, block, rfl, hcanonical, hsource, hblock, hname,
    hpackage, hcheck⟩

/-- The primary entities of a package: its main entity alone, if the struct that the canonical file
marks carries the directory's name, and none otherwise. -/
theorem primary_entities_of_aggregate {dryRun : Bool} {root : Path} {workspace last : Workspace}
    (h : (aggregate config dryRun directory root).on workspace = (.ok package, last)) :
    ∃ main sources storeFile entityFile source block, package.mainEntity = some main ∧
      sourceFiles config last.disk directory = .ok sources ∧
      canonicalFiles config directory (sources.filter fun file => !isGenerated config file) =
        .ok (storeFile, entityFile) ∧
      textOn last.disk entityFile = .ok source ∧
      Source.findMarkedStruct config.entityMarker.toList source.toList = .ok block ∧
      package.allEntities.filter Entity.isPrimary =
        if Text.lower block.name = directory.name then [main] else [] := by
  obtain ⟨sources, importPath, hsources, hpackage⟩ := packageFrom_of_aggregate h
  obtain ⟨main, storeFile, entityFile, source, block, hmain, hcanonical, hsource, hblock, hname,
    hdirectory, hvalid⟩ := packageFrom_main hpackage
  refine ⟨main, sources, storeFile, entityFile, source, block, hmain, hsources, hcanonical, hsource,
    hblock, ?_⟩
  have hothers : package.entities.filter Entity.isPrimary = [] := by
    simpa [List.filter_eq_nil_iff] using Package.isPrimary_eq_false_of_check hvalid
  have hprimary : main.isPrimary = decide (Text.lower block.name = directory.name) := by
    rw [Entity.isPrimary, Entity.lowerName, hname, hdirectory, beq_eq_decide]
  rw [Package.allEntities, hmain, Option.toList_some, List.singleton_append, List.filter_cons,
    hothers, hprimary]
  simp only [decide_eq_true_eq]

/-- A marked struct whose name is not the directory's. -/
def otherSource : String := "// @synthesize\ntype B struct \x7b\n\tid string\n\x7d\n"

/-- The names of a package's entities, and which of them are primary. -/
def entityFlags (package : Package) : List (String × Bool) :=
  package.allEntities.map fun entity => (entity.name, entity.isPrimary)

/-- Of two entities, the one that is named as the package is primary. -/
theorem primary_entities_of_aggregate_sample :
    ∃ package last main,
      (aggregate Run.sampleConfig false (.absolute ["stores", "a"]) (.absolute ["stores"])).runOn
        (storeDisk Run.entitySource otherSource Run.storeSource) = (.ok package, last) ∧
      package.allEntities.length = 2 ∧ package.mainEntity = some main ∧
      package.allEntities.filter Entity.isPrimary = [main] := by
  obtain ⟨package, last, hon, -, hflags⟩ := @exists_aggregate_storeDisk _ entityFlags
    [("A", true), ("B", false)] Run.entitySource otherSource Run.storeSource (by decide)
    (by decide +kernel)
  obtain ⟨main, sources, storeFile, entityFile, source, block, hmain, -, -, -, -, hprimary⟩ :=
    @primary_entities_of_aggregate Run.sampleConfig _ _ _ _ _ _ hon
  have hlength : package.allEntities.length = 2 := by
    simpa [entityFlags] using congrArg List.length hflags
  refine ⟨package, last, main, hon, hlength, hmain, ?_⟩
  have hfirst : package.allEntities.filter Entity.isPrimary ≠ [] := by
    intro hnone
    have hmem : ("A", true) ∈ entityFlags package := by
      rw [hflags]
      exact List.mem_cons_self
    obtain ⟨entity, hentity, hflag⟩ := List.mem_map.mp hmem
    exact List.filter_eq_nil_iff.mp hnone entity hentity (congrArg Prod.snd hflag)
  split_ifs at hprimary
  · exact hprimary
  · exact absurd hprimary hfirst

/-- A package whose canonical file marks a struct of another name than the directory's has a main
entity and no primary one. -/
theorem no_primary_entity :
    ∃ package last main,
      (aggregate Run.sampleConfig false (.absolute ["stores", "a"]) (.absolute ["stores"])).runOn
        (storeDisk otherSource "" Run.storeSource) = (.ok package, last) ∧
      package.mainEntity = some main ∧ main.isPrimary = false ∧
      package.allEntities.filter Entity.isPrimary = [] := by
  obtain ⟨package, last, hon, -, hflags⟩ := @exists_aggregate_storeDisk _ entityFlags
    [("B", false)] otherSource "" Run.storeSource (by decide) (by decide +kernel)
  obtain ⟨sources, importPath, -, hpackage⟩ := packageFrom_of_aggregate hon
  obtain ⟨main, -, -, -, -, hmain, -⟩ := packageFrom_main hpackage
  have hnone : ∀ entity ∈ package.allEntities, entity.isPrimary = false := by
    intro entity hentity
    have hmem : (entity.name, entity.isPrimary) ∈ entityFlags package :=
      List.mem_map_of_mem hentity
    rw [hflags, List.mem_singleton] at hmem
    exact congrArg Prod.snd hmem
  refine ⟨package, last, main, hon, hmain, hnone main (by simp [Package.allEntities, hmain]), ?_⟩
  simpa [List.filter_eq_nil_iff] using hnone

end Aggregation

end Scaffold
