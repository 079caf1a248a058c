import Scaffold.Aggregation
import Scaffold.Export
import Scaffold.Meta
import Scaffold.Number.Decimal
import Scaffold.Number.Grouped
import Scaffold.Render.Package
import Scaffold.Shell.Run

/-!
# Runs

A run goes through the packages below a stores root in order: it reads each one, checks it, makes
its files and writes them. After the last one it makes the meta package anew and starts the
formatter. The first error ends it.
-/

namespace Scaffold

/-- What a successful run did. -/
structure RunReport where
  storesRoot : String := ""
  dryRun : Bool := false
  packages : List String := []
  totalEntities : Int := 0
  totalFiles : Int := 0
  totalBytes : Int := 0
  formatterRan : Bool := false
  manifest : Manifest := {}
  deriving DecidableEq, Repr

/-- A time in seconds with three decimal places. -/
def RunReport.elapsedText (seconds : Number.Decimal) : String :=
  match seconds.toDouble? with
  | some double => double.fixed 3 ++ "s"
  | none => if seconds.negative then "-infs" else "infs"

/-- The report for people, with the time that the run took. -/
def RunReport.summary (report : RunReport) (elapsed : String) : String :=
  let bar (c : Char) := String.ofList (List.replicate 60 c)
  let packages :=
    if report.packages.isEmpty then []
    else bar '─' :: report.packages.map fun name => "    ✓ " ++ name
  Text.joinLines
    ([bar '=', "  storesynth - Synthesis Report", bar '=',
      "  Stores root:      " ++ report.storesRoot,
      "  Mode:             " ++ (if report.dryRun then "dry run" else "write"),
      "  Packages:         " ++ toString report.packages.length,
      "  Entities:         " ++ toString report.totalEntities,
      "  Files written:    " ++ toString report.totalFiles,
      "  Total bytes:      " ++ Number.grouped report.totalBytes,
      "  Formatter:        " ++ (if report.formatterRan then "ran" else "skipped"),
      "  Total time:       " ++ elapsed] ++ packages ++ [bar '='])

namespace Run

/-- The text can be told to a program: it does not hold the character that ends such texts. -/
def isTellable (text : String) : Bool :=
  !text.toList.contains '\x00'

/-- Starts the formatter in the stores root and gives what it wrote. -/
def format (config : Config) (root : Path) : Action String := do
  let disk ← Action.disk
  if !(root.render :: config.formatterCommand).all isTellable then throw .unconvertible
  let started := (disk.directory? root).bind fun directory =>
    if disk.tree.allows .pass directory then
      Shell.run? disk.tree directory config.formatterCommand
    else none
  match started with
  | none => Action.fail (.formatter (.notStarted (config.formatterCommand.headD ""))) root
  | some outcome =>
    modify fun workspace => { workspace with disk := { disk with tree := outcome.tree } }
    match Disk.decode? outcome.out, Disk.decode? outcome.err with
    | some out, some err =>
      if outcome.status = 0 then return out ++ err
      else Action.fail (.formatter (.failed outcome.status (out ++ err))) root
    | none, _ => throw (.ofBytes none outcome.out)
    | _, none => throw (.ofBytes none outcome.err)

/-- What has been done so far. -/
structure Progress where
  packages : List String := []
  entities : Nat := 0
  records : List FileRecord := []

/-- Reads one package, makes its files and writes them. -/
def synthesize (config : Config) (dryRun : Bool) (root : Path) (progress : Progress)
    (directory : Path) : Action Progress := do
  let package ← Aggregation.aggregate config dryRun directory root
  Action.tell (package.notices config)
  let files ← Action.ofExcept (package.files config)
  let records ← Export.writeAll config dryRun directory files
  return {
    packages := progress.packages ++ [package.name]
    entities := progress.entities + package.allEntities.length
    records := progress.records ++ records }

/-- The stores root of a run that starts in a directory. -/
def rootOf (config : Config) (disk : Disk) (start : Path) : Except Error Path :=
  match disk.resolve start with
  | .ok start => .ok (Discovery.storesRoot config start)
  | .error .loop => .error .circular
  | .error _ => .error .unconvertible

/-- A whole run; `timestamp` is the time that its manifest carries. -/
def run (config : Config) (dryRun : Bool) (start : Path) (manifestPath : Option Path)
    (timestamp : String) : Action RunReport := do
  let root ← Action.ofExcept (rootOf config (← Action.disk) start)
  let directories ← Action.ofExcept (Discovery.packages config (← Action.disk) root)
  let progress ← directories.foldlM (synthesize config dryRun root) {}
  let metaRecords ← if config.buildMeta then Meta.build config dryRun root else pure []
  let formats := config.runFormatter && !dryRun
  if formats then discard (format config root)
  let manifest :=
    { Manifest.start config root.render dryRun timestamp with
      files := progress.records ++ metaRecords }
  match manifestPath with
  | none => pure ()
  | some path => Export.writeManifest manifest path
  return {
    storesRoot := root.render
    dryRun
    packages := progress.packages
    totalEntities := progress.entities
    totalFiles := manifest.totalFiles
    totalBytes := manifest.totalBytes
    formatterRan := formats
    manifest }

end Run

end Scaffold
