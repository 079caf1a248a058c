import Scaffold.Build.Entity
import Scaffold.Build.Store
import Scaffold.Check
import Scaffold.Discovery
import Scaffold.Disk.Glob

/-!
# Packages from directories

A package is read from its directory: generated files are removed, the store's file and the primary
entity's file are found by their names, and every other source file that is not a test may add
methods to the store and hold a further entity.
-/

namespace Scaffold.Aggregation

/-- The file was generated. -/
def isGenerated (config : Config) (path : Path) : Bool :=
  Text.contains path.name config.generatedMarker

/-- The file holds tests. -/
def isTest (config : Config) (path : Path) : Bool :=
  Text.endsWith path.stem config.testFileSuffix

/-- The source files of a directory, sorted by name; a directory that is not there has none. -/
def sourceFiles (config : Config) (disk : Disk) (directory : Path) : Except Error (List Path) :=
  match Glob.parse? ("*." ++ config.sourceExtension) with
  | none => .error .unconvertible
  | some glob =>
    (glob.files disk directory).mapError fun reason =>
      .fault (.file .listPackage reason) (some directory.render)

/-- Removes a generated file; one that is gone already was not removed. -/
def remove (path : Path) : Action Bool := do
  match (← Action.disk).unlink path with
  | .error .missing => return false
  | _ =>
    Action.change .deleteFile path fun disk => disk.unlink path
    return true

/-- Removes the generated files of a directory, or only lists them. -/
def clean (config : Config) (dryRun : Bool) (directory : Path) : Action (List Path) := do
  let files ← Action.ofExcept (sourceFiles config (← Action.disk) directory)
  let stale := files.filter (isGenerated config)
  if dryRun then return stale else stale.filterM remove

/-- The last of the files with a name. -/
def named? (files : List Path) (name : String) : Option Path :=
  files.reverse.find? fun file => file.name == name

/-- The stems that the primary entity's file may have, the usual one first. -/
def entityStems (config : Config) (package : String) : List String :=
  [package, package ++ config.entityFileSuffix] ++
    (config.primaryEntityExceptions.lookup package).toList

/-- The store's file and the primary entity's file of a directory. -/
def canonicalFiles (config : Config) (directory : Path) (files : List Path) :
    Except Error (Path × Path) :=
  match named? files (config.fileName config.storeFileName) with
  | none => .error (.fault (.layout .noStoreFile) (some directory.render))
  | some store =>
    let candidates := (entityStems config directory.name).filterMap fun stem =>
      named? files (config.fileName stem)
    match candidates.find? fun file => file ≠ store with
    | some entity => .ok (store, entity)
    | none => .error (.fault (.layout .noEntityFile) (some directory.render))

/-- The text of a source file. -/
def readText (path : Path) : Action String := do
  match (← Action.disk).fileContent path with
  | .error reason => Action.fail (.file .readSource reason) path
  | .ok content =>
    match Disk.decode? content with
    | some text => return text
    | none => throw (.ofBytes (some path.render) content)

/-- Takes up one further file: its methods go to the store, and it may hold an entity. A file that
is gone since the listing would be passed over; nothing changes the disk in between, so here it is
one that cannot be read. -/
def takeUp (config : Config) (package importPath : String) (state : Store × List Entity)
    (path : Path) : Action (Store × List Entity) := do
  let source ← readText path
  let collectPublic := !Text.contains source config.entityMarker
  let (store, outcome) := state.1.harvest source collectPublic (some path.render)
  discard (Action.ofExcept outcome)
  if Source.isMarked config.entityMarker.toList source.toList then
    let entity ← Action.ofExcept
      (Entity.ofSource config source package importPath (some path.render))
    return (store, state.2 ++ [entity])
  else return (store, state.2)

/-- The package that the source files of a directory declare, generated ones left aside. -/
def assemble (config : Config) (directory : Path) (importPath : String) : Action Package := do
  let package := directory.name
  let sources ← Action.ofExcept (sourceFiles config (← Action.disk) directory)
  let files := sources.filter fun file => !isGenerated config file
  let (storeFile, entityFile) ← Action.ofExcept (canonicalFiles config directory files)
  let mainEntity ← Action.ofExcept
    (Entity.ofSource config (← readText entityFile) package importPath (some entityFile.render))
  let store ← Action.ofExcept
    (Store.ofSource (← readText storeFile) package (some mainEntity) (some storeFile.render))
  let others := files.filter fun file =>
    file ≠ storeFile && file ≠ entityFile && !isTest config file
  let (store, entities) ← others.foldlM (takeUp config package importPath) (store, [])
  let declared : Package :=
    { name := package
      path := directory.render
      importPath
      store := some (store.finalize config)
      mainEntity := some mainEntity
      entities }
  let package ← Action.ofExcept declared.checked.orError
  let report := package.check config
  Action.tell (package.checkNotices report)
  if report.isValid then return package
  else Action.fail (.broken report.errorText) directory

/-- The package in a directory, which is cleaned before it is read. -/
def aggregate (config : Config) (dryRun : Bool) (directory root : Path) : Action Package := do
  let importPath ← Action.ofExcept
    (Discovery.importPath config (← Action.disk) directory root)
  discard (clean config dryRun directory)
  assemble config directory importPath

end Scaffold.Aggregation
