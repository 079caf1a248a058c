import Scaffold.Export
import Scaffold.Go.Decl

/-!
# The meta package

Beside the stores root stands a small package that is made anew on every run.
-/

namespace Scaffold.Meta

/-- The directory of the meta package. -/
def directory (config : Config) (storesRoot : Path) : Path :=
  storesRoot.parent.child config.metaDirectoryName

/-- The source file of the meta package. -/
def file (config : Config) : Go.File :=
  { generator := config.generatorName
    package := config.metaDirectoryName
    decls :=
      [.emptyStruct (some "StoresMeta object.") "StoresMeta",
       .func
        { doc := some "New returns a new instance of StoresMeta."
          signature := ⟨"New", [], [⟨"", "*StoresMeta"⟩, ⟨"", "error"⟩]⟩
          body := ["return &StoresMeta" ++ Go.braced "" ++ ", nil"] }] }

/-- The test file of the meta package, which holds no tests. -/
def testFile (config : Config) : Go.File :=
  { generator := config.generatorName
    package := config.metaDirectoryName ++ "_test" }

/-- Removes the directory with everything in it if it is there, and makes it anew. -/
def recreate (mode : Nat) (directory : Path) : Action Unit := do
  if (← Action.disk).isTaken directory then
    Action.change .recreateMeta directory fun disk => disk.emptyDirectory directory
    Action.change .recreateMeta directory fun disk => disk.removeEmpty directory
  Action.change .recreateMeta directory fun disk => disk.makeDirectory mode directory

/-- Makes the meta package anew. -/
def build (config : Config) (dryRun : Bool) (storesRoot : Path) : Action (List FileRecord) := do
  let directory := directory config storesRoot
  if !dryRun then recreate config.directoryMode directory
  let write (name : String) (file : Go.File) :=
    Export.writeFile dryRun config.fileMode (directory.child name) file.render
  let source ← write (config.fileName config.metaDirectoryName) (file config)
  let test ← write (config.testFileName config.metaDirectoryName) (testFile config)
  return [source, test]

end Scaffold.Meta
