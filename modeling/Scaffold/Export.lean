import Scaffold.Config
import Scaffold.Digest
import Scaffold.Json.Printer
import Scaffold.Model.Package
import Scaffold.Workspace

/-!
# Writing files and keeping records

Every file that is written, or would be written, is recorded with its size, its lines and its
digest. The records of a run make up its manifest.
-/

namespace Scaffold

/-- The record of a written file. -/
structure FileRecord where
  path : String
  sizeBytes : Int
  lineCount : Int
  sha256 : String
  deriving DecidableEq, Repr

namespace FileRecord

/-- The record of a content written at a path. -/
def ofContent (path : Path) (content : String) : FileRecord :=
  { path := path.render
    sizeBytes := content.utf8ByteSize
    lineCount := Text.lineFeeds content
    sha256 := Digest.sha256 content.toUTF8 }

/-- The record as a document. -/
def toJson (record : FileRecord) : Json :=
  .obj
    [("path", .str record.path), ("size_bytes", .int record.sizeBytes),
     ("line_count", .int record.lineCount), ("sha256", .str record.sha256)]

end FileRecord

/-- The version of the generator. -/
def generatorVersion : String := "1.0.0"

/-- Everything that a run wrote, in order. -/
structure Manifest where
  generatorName : String := ""
  generatorVersion : String := ""
  exportTimestamp : String := ""
  storesRoot : String := ""
  dryRun : Bool := false
  files : List FileRecord := []
  deriving DecidableEq, Repr

namespace Manifest

/-- The manifest of a run that has written nothing yet. -/
def start (config : Config) (storesRoot : String) (dryRun : Bool) (timestamp : String) :
    Manifest :=
  { generatorName := config.generatorName
    generatorVersion := Scaffold.generatorVersion
    exportTimestamp := timestamp
    storesRoot
    dryRun }

/-- The number of files. -/
def totalFiles (manifest : Manifest) : Nat :=
  manifest.files.length

/-- The size of all files together. -/
def totalBytes (manifest : Manifest) : Int :=
  manifest.files.foldr (fun record total => record.sizeBytes + total) 0

/-- The manifest as a document. -/
def toJson (manifest : Manifest) : Json :=
  .obj
    [("generator_name", .str manifest.generatorName),
     ("generator_version", .str manifest.generatorVersion),
     ("export_timestamp", .str manifest.exportTimestamp),
     ("stores_root", .str manifest.storesRoot),
     ("dry_run", .bool manifest.dryRun),
     ("total_files", .int manifest.totalFiles),
     ("total_bytes", .int manifest.totalBytes),
     ("files", .arr (manifest.files.map FileRecord.toJson))]

/-- The manifest as text. -/
def render (manifest : Manifest) (indent : Nat) : String :=
  manifest.toJson.pretty indent

end Manifest

namespace Export

/-- Writes a file unless the run is dry, and gives its record. -/
def writeFile (dryRun : Bool) (mode : Nat) (path : Path) (content : String) :
    Action FileRecord := do
  if !dryRun then
    Action.change .writeFile path fun disk => disk.replaceFile path content.toUTF8 mode
  return FileRecord.ofContent path content

/-- Writes the files of a package into its directory. -/
def writeAll (config : Config) (dryRun : Bool) (directory : Path) (files : List GeneratedFile) :
    Action (List FileRecord) :=
  files.mapM fun file =>
    writeFile dryRun config.fileMode (directory.child file.path) file.content

/-- Makes the directories that lead to the place of a manifest. -/
def ensureAbove (path : Path) : Action Unit := do
  let directory := path.parent
  match (← Action.disk).find directory with
  | .ok (.taken _ (.directory _)) => pure ()
  | .error .unspeakable => throw .unconvertible
  | _ =>
    (Disk.chain directory).forM fun above =>
      Action.change .writeManifest path fun disk => disk.ensureDirectory above

/-- Writes a manifest, in a dry run too. -/
def writeManifest (manifest : Manifest) (path : Path) : Action Unit := do
  ensureAbove path
  Action.change .writeManifest path fun disk =>
    disk.writeFile path (manifest.render 2 ++ "\n").toUTF8

end Export

end Scaffold
