import Scaffold.Config
import Scaffold.Workspace

/-!
# Finding packages

Packages are the directories directly below the stores root. Directories of mocks are passed over,
and so are links that lead nowhere.
-/

namespace Scaffold.Discovery

/-- The stores root that a start directory stands for: itself, or the directory in it. -/
def storesRoot (config : Config) (start : Path) : Path :=
  if start.name == config.storesDirectoryName then start
  else start.child config.storesDirectoryName

/-- The parts of a path below another one. -/
def below? (root path : Path) : Option (List String) :=
  if root.anchor = path.anchor then root.parts.isPrefixOf? path.parts else none

/-- The parts of a directory's path below the stores root, links followed in both. -/
def relative? (disk : Disk) (directory root : Path) : Except PathFault (Option (List String)) := do
  let directory ← disk.resolve directory
  let root ← disk.resolve root
  return below? root directory

/-- The import path of a package's directory. -/
def importPath (config : Config) (disk : Disk) (directory root : Path) : Except Error String :=
  match relative? disk directory root with
  | .ok (some parts) =>
    let base := String.ofList (Text.dropEndWhile (· == '/') config.importRoot.toList)
    .ok ("/".intercalate (base :: parts))
  | .error .loop => .error .circular
  | _ =>
    .error (.fault (.layout (.outsideRoot directory.render root.render)) (some directory.render))

/-- The directory holds mocks. -/
def isMock (config : Config) (name : String) : Bool :=
  config.mockDirectorySuffixes.any (Text.endsWith name)

/-- Whether an entry of the stores root is a package; an entry that cannot be inspected is an
error. -/
def isPackage (config : Config) (disk : Disk) (entry : Path) : Except Error Bool :=
  match disk.find entry with
  | .ok (.taken _ (.directory _)) => .ok (!isMock config entry.name)
  | .ok (.taken _ _) => .ok false
  | .ok (.vacant _) => .ok false
  | .error .missing => .ok false
  | .error reason => .error (.fault (.file .inspectEntry reason) (some entry.render))

/-- The directories of all packages below a stores root, sorted by name. -/
def packages (config : Config) (disk : Disk) (root : Path) : Except Error (List Path) :=
  match disk.directory? root, disk.refusal? root with
  | none, some fault => .error (Error.ofRefusal fault)
  | none, none => .error (.fault (.layout .noStoresDirectory) (some root.render))
  | some location, _ => do
    let names ← (disk.names? location).elim
      (.error (.fault (.file .listStores .denied) (some root.render))) .ok
    let entries := names.map fun name => root.join ⟨.relative, [name]⟩
    let verdicts ← entries.mapM fun entry =>
      (isPackage config disk entry).map fun verdict => (entry, verdict)
    return (verdicts.filter fun (_, verdict) => verdict).map Prod.fst

end Scaffold.Discovery
