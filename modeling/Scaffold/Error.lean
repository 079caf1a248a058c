import Scaffold.Disk.Tree
import Scaffold.Schema.Problem
import Scaffold.Source.Fault

/-!
# Errors

Whatever stops a run belongs to one of a few categories, and the category decides the exit code.
Each cause has one wording; the path it was met at is added to the sentence.
-/

namespace Scaffold

/-- The categories of faults. -/
inductive Category where
  | general
  | configuration
  | structural
  | ordering
  | invariant
  | inputOutput
  | formatter
  deriving DecidableEq, Repr

/-- The exit code of a command that a fault of the category stops. -/
def Category.exitCode : Category → Nat
  | general => 7
  | configuration => 1
  | structural => 2
  | ordering => 3
  | invariant => 4
  | inputOutput => 5
  | formatter => 6

/-- A step was taken before one that it depends on. -/
inductive OrderFault where
  | storeBeforeEntity
  | storeWithoutEntity (store : String)
  deriving DecidableEq, Repr

/-- The sentence that tells of the fault. -/
def OrderFault.message : OrderFault → String
  | storeBeforeEntity => "Cannot set the store before the main entity is known"
  | storeWithoutEntity store => s!"Store {store} has no primary entity to fetch"

/-- A directory or a configuration file is not laid out as it has to be. -/
inductive LayoutFault where
  | outsideRoot (directory root : String)
  | noStoresDirectory
  | noStoreFile
  | noEntityFile
  | noConfigFile
  | unreadableConfig
  | invalidJson
  | invalidYaml
  | notMapping (kind : String)
  | sectionNotMapping (name : String)
  | invalidConfig (problems : List Problem)
  deriving DecidableEq, Repr

/-- The sentence that tells of the fault. -/
def LayoutFault.message : LayoutFault → String
  | outsideRoot directory root => s!"`{directory}` is not inside the stores root `{root}`"
  | noStoresDirectory => "Stores directory not found"
  | noStoreFile => "Package doesn't have a store file"
  | noEntityFile => "Package doesn't have an entity file"
  | noConfigFile => "Config file not found"
  | unreadableConfig => "Cannot read config file"
  | invalidJson => "Invalid JSON"
  | invalidYaml => "Invalid YAML"
  | notMapping kind => s!"Expected a mapping at top level, got {kind}"
  | sectionNotMapping name => s!"`{name}` must be a mapping"
  | invalidConfig _ => "Config validation failed"

/-- A file or directory could not be read, written or removed. -/
inductive FileFault where
  | listStores
  | inspectEntry
  | listPackage
  | deleteFile
  | readSource
  | writeFile
  | writeManifest
  | recreateMeta
  deriving DecidableEq, Repr

/-- The sentence that tells of the fault. -/
def FileFault.message : FileFault → String
  | listStores => "Cannot list stores directory"
  | inspectEntry => "Cannot inspect entry"
  | listPackage => "Cannot list package files"
  | deleteFile => "Cannot delete synthesized file"
  | readSource => "Cannot read source file"
  | writeFile => "Cannot write file"
  | writeManifest => "Cannot write manifest"
  | recreateMeta => "Cannot recreate meta directory"

/-- The formatter could not be started or failed. -/
inductive FormatterFault where
  | notStarted (command : String)
  | failed (status : Int) (output : String)
  deriving DecidableEq, Repr

/-- The sentence that tells of the fault. -/
def FormatterFault.message : FormatterFault → String
  | notStarted command => s!"Cannot run formatter `{command}`"
  | failed status _ => s!"Formatter exited with status {status}"

/-- What the formatter wrote before it failed. -/
def FormatterFault.output : FormatterFault → String
  | notStarted _ => ""
  | failed _ output => output

/-- A cause that stops a run. -/
inductive Fault where
  | source (cause : SourceFault)
  | order (cause : OrderFault)
  | layout (cause : LayoutFault)
  /-- What was to be done with a file or directory, and why the disk refused it. -/
  | file (cause : FileFault) (reason : PathFault)
  | formatter (cause : FormatterFault)
  /-- Checks across the models of a package failed; the report lists them. -/
  | broken (report : String)
  deriving DecidableEq, Repr

namespace Fault

/-- The category that a cause belongs to. -/
def category : Fault → Category
  | source _ => .structural
  | order _ => .ordering
  | layout _ => .configuration
  | file _ _ => .inputOutput
  | formatter _ => .formatter
  | broken _ => .invariant

/-- The sentence that tells of a cause. -/
def message : Fault → String
  | source cause => cause.message
  | order cause => cause.message
  | layout cause => cause.message
  | file cause _ => cause.message
  | formatter cause => cause.message
  | broken report => report

end Fault

/-- Why an operation has no result. -/
inductive Error where
  /-- A cause, and the path at which it was met. -/
  | fault (cause : Fault) (path : Option String)
  /-- A value that no model admits. -/
  | invalid (problems : List Problem)
  /-- Bytes that are no text, and the path of the file that holds them, if it is one. -/
  | undecodable {path : Option String} {bytes : Array UInt8}
  /-- A text that is written like a value and stands for none, such as a thirteenth month, or a
  name that no entry can have. -/
  | unconvertible
  /-- A path with a name that is too long to be looked up. -/
  | unreachable
  /-- A path through a directory that may not be passed through. -/
  | forbidden
  /-- Links that lead in a circle. -/
  | circular
  /-- A document whose parts stand too deep inside each other. -/
  | tooDeep
  /-- A member that follows from others was to be set. -/
  | derived
  deriving DecidableEq, Repr

namespace Error

/-- A sentence with the path that it is about, unless that is empty. -/
def located (message : String) (path : Option String) : String :=
  match path with
  | none => message
  | some path => if path.isEmpty then message else s!"{message} (at `{path}`)"

/-- The exit code of a command that the error stops. -/
def exitCode : Error → Nat
  | fault cause _ => cause.category.exitCode
  | _ => Category.general.exitCode

/-- A fault in source text takes the path of its file where it has none yet. -/
def inFile (path : Option String) : Error → Error
  | fault (.source cause) none => fault (.source cause) path
  | error => error

/-- The error of bytes that are no text. -/
def ofBytes (path : Option String) (bytes : ByteArray) : Error :=
  @undecodable path bytes.data

/-- The outcome of reading source text. -/
def ofSource {α : Type} : Except SourceFault α → Except Error α
  | .ok value => .ok value
  | .error cause => .error (fault (.source cause) none)

end Error

end Scaffold
