import Scaffold.Options
import Scaffold.Run
import Scaffold.Settings

/-!
# The command

A command line asks for a run, or for a word about the program. The exit code tells how it ended.
-/

namespace Scaffold

/-- How a command ended. -/
structure Ending where
  exitCode : Nat := 0
  /-- What is printed. -/
  output : String := ""
  /-- What is told of the error that stopped it. -/
  complaint : String := ""
  deriving DecidableEq, Repr

/-- The sentence that tells of an error, with what a formatter wrote. -/
def Error.complaint : Error → String
  | fault (.formatter cause) path =>
    located cause.message path ++ (if cause.output.isEmpty then "" else "\n" ++ cause.output)
  | fault cause path => located cause.message path
  | invalid problems =>
    "Unexpected failure: " ++ ", ".intercalate (problems.map fun problem => problem.kind.code)
  | undecodable => "Unexpected failure: a file does not hold text"
  | unconvertible => "Unexpected failure: a text stands for no value"
  | unreachable => "Unexpected failure: a path cannot be looked up"
  | forbidden => "Unexpected failure: a path may not be looked up"
  | circular => "Unexpected failure: a path leads to itself"
  | tooDeep => "Unexpected failure: a document is nested too deep"
  | derived => "Unexpected failure: a derived member cannot be set"

namespace CommandLine

/-- The exit code of a command line that cannot be understood. -/
def misuseCode : Nat := 2

/-- What the program tells about itself. -/
def versionText : String := "storesynth v" ++ generatorVersion

/-- How the program is called. -/
def usageText : String :=
  "usage: storesynth [-h] [--version] [-r DIR] [-c PATH] [--import-root PATH]\n" ++
  "                  [--generator-name NAME] [--no-format] [--no-meta] [--dry-run]\n" ++
  "                  [--manifest PATH] [-v] [-q]"

/-- What an option was given as a setting; an option without a value gives an empty list. -/
def settingOf : Given → Json
  | .text value => .str value
  | .nothing => .arr []

/-- The settings that options put over a configuration file. -/
def overrides (options : Options) : Schema.Members :=
  (options.importRoot.map fun value => ("import_root", settingOf value)).toList ++
  (options.generatorName.map fun value => ("generator_name", settingOf value)).toList ++
  (if options.noFormat then [("run_formatter", .bool false)] else []) ++
  (if options.noMeta then [("build_meta", .bool false)] else [])

/-- The path that an option gives; an empty one is as good as none. -/
def givenPath : Option Given → Option Path
  | some (.text value) => if value.isEmpty then none else some (Path.ofString value)
  | _ => none

/-- The directory that a run starts from. -/
def startOf (options : Options) : Path :=
  (givenPath options.root).getD {}

/-- The conventions that options ask for. -/
def configOf (options : Options) : Action Config :=
  Settings.load (givenPath options.config) (overrides options)

/-- The run that options ask for. -/
def runOptions (options : Options) (timestamp : String) : Action RunReport := do
  let config ← configOf options
  Run.run config options.dryRun (startOf options) (givenPath options.manifest) timestamp

/-- What was done for a command line. -/
inductive Deed where
  | told (ending : Ending)
  | ran (options : Options) (outcome : Except Error RunReport)

/-- How a command ends, with the time that it took. -/
def Deed.ending (elapsed : String) : Deed → Ending
  | told ending => ending
  | ran options (.ok report) =>
    { output := if options.quiet then "" else report.summary elapsed ++ "\n" }
  | ran _ (.error error) => { exitCode := error.exitCode, complaint := error.complaint ++ "\n" }

/-- Carries out a command line on a disk. -/
def perform (words : List String) (timestamp : String) (disk : Disk) : Deed × Workspace :=
  match Options.parse words with
  | .help => (.told { output := usageText ++ "\n" }, { disk })
  | .version => (.told { output := versionText ++ "\n" }, { disk })
  | .misuse => (.told { exitCode := misuseCode, complaint := usageText ++ "\n" }, { disk })
  | .run options =>
    let (outcome, workspace) := (runOptions options timestamp).runOn disk
    (.ran options outcome, workspace)

end CommandLine

end Scaffold
