import Scaffold.Schema.Config
import Scaffold.Text.Case
import Scaffold.Workspace
import Scaffold.Yaml.Value

/-!
# Settings

The conventions of a run come from a file, with single settings put over it. The file is a mapping,
and the conventions stand at its top or in a section of their own.
-/

namespace Scaffold

/-- What deserves attention in conventions. -/
def Config.notices (config : Config) : List Notice :=
  if config.directiveExtendsMarker then []
  else [.directiveApart config.noDbFieldDirective config.entityMarker]

namespace Settings

/-- The key of the section that may hold the conventions. -/
def sectionKey : String := "storesynth"

/-- The file is a block document. -/
def isBlockDocument (path : Path) : Bool :=
  [".yaml", ".yml"].contains (Text.lower path.extension)

/-- What a value of a document is called. -/
def kindName : Json → String
  | .null => "NoneType"
  | .bool _ => "bool"
  | .int _ => "int"
  | .real _ => "float"
  | .notFinite _ => "float"
  | .str _ => "str"
  | .brokenStr => "str"
  | .moment withTime _ => if withTime then "datetime" else "date"
  | .arr _ => "list"
  | .obj _ => "dict"
  | .mapping _ => "dict"

/-- The settings of a mapping, in the order in which they were written. -/
abbrev Pairs := List (Json × Json)

/-- Settings with texts as their keys. -/
def pairsOf (members : Schema.Members) : Pairs :=
  members.map fun (name, value) => (.str name, value)

/-- The document that a text writes. -/
def document (path : Path) (text : String) : Except Error Json :=
  let named (cause : LayoutFault) : ReadFault → Error
    | .malformed => .fault (.layout cause) (some path.render)
    | .unconvertible => .unconvertible
    | .tooDeep => .tooDeep
  if isBlockDocument path then (Yaml.parse text).mapError (named .invalidYaml)
  else (Json.parse text).mapError (named .invalidJson)

/-- The pairs of a mapping. -/
def pairs? : Json → Option Pairs
  | .obj members => some (pairsOf members)
  | .mapping members => some members
  | _ => none

/-- The value of a key that is a text. -/
def lookup (name : String) (pairs : Pairs) : Option Json :=
  (pairs.find? fun (key, _) => key.sameKey (.str name)).map Prod.snd

/-- The settings in a document: those of its section, or all of them. -/
def ofDocument (value : Json) : Except LayoutFault Pairs :=
  match value, pairs? value with
  | .null, _ => .ok []
  | _, some pairs =>
    match lookup sectionKey pairs with
    | none => .ok pairs
    | some inner => (pairs? inner).elim (.error (.sectionNotMapping sectionKey)) .ok
  | other, none => .error (.notMapping (kindName other))

/-- The settings in a file. -/
def ofFile (disk : Disk) (path : Path) : Except Error Pairs := do
  let located {α : Type} (outcome : Except LayoutFault α) : Except Error α :=
    outcome.mapError fun cause => .fault (.layout cause) (some path.render)
  if let some fault := disk.refusal? path then throw (Error.ofRefusal fault)
  if !disk.isFile path then located (.error .noConfigFile)
  let content ← located ((disk.fileContent path).mapError fun _ => .unreadableConfig)
  let text ← (Disk.decode? content).elim (.error (.ofBytes (some path.render) content)) .ok
  located (ofDocument (← document path text))

/-- The conventions of a file, if there is one, with settings put over them. -/
def load (path : Option Path) (overrides : Schema.Members) : Action Config := do
  let disk ← Action.disk
  let base ← match path with
    | none => pure []
    | some path => Action.ofExcept (ofFile disk path)
  match Config.ofJson (Json.ofPairs (Json.mergePairs (base ++ pairsOf overrides))) with
  | .good config =>
    Action.tell config.notices
    return config
  | .bad problems =>
    throw (.fault (.layout (.invalidConfig problems)) (path.map Path.render))

end Settings

end Scaffold
