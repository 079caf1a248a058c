import Scaffold.Text.Basic
import Scaffold.Text.Word

/-!
# Command-line options

Options are written out, cut short where no other option starts the same way, or as one letter
behind a dash. The value of an option stands in the next word, behind `=`, or right behind its
letter; letters without values may be written behind one dash, and the first of them may be set
apart by `=`. A value that is only the divider `--` counts as no value. There are no other
arguments.
-/

namespace Scaffold

/-- What an option asks for. -/
inductive OptionKind where
  | help
  | version
  | root
  | config
  | importRoot
  | generatorName
  | noFormat
  | noMeta
  | dryRun
  | manifest
  | verbose
  | quiet
  deriving DecidableEq, Repr

namespace OptionKind

/-- The option has a value. -/
def takesValue : OptionKind → Bool
  | root | config | importRoot | generatorName | manifest => true
  | _ => false

/-- All spellings of options. -/
def spellings : List (String × OptionKind) :=
  [("-h", help), ("--help", help), ("--version", version), ("-r", root), ("--root", root),
   ("-c", config), ("--config", config), ("--import-root", importRoot),
   ("--generator-name", generatorName), ("--no-format", noFormat), ("--no-meta", noMeta),
   ("--dry-run", dryRun), ("--manifest", manifest), ("-v", verbose), ("--verbose", verbose),
   ("-q", quiet), ("--quiet", quiet)]

/-- The option of a spelling. -/
def ofSpelling? (spelling : Chars) : Option OptionKind :=
  spellings.lookup (String.ofList spelling)

end OptionKind

/-- What an option was given. -/
inductive Given where
  | text (value : String)
  /-- Only the divider. -/
  | nothing
  deriving DecidableEq, Repr

/-- What a value in the same word gives. -/
def Given.ofText (value : String) : Given :=
  if value = "--" then .nothing else .text value

/-- The choices made on a command line. -/
structure Options where
  root : Option Given := none
  config : Option Given := none
  importRoot : Option Given := none
  generatorName : Option Given := none
  noFormat : Bool := false
  noMeta : Bool := false
  dryRun : Bool := false
  manifest : Option Given := none
  verbosity : Nat := 0
  quiet : Bool := false
  deriving DecidableEq, Repr

/-- What a command line asks for. -/
inductive Request where
  | help
  | version
  | run (options : Options)
  /-- The command line cannot be understood. -/
  | misuse
  deriving DecidableEq, Repr

namespace Options

/-- How a word of a command line counts. -/
inductive Word where
  /-- A value or a stray argument. -/
  | plain (text : String)
  /-- The word after which all words are plain. -/
  | divider
  /-- Looks like an option, and is none. -/
  | unknown
  | long (kind : OptionKind) (value : Option String)
  /-- A letter and what stands behind it in the same word. -/
  | short (kind : OptionKind) (behind : Option Chars)
  deriving DecidableEq, Repr

/-- The text before the first `=` and, if there is one, the text behind it. -/
def cutAtEquals (text : Chars) : Chars × Option Chars :=
  let name := text.takeWhile (· != '=')
  (name, (text.drop name.length).tail?)

/-- A dash and a number. -/
def isNegativeNumber : Chars → Bool
  | '-' :: rest =>
    let whole := rest.takeWhile Text.isDecimalDigit
    match rest.drop whole.length with
    | [] => !whole.isEmpty
    | ['\n'] => !whole.isEmpty
    | '.' :: fraction =>
      let digits := fraction.takeWhile Text.isDecimalDigit
      !digits.isEmpty && (digits.length = fraction.length ||
        fraction.drop digits.length == ['\n'])
    | _ => false
  | _ => false

/-- A word that is no option: one that looks like an option is unknown. -/
def noOption (text : Chars) : Word :=
  if isNegativeNumber text || text.contains ' ' then .plain (String.ofList text) else .unknown

/-- A word that begins with two dashes; nothing where it could be several options. -/
def longWord? (text : Chars) : Option Word :=
  let (name, value) := cutAtEquals text
  let value := value.map String.ofList
  match OptionKind.ofSpelling? name with
  | some kind => some (.long kind value)
  | none =>
    match OptionKind.spellings.filter fun (spelling, _) => name.isPrefixOf spelling.toList with
    | [] => some (noOption text)
    | [(_, kind)] => some (.long kind value)
    | _ => none

/-- A word that begins with one dash and a letter. -/
def shortWord (letter : Char) (rest : Chars) : Word :=
  match OptionKind.ofSpelling? ['-', letter] with
  | none => noOption ('-' :: letter :: rest)
  | some kind =>
    match rest with
    | [] => .short kind none
    | '=' :: value => .short kind (some value)
    | text => .short kind (some text)

/-- How a word counts; nothing where it could be several options. -/
def classify? (word : String) : Option Word :=
  match word.toList with
  | '-' :: '-' :: rest => longWord? ('-' :: '-' :: rest)
  | '-' :: letter :: rest => some (shortWord letter rest)
  | _ => some (.plain word)

/-- How all words of a command line count. -/
def classifyAll? : List String → Option (List Word)
  | [] => some []
  | "--" :: rest => some (.divider :: rest.map .plain)
  | word :: rest => return (← classify? word) :: (← classifyAll? rest)

/-- An option without a value, done. A request that ends the reading is given instead. -/
def setFlag (options : Options) : OptionKind → Except Request Options
  | .help => .error .help
  | .version => .error .version
  | .noFormat => .ok { options with noFormat := true }
  | .noMeta => .ok { options with noMeta := true }
  | .dryRun => .ok { options with dryRun := true }
  | .verbose => .ok { options with verbosity := options.verbosity + 1 }
  | .quiet => .ok { options with quiet := true }
  | _ => .error .misuse

/-- An option with a value, done. -/
def setValue (options : Options) (value : Given) : OptionKind → Options
  | .root => { options with root := some value }
  | .config => { options with config := some value }
  | .importRoot => { options with importRoot := some value }
  | .generatorName => { options with generatorName := some value }
  | .manifest => { options with manifest := some value }
  | _ => options

/-- What letters behind one dash mean. -/
structure Cluster where
  /-- The letters without values. -/
  flags : List OptionKind := []
  /-- The letter that takes a value, and the value where it stands in the same word. -/
  last : Option (OptionKind × Option String) := none

/-- The options that letters stand for; nothing where one of them is no option. -/
def letters? (kind : OptionKind) : Chars → Option Cluster
  | [] =>
    if kind.takesValue then some { last := some (kind, none) } else some { flags := [kind] }
  | c :: rest =>
    if kind.takesValue then some { last := some (kind, some (String.ofList (c :: rest))) }
    else do
      let cluster ← letters? (← OptionKind.ofSpelling? ['-', c]) rest
      some { cluster with flags := kind :: cluster.flags }

/-- The options that a letter and what stands behind it stand for. -/
def cluster? (kind : OptionKind) : Option Chars → Option Cluster
  | none => letters? kind []
  | some [] => if kind.takesValue then some { last := some (kind, some "") } else none
  | some text => letters? kind text

/-- Reads classified words in order. `stray` tells that an argument was met that has no meaning. -/
def read (options : Options) (stray : Bool) : List Word → Request
  | [] => if stray then .misuse else .run options
  | .plain _ :: rest => read options true rest
  | .divider :: rest => read options true rest
  | .unknown :: rest => read options true rest
  | .long kind value :: rest =>
    if kind.takesValue then
      match value, rest with
      | some value, rest => read (options.setValue (.ofText value) kind) stray rest
      | none, .plain value :: rest => read (options.setValue (.text value) kind) stray rest
      | none, _ => .misuse
    else
      match value, options.setFlag kind with
      | some _, _ => .misuse
      | none, .ok options => read options stray rest
      | none, .error request => request
  | .short kind behind :: rest =>
    match cluster? kind behind with
    | none => .misuse
    | some cluster =>
      match cluster.last, rest, cluster.flags.foldlM setFlag options with
      | some (_, none), [], _ => .misuse
      | some (kind, none), .plain value :: rest, .ok options =>
        read (options.setValue (.text value) kind) stray rest
      | some (_, none), .plain _ :: _, .error request => request
      | some (_, none), _ :: _, _ => .misuse
      | some (kind, some value), rest, .ok options =>
        read (options.setValue (.ofText value) kind) stray rest
      | none, rest, .ok options => read options stray rest
      | _, _, .error request => request

/-- What the words of a command line ask for. -/
def parse (words : List String) : Request :=
  match classifyAll? words with
  | none => .misuse
  | some words => read {} false words

end Options

end Scaffold
