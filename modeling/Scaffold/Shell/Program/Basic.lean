import Scaffold.Disk.Wording
import Scaffold.Shell.Pattern
import Scaffold.Shell.Variable

/-!
# Programs

A program reads its words, its input and the files of a disk. It changes the disk, writes to
channels and ends with a status.
-/

namespace Scaffold.Shell

/-- Programs that a program wants to be run. -/
structure Pending where
  commands : List (List Chars)
  /-- The status that the statuses of the programs lead to. -/
  settle : List Nat → Nat
  /-- The complaint about a program that is not there. -/
  missing : Chars → Chars
  /-- The variables that the programs know. -/
  environment : List (String × Chars)
  /-- What the programs read. -/
  input : Chars := []

/-- A program that is being run. -/
structure Job where
  disk : Disk
  input : Chars := []
  /-- The input is the content of a file. -/
  ofFile : Bool := false
  /-- The rights that new files are not given. -/
  mask : Nat := 0o022
  /-- The variables that the program knows. -/
  environment : List (String × Chars) := []
  /-- What was written, each with its channel, the last first. -/
  written : List (Nat × Chars) := []
  status : Nat := 0
  pending : Option Pending := none

/-- A program: what its words, without its name, do. -/
abbrev Program := List Chars → Job → Job

namespace Job

/-- Writes to the first channel. -/
def print (text : Chars) (job : Job) : Job :=
  { job with written := (1, text) :: job.written }

/-- Writes a line to the first channel. -/
def printLine (text : Chars) (job : Job) : Job :=
  job.print (text ++ ['\n'])

/-- Writes a complaint and fails with a status. -/
def fail (status : Nat) (message : Chars) (job : Job) : Job :=
  { job with written := (2, message ++ ['\n']) :: job.written, status }

/-- Writes a complaint of a program and fails with status one. -/
def complain (program : String) (message : Chars) (job : Job) : Job :=
  job.fail 1 (program.toList ++ ": ".toList ++ message)

/-- Writes a complaint about the words of a program. -/
def misused (program : String) (message : Chars) (status : Nat) (job : Job) : Job :=
  job.fail status
    (program.toList ++ ": ".toList ++ message ++
      ("\nTry '" ++ program ++ " --help' for more information.").toList)

/-- The input has been read to its end, if it is one of the paths. -/
def drain (paths : List Chars) (job : Job) : Job :=
  if paths.contains ['-'] then { job with input := [] } else job

end Job

namespace Program

/-- A character that stands for itself in a name that is shown, at a place in it. -/
def isPlain (alone : Bool) (first : Bool) (c : Char) : Bool :=
  if c == '\x7b' || c == '\x7d' then !alone
  else if c == '#' || c == '~' then !first
  else !" !\"$&()*;<=>[^\x60|'?\\".toList.contains c && ' ' ≤ c && c != '\x7f'

/-- A character that may stand between double quotes. -/
def isGentle (alone : Bool) (first : Bool) (c : Char) : Bool :=
  if c == '\x7b' || c == '\x7d' then alone
  else if c == '#' || c == '~' then first
  else c == ' ' || c == '\x27' || isPlain alone first c

/-- A character as it is written where it cannot be shown. -/
def escaped (c : Char) : Chars :=
  match c with
  | '\x07' => ['\\', 'a']
  | '\x08' => ['\\', 'b']
  | '\t' => ['\\', 't']
  | '\n' => ['\\', 'n']
  | '\x0b' => ['\\', 'v']
  | '\x0c' => ['\\', 'f']
  | '\r' => ['\\', 'r']
  | c =>
    let digits := Nat.toDigits 8 c.toNat
    '\\' :: (List.replicate (3 - digits.length) '0' ++ digits)

/-- A name between single quotes, from behind the first on. `shown` tells whether the characters
right before could be shown. -/
def insideQuotes (shown : Bool) : Chars → Chars
  | [] => ['\x27']
  | c :: rest =>
    if ' ' ≤ c && c != '\x7f' then
      (if shown then [] else "''".toList) ++
        (if c == '\x27' then "'\\''".toList else [c]) ++ insideQuotes true rest
    else (if shown then "'$'".toList else []) ++ escaped c ++ insideQuotes false rest

/-- Marks the characters of a text by whether they pass a test on their place. -/
def allPlaced (test : Bool → Bool → Char → Bool) (text : Chars) : Bool :=
  match text with
  | [] => true
  | c :: rest => test rest.isEmpty true c && rest.all (test false false)

/-- A name between quotes. -/
def inQuotes (name : Chars) : Chars :=
  if name.contains '\x27' && allPlaced isGentle name then '"' :: name ++ ['"']
  else '\x27' :: insideQuotes true name

/-- A name, between quotes only if it holds a character that does not stand for itself. -/
def shown (name : Chars) : Chars :=
  if !name.isEmpty && !name.contains ':' && allPlaced isPlain name then name else inQuotes name

/-- A text between quotes that turn to it. -/
def inCurls (text : Chars) : Chars :=
  bytesOf "‘" ++ text ++ bytesOf "’"

/-- The options and the other words of a program. -/
structure Given where
  options : List (Char × Chars) := []
  words : List Chars := []

namespace Given

/-- An option is given. -/
def has (given : Given) (letter : Char) : Bool :=
  (given.options.lookup letter).isSome

/-- The value of an option; the last one counts. -/
def value? (given : Given) (letter : Char) : Option Chars :=
  given.options.reverse.lookup letter

/-- Adds an option before the others. -/
def withOption (letter : Char) (value : Chars) (given : Given) : Given :=
  { given with options := (letter, value) :: given.options }

end Given

/-- Which options a program knows: letters, a colon behind those that take a value, and long names
for letters. -/
structure Known where
  letters : String
  names : List (String × Char) := []

namespace Known

/-- The option takes a value. -/
def takesValue (known : Known) (letter : Char) : Bool :=
  match known.letters.toList.dropWhile (· != letter) with
  | _ :: ':' :: _ => true
  | _ => false

/-- Reads a cluster of letters, with the words behind it. -/
def cluster (known : Known) : Chars → List Chars →
    Except Chars (List (Char × Chars) × List Chars)
  | [], rest => .ok ([], rest)
  | c :: letters, rest =>
    if c == ':' || !known.letters.toList.contains c then
      .error ("invalid option -- '".toList ++ [c, '\x27'])
    else if known.takesValue c then
      if !letters.isEmpty then .ok ([(c, letters)], rest)
      else
        match rest with
        | value :: rest => .ok ([(c, value)], rest)
        | [] => .error ("option requires an argument -- '".toList ++ [c, '\x27'])
    else (known.cluster letters rest).map fun (more, rest) => ((c, []) :: more, rest)

/-- Reads a long option, with the words behind it. -/
def long (known : Known) (text : Chars) (rest : List Chars) :
    Except Chars ((Char × Chars) × List Chars) :=
  let name := text.takeWhile (· != '=')
  let value := (text.drop name.length).tail?
  let fits := known.names.filter fun (full, _) => name.isPrefixOf full.toList
  match (known.names.find? fun (full, _) => full.toList == name).orElse fun _ =>
      if fits.length = 1 then fits.head? else none with
  | none => .error ("unrecognized option '--".toList ++ text ++ ['\x27'])
  | some (full, letter) =>
    match value, known.takesValue letter with
    | some value, _ => .ok ((letter, value), rest)
    | none, false => .ok ((letter, []), rest)
    | none, true =>
      match rest with
      | value :: rest => .ok ((letter, value), rest)
      | [] => .error (("option '--" ++ full ++ "' requires an argument").toList)

/-- Tells options from other words, which may stand between them. The number bounds the steps. -/
def readFrom (known : Known) : Nat → List Chars → Except Chars Given
  | 0, words => .ok { words }
  | _ + 1, [] => .ok {}
  | fuel + 1, word :: rest =>
    match word with
    | ['-', '-'] => .ok { words := rest }
    | '-' :: '-' :: text => do
      let (option, rest) ← known.long text rest
      return (← known.readFrom fuel rest).withOption option.1 option.2
    | '-' :: c :: letters => do
      let (options, rest) ← known.cluster (c :: letters) rest
      let given ← known.readFrom fuel rest
      return { given with options := options ++ given.options }
    | _ => do
      let given ← known.readFrom fuel rest
      return { given with words := word :: given.words }

/-- Tells options from other words. -/
def read (known : Known) (words : List Chars) : Except Chars Given :=
  known.readFrom (words.length + 1) words

end Known

/-- A program that reads options. -/
def withOptions (name : String) (known : Known) (run : Given → Job → Job)
    (misuse : Nat := 1) : Program := fun words job =>
  match known.read words with
  | .ok given => run given job
  | .error message => job.misused name message misuse

/-- The content of a file, of a device or of the input. -/
def read (job : Job) (path : Chars) : Except PathFault Chars :=
  if path == ['-'] || path == "/dev/stdin".toList then .ok job.input
  else if path == "/dev/null".toList then .ok []
  else
    match locate job.disk true path with
    | .ok (.taken location node) =>
      if !job.disk.tree.allows .read location then .error .denied
      else
        match node with
        | .file content _ => .ok (contentBytes content)
        | _ => .error .directory
    | .ok (.vacant _) => .error .missing
    | .error fault => .error fault

/-- The lines of a text, each with its end. -/
def linesOf (text : Chars) : List Chars :=
  text.foldr
    (fun c lines =>
      if c == '\n' then ['\n'] :: lines
      else
        match lines with
        | [] => [[c]]
        | line :: rest => (c :: line) :: rest)
    []

/-- A line without its end. -/
def bare (line : Chars) : Chars :=
  if line.getLast? == some '\n' then line.dropLast else line

/-- The lines of a text without their ends. -/
def bareLines (text : Chars) : List Chars :=
  (linesOf text).map bare

/-- The number that digits write. -/
def natural? (text : Chars) : Option Nat :=
  if !text.isEmpty && text.all Char.isDigit then
    some (text.foldl (fun value c => 10 * value + (c.toNat - '0'.toNat)) 0)
  else none

/-- The number that digits behind an optional sign write. -/
def integer? (text : Chars) : Option Int :=
  match text with
  | '-' :: digits => (natural? digits).map fun value => -(value : Int)
  | '+' :: digits => (natural? digits).map Int.ofNat
  | digits => (natural? digits).map Int.ofNat

/-- A number with blanks before it, at least so many characters wide. -/
def padded (width number : Nat) : Chars :=
  let digits := number.repr.toList
  List.replicate (width - digits.length) ' ' ++ digits

/-- The path of a name in a directory. -/
def joined (directory name : Chars) : Chars :=
  if directory.isEmpty then name
  else if directory.getLast? == some '/' then directory ++ name
  else directory ++ '/' :: name

/-- The last part of a path. -/
def baseName (path : Chars) : Chars :=
  let cut := (path.reverse.dropWhile (· == '/')).reverse
  if cut.isEmpty then if path.isEmpty then [] else ['/']
  else (cut.reverse.takeWhile (· != '/')).reverse

/-- The path before its last part. -/
def dirName (path : Chars) : Chars :=
  let trim (text : Chars) := text.dropWhile (· == '/')
  let cut := trim path.reverse
  let above := cut.dropWhile (· != '/')
  if cut.isEmpty then if path.isEmpty then ['.'] else ['/']
  else if above.isEmpty then ['.']
  else
    let above := trim above
    if above.isEmpty then ['/'] else above.reverse

end Program

end Scaffold.Shell
