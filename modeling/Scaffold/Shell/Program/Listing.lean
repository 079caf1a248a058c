import Scaffold.Shell.Program.Files

/-!
# Listing entries

Programs that tell which entries there are and what they are like.
-/

namespace Scaffold.Shell.Program

/-- The options of `ls`. -/
def listKnown : Known where
  letters := "1aAbBcCdfFgGhiklLmnNopqQrRsStuUvw:xXZ"
  names := [("all", 'a'), ("almost-all", 'A'), ("directory", 'd'), ("reverse", 'r'),
    ("recursive", 'R'), ("classify", 'F'), ("group-directories-first", 'N'), ("color", 'N'),
    ("file-type", 'p')]

/-- The sign behind a name of an entry. -/
def marker (given : Given) (node : Node) : Chars :=
  match node with
  | .directory _ => if given.has 'F' || given.has 'p' then ['/'] else []
  | .link _ => if given.has 'F' then ['@'] else []
  | .file _ mode => if given.has 'F' && mode &&& 0o111 != 0 then ['*'] else []

/-- A list of names in the layout that is asked for. -/
def listed (given : Given) (names : List Chars) : Chars :=
  let names := if given.has 'Q' then names.map fun name => '"' :: name ++ ['"'] else names
  if given.has 'm' then
    if names.isEmpty then [] else ", ".toList.intercalate names ++ ['\n']
  else names.flatMap (· ++ ['\n'])

/-- Puts entries into the order that is asked for. -/
def ordered (given : Given) (entries : List (Chars × Node)) : List (Chars × Node) :=
  let size (node : Node) : Nat :=
    match node with
    | .file content _ => content.size
    | .link target => target.utf8ByteSize
    | .directory _ => 4096
  let byName := entries.mergeSort fun a b => Pattern.precedes a.1 b.1
  let sorted :=
    if given.has 'S' then byName.mergeSort fun a b => size b.2 ≤ size a.2 else byName
  if given.has 'r' then sorted.reverse else sorted

/-- What is told of an entry besides its name. All times are the same. -/
def longMark (node : Node) : Chars :=
  let (letters, links, size) : Chars × Nat × Nat :=
    match node with
    | .file content mode => (modeLetters '-' mode, 1, content.size)
    | .directory mode => (modeLetters 'd' mode, 2, 4096)
    | .link target => (modeLetters 'l' 0o777, 1, target.utf8ByteSize)
  letters ++ ' ' :: links.repr.toList ++ " root root ".toList ++ size.repr.toList ++
    " Jan  1 00:00 ".toList

/-- A name as it stands in a list. -/
def listedName (given : Given) (name : Chars) (node : Node) : Chars :=
  let target : Chars :=
    match node with
    | .link target => " -> ".toList ++ bytesOf target
    | _ => []
  if given.has 'l' then longMark node ++ name ++ marker given node ++ target
  else name ++ marker given node

/-- The line above a list with all that can be told: how much room the entries take. -/
def totalLine (given : Given) (entries : List (Chars × Node)) : Chars :=
  let room (node : Node) : Nat :=
    match node with
    | .file content _ => 4 * ((content.size + 4095) / 4096)
    | .directory _ => 4
    | .link _ => 0
  let total : Nat := (entries.map fun entry => room entry.2).foldl Nat.add 0
  if given.has 'l' then "total ".toList ++ total.repr.toList ++ ['\n'] else []

/-- The entries of a directory that are shown. -/
def visible (given : Given) (disk : Disk) (location : Location) : List (Chars × Node) :=
  let all := (namesIn disk location).filterMap fun name =>
    (disk.tree.get? (location ++ [textOf name])).map fun node => (name, node)
  let dots := [(['.'], location), (['.', '.'], location.dropLast)].map fun (name, location) =>
    (name, (disk.tree.get? location).getD .plainDirectory)
  ordered given
    (if given.has 'a' then dots ++ all
     else if given.has 'A' then all
     else all.filter fun (name, _) => name.head? != some '.')

/-- What lists are made of: the job, and the blocks of lines that have been made. -/
abbrev Listed := Job × List Chars

/-- Lists a directory with its path above it, and those below it if that is asked for. One that
cannot be read is complained about; the status is higher for those that were asked for. The number
bounds the depth. -/
def listDirectory (given : Given) (titled : Bool) (status : Nat) :
    Nat → Chars → Location → Listed → Listed
  | 0, _, _, listing => listing
  | depth + 1, path, location, (job, blocks) =>
    if !isReadable job.disk location then
      (job.fail (max status job.status) ("ls: cannot open directory ".toList ++ inQuotes path ++
        ": ".toList ++ PathFault.denied.wording), blocks)
    else
      let entries := visible given job.disk location
      let isHidden (node : Node) : Bool :=
        match node with
        | .file _ _ => given.has 'F' && !job.disk.tree.allows .pass location
        | _ => false
      let job := entries.foldl
        (fun job (name, node) =>
          if isHidden node then
            job.fail (max 1 job.status) ("ls: cannot access ".toList ++
              inQuotes (joined path name) ++ ": ".toList ++ PathFault.denied.wording)
          else job)
        job
      let title := if titled then path ++ ":\n".toList else []
      let body := totalLine given entries ++
        listed given (entries.map fun (name, node) =>
          if isHidden node then name else listedName given name node)
      let below :=
        if given.has 'R' then
          entries.filterMap fun (name, node) =>
            match node with
            | .directory _ => if name == ['.'] || name == ['.', '.'] then none else some name
            | _ => none
        else []
      below.foldl
        (fun listing name =>
          listDirectory given titled 1 depth (joined path name) (location ++ [textOf name])
            listing)
        (job, blocks ++ [title ++ body])

/-- Lists the entries of directories. -/
def ls : Program := withOptions "ls" listKnown (fun given job =>
  let words := if given.words.isEmpty then [['.']] else given.words
  let follows := !(given.has 'd' || given.has 'F' || given.has 'l')
  let look (word : Chars) : Except PathFault (Location × Node) :=
    if word == "/dev/null".toList then .ok ([], .file ByteArray.empty 0o644)
    else
      match node job.disk follows word with
      | .error .missing => node job.disk false word
      | found => found
  let job := forEach
    (fun word job =>
      match look word with
      | .ok _ => job
      | .error fault =>
        job.fail 2 ("ls: cannot access ".toList ++ inQuotes word ++ ": ".toList ++ fault.wording))
    words job
  let entries := words.filterMap fun word =>
    (look word).toOption.map fun (location, node) => (word, location, node)
  let isListed (node : Node) : Bool :=
    match node with
    | .directory _ => !given.has 'd'
    | _ => false
  let inOrder (entries : List (Chars × Location × Node)) :=
    let sorted := entries.mergeSort fun a b => Pattern.precedes a.1 b.1
    if given.has 'r' then sorted.reverse else sorted
  let files := inOrder (entries.filter fun (_, _, node) => !isListed node)
  let directories := inOrder (entries.filter fun (_, _, node) => isListed node)
  let shownFiles := listed given (files.map fun (word, _, node) => listedName given word node)
  let titled := given.has 'R' || 1 < words.length
  let (job, blocks) := directories.foldl
    (fun listing (word, location, _) =>
      listDirectory given titled 2 (job.disk.tree.entries.length + 2) word location listing)
    (job, [])
  let gap := if files.isEmpty || directories.isEmpty then [] else ['\n']
  job.print (shownFiles ++ gap ++ ['\n'].intercalate blocks)) 2

/-- One entry as a format asks for it. -/
def described (name : Chars) (entry : Node) : Chars → Chars
  | '%' :: c :: rest =>
    let (size, mode, kind, sign) : Nat × Nat × String × Char :=
      match entry with
      | .file content mode =>
        (content.size, mode, if content.size = 0 then "regular empty file" else "regular file", '-')
      | .directory mode => (4096, mode, "directory", 'd')
      | .link target => (target.utf8ByteSize, 0o777, "symbolic link", 'l')
    let shownText : Chars :=
      match c with
      | 'n' => name
      | 's' => size.repr.toList
      | 'a' => Nat.toDigits 8 mode
      | 'A' => modeLetters sign mode
      | 'F' => kind.toList
      | 'N' =>
        match entry with
        | .link target => inQuotes name ++ " -> ".toList ++ inQuotes (bytesOf target)
        | _ => inQuotes name
      | 'U' | 'G' => "root".toList
      | 'u' | 'g' => ['0']
      | '%' => ['%']
      | _ => ['?']
    shownText ++ described name entry rest
  | c :: rest => c :: described name entry rest
  | [] => []

/-- Describes entries. -/
def stat : Program := withOptions "stat"
    { letters := "c:fLt", names := [("format", 'c'), ("printf", 'c'), ("dereference", 'L')] }
  fun given job =>
    if given.words.isEmpty then job.misused "stat" "missing operand".toList 1
    else
      forEach
        (fun word job =>
          match node job.disk (given.has 'L') word with
          | .ok (_, entry) =>
            job.printLine (described word entry ((given.value? 'c').getD "%n".toList))
          | .error fault =>
            job.complain "stat"
              ("cannot statx ".toList ++ inQuotes word ++ ": ".toList ++ fault.wording))
        given.words job

end Scaffold.Shell.Program
