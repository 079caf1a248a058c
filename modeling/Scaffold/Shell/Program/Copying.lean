import Scaffold.Shell.Program.Files

/-!
# Copying and moving entries

Programs that put entries elsewhere, and that make links and tell where they lead.
-/

namespace Scaffold.Shell.Program

/-- The tree below a location as it stands below another one. -/
def moved (disk : Disk) (source target : Location) : Disk :=
  let shift (entry : Location × Node) : Location × Node :=
    if source.isPrefixOf entry.1 then (target ++ entry.1.drop source.length, entry.2) else entry
  let cleared := (drop disk target).tree
  { disk with tree := ⟨cleared.entries.map shift⟩ }

/-- A directory with everything below it as a copy elsewhere. -/
def copiedTree (disk : Disk) (source target : Location) : Disk :=
  (disk.tree.entries.filter fun entry => source.isPrefixOf entry.1).foldl
    (fun disk (location, node) => put disk (target ++ location.drop source.length) node) disk

/-- Where something is put under a path: into a directory that is there, or at the path. -/
def destination (disk : Disk) (into : Bool) (source target : Chars) : Chars :=
  if into || isDirectory disk target then joined target (baseName source) else target

/-- Splits the words of a program that puts sources somewhere, and complains about missing ones. -/
def putting (program : String) (given : Given) (job : Job)
    (step : (source target : Chars) → Job → Job) : Job :=
  let operands : List Chars × Option Chars :=
    match given.value? 't' with
    | some directory => (given.words, some directory)
    | none => (given.words.dropLast, given.words.getLast?)
  match given.words, operands with
  | [], _ => job.misused program "missing file operand".toList 1
  | [only], ([], _) =>
    job.misused program ("missing destination file operand after ".toList ++ inQuotes only) 1
  | _, (sources, some target) =>
    let into := 1 < sources.length || given.has 't'
    if into && !isDirectory job.disk target then
      let fault :=
        match node job.disk true target with
        | .error fault => fault
        | .ok _ => .notDirectory
      job.complain program
        ((if given.has 't' then "target directory " else "target ").toList ++ inQuotes target ++
          ": ".toList ++ fault.wording)
    else
      forEach
        (fun source job =>
          step source (if given.has 'T' then target else destination job.disk into source target)
            job)
        sources job
  | _, _ => job

/-- A copy keeps the modes of its sources. -/
def keepsModes (given : Given) : Bool :=
  given.has 'p' || given.has 'a'

/-- The mode of a new copy. -/
def copyMode (given : Given) (job : Job) (mode : Nat) : Nat :=
  if keepsModes given then mode else mode &&& (0o777 - job.mask % 512)

/-- Says what is copied where, if that is asked for. -/
def announced (given : Given) (source target : Chars) (job : Job) : Job :=
  if given.has 'v' then job.printLine (inQuotes source ++ " -> ".toList ++ inQuotes target)
  else job

/-- Copies a link. -/
def copyLink (given : Given) (source target : Chars) (text : String) (job : Job) : Job :=
  let fail (fault : PathFault) : Job :=
    job.complain "cp" ("cannot create symbolic link ".toList ++ inQuotes target ++ ": ".toList ++
      fault.wording)
  match locate job.disk false target with
  | .error fault => fail fault
  | .ok (.taken goal _) | .ok (.vacant goal) =>
    match job.disk.place goal (.link text) with
    | .error fault => fail fault
    | .ok disk => announced given source target { job with disk }

/-- Copies the content of a file. -/
def copyContent (given : Given) (source target : Chars) (location : Location) (content : ByteArray)
    (mode : Nat) (job : Job) : Job :=
  let fail (message : Chars) : Job := job.complain "cp" message
  let refuse (fault : PathFault) (job : Job) : Job :=
    job.complain "cp" ("cannot create regular file ".toList ++ inQuotes target ++ ": ".toList ++
      fault.wording)
  let reading (next : Job → Job) : Job :=
    let job := announced given source target job
    if job.disk.tree.allows .read location then next job
    else
      job.complain "cp" ("cannot open ".toList ++ inQuotes source ++ " for reading: ".toList ++
        PathFault.denied.wording)
  match locate job.disk true target with
  | .error .notDirectory =>
    fail ("cannot stat ".toList ++ inQuotes target ++ ": Not a directory".toList)
  | .error .denied =>
    fail ("cannot stat ".toList ++ inQuotes target ++ ": ".toList ++ PathFault.denied.wording)
  | .error fault =>
    let fault := if isVacantDirectory job.disk target then .notDirectory else fault
    reading (refuse fault)
  | .ok (.taken goal (.file _ old)) =>
    if given.has 'n' then job
    else if location == goal then
      fail (inQuotes source ++ " and ".toList ++ inQuotes target ++ " are the same file".toList)
    else
      reading fun job =>
        if job.disk.tree.allows .write goal then
          let mode := if keepsModes given then mode else old
          { job with disk := put job.disk goal (.file content mode) }
        else if given.has 'f' && job.disk.tree.isAlterable goal.dropLast then
          { job with disk := put job.disk goal (.file content (copyMode given job mode)) }
        else refuse .denied job
  | .ok (.taken _ _) =>
    if given.has 'n' then job
    else
      fail ("cannot overwrite directory ".toList ++ inQuotes target ++
        " with non-directory ".toList ++ inQuotes source)
  | .ok (.vacant goal) =>
    reading fun job =>
      match job.disk.place goal (.file content (copyMode given job mode)) with
      | .ok disk => { job with disk }
      | .error fault => refuse fault job

/-- Copies an entry with what lies below it, down to a depth. A new directory can be altered until
everything is in it. -/
def copyTree (given : Given) : Nat → Chars → Chars → Location → Node → Job → Job
  | _, source, target, _, .link text, job => copyLink given source target text job
  | _, source, target, location, .file content mode, job =>
    copyContent given source target location content mode job
  | depth, source, target, location, .directory mode, job =>
    let fail (message : Chars) : Job := job.complain "cp" message
    let filled (goal : Location) (final : Option Nat) (job : Job) : Job :=
      let job :=
        if !job.disk.tree.allows .read location then
          job.complain "cp" ("cannot access ".toList ++ inQuotes source ++ ": ".toList ++
            PathFault.denied.wording)
        else
          match depth with
          | 0 => job
          | depth + 1 =>
            (namesIn job.disk location).foldl
              (fun job name =>
                let place := location ++ [textOf name]
                match job.disk.tree.get? place, job.disk.tree.allows .pass location with
                | some node, true =>
                  copyTree given depth (joined source name) (joined target name) place node job
                | some _, false =>
                  job.complain "cp" ("cannot stat ".toList ++ inQuotes (joined source name) ++
                    ": ".toList ++ PathFault.denied.wording)
                | none, _ => job)
              job
      match final with
      | none => job
      | some mode => { job with disk := put job.disk goal (.directory mode) }
    match locate job.disk true target with
    | .error .denied =>
      fail ("cannot stat ".toList ++ inQuotes target ++ ": ".toList ++ PathFault.denied.wording)
    | .error fault =>
      fail ("cannot create directory ".toList ++ inQuotes target ++ ": ".toList ++ fault.wording)
    | .ok (.taken _ (.file _ _)) | .ok (.taken _ (.link _)) =>
      fail ("cannot overwrite non-directory ".toList ++ inQuotes target ++
        " with directory ".toList ++ inQuotes source)
    | .ok (.taken goal (.directory _)) =>
      filled goal (if keepsModes given then some mode else none) job
    | .ok (.vacant goal) =>
      match job.disk.place goal (.directory (mode ||| 0o700)) with
      | .error fault =>
        fail ("cannot create directory ".toList ++ inQuotes target ++ ": ".toList ++ fault.wording)
      | .ok disk =>
        filled goal (some (copyMode given job mode))
          (announced given source target { job with disk })

/-- Copies one entry. -/
def copyOne (given : Given) (source target : Chars) (job : Job) : Job :=
  let recursive := given.has 'r' || given.has 'R' || given.has 'a'
  let keepsLinks := recursive || given.has 'P' || given.has 'd'
  let fail (message : Chars) : Job := job.complain "cp" message
  let depth := job.disk.tree.entries.length + 1
  let known :=
    if source == "/dev/null".toList then .ok (["dev", "null"], .file ByteArray.empty 0o644)
    else node job.disk (!keepsLinks) source
  match known with
  | .error fault => fail ("cannot stat ".toList ++ inQuotes source ++ ": ".toList ++ fault.wording)
  | .ok (location, .directory mode) =>
    if !recursive then fail ("-r not specified; omitting directory ".toList ++ inQuotes source)
    else
      let goal? :=
        match locate job.disk true target with
        | .ok (.taken goal (.directory _)) | .ok (.vacant goal) => some goal
        | _ => none
      if goal? == some location then
        fail (inQuotes source ++ " and ".toList ++ inQuotes target ++ " are the same file".toList)
      else
        match goal?.filter location.isPrefixOf with
        | some goal =>
          let disk := put (copiedTree job.disk location goal) goal (.directory mode)
          ({ job with disk }).complain "cp"
            ("cannot copy a directory, ".toList ++ inQuotes source ++ ", into itself, ".toList ++
              inQuotes target)
        | none => copyTree given depth source target location (.directory mode) job
  | .ok (location, node) => copyTree given depth source target location node job

/-- Copies entries. -/
def cp : Program := withOptions "cp"
    { letters := "adfHilnpPrRst:Tuv"
      names := [("recursive", 'r'), ("archive", 'a'), ("force", 'f'), ("verbose", 'v'),
        ("no-clobber", 'n'), ("target-directory", 't'), ("preserve", 'p')] }
  fun given job => putting "cp" given job (copyOne given)

/-- Moves one entry. -/
def moveOne (given : Given) (source target : Chars) (job : Job) : Job :=
  let fail (message : Chars) : Job := job.complain "mv" message
  let between := inQuotes source ++ " to ".toList ++ inQuotes target
  match node job.disk false source with
  | .error fault => fail ("cannot stat ".toList ++ inQuotes source ++ ": ".toList ++ fault.wording)
  | .ok (location, entry) =>
    let isTree := match entry with | .directory _ => true | _ => false
    let finish (goal : Location) : Job :=
      let tree := job.disk.tree
      if !tree.isAlterable location.dropLast || !tree.isAlterable goal.dropLast ||
          isTree && location.dropLast != goal.dropLast && !tree.allows .write location then
        fail ("cannot move ".toList ++ between ++ ": ".toList ++ PathFault.denied.wording)
      else
        let job := { job with disk := moved job.disk location goal }
        if given.has 'v' then
          job.printLine ("renamed ".toList ++ inQuotes source ++ " -> ".toList ++ inQuotes target)
        else job
    match locate job.disk false (if isTree then cutSlashes target else target) with
    | .error fault =>
      let fault := if isVacantDirectory job.disk target then .notDirectory else fault
      if fault == .denied || fault == .notDirectory && !isVacantDirectory job.disk target then
        fail ("cannot stat ".toList ++ inQuotes target ++ ": ".toList ++ fault.wording)
      else fail ("cannot move ".toList ++ between ++ ": ".toList ++ fault.wording)
    | .ok (.vacant goal) =>
      if isTree && location.isPrefixOf goal then
        fail ("cannot move ".toList ++ inQuotes source ++ " to a subdirectory of itself, ".toList ++
          inQuotes target)
      else finish goal
    | .ok (.taken goal old) =>
      if given.has 'n' then fail ("not replacing ".toList ++ inQuotes target)
      else if goal == location then
        fail (inQuotes source ++ " and ".toList ++ inQuotes target ++
          " are the same file".toList)
      else
        match isTree, old with
        | true, .directory _ =>
          if location.isPrefixOf goal then
            fail ("cannot move ".toList ++ inQuotes source ++
              " to a subdirectory of itself, ".toList ++ inQuotes target)
          else if (job.disk.tree.names goal).isEmpty then finish goal
          else
            fail ("cannot overwrite ".toList ++ inQuotes target ++ ": Directory not empty".toList)
        | true, _ =>
          fail ("cannot overwrite non-directory ".toList ++ inQuotes target ++
            " with directory ".toList ++ inQuotes source)
        | false, .directory _ =>
          fail ("cannot overwrite directory ".toList ++ inQuotes target ++
            " with non-directory ".toList ++ inQuotes source)
        | false, _ => finish goal

/-- Moves entries. -/
def mv : Program := withOptions "mv"
    { letters := "fint:Tuv"
      names := [("force", 'f'), ("no-clobber", 'n'), ("target-directory", 't'), ("verbose", 'v')] }
  fun given job => putting "mv" given job (moveOne given)

/-- Makes one link. -/
def linkOne (given : Given) (source target : Chars) (job : Job) : Job :=
  let isSymbolic := given.has 's'
  let kind := if isSymbolic then "symbolic link " else "hard link "
  let fail (fault : PathFault) : Job :=
    job.complain "ln"
      ("failed to create ".toList ++ kind.toList ++ inQuotes target ++
        (if isSymbolic || fault == .occupied then []
         else " => ".toList ++ inQuotes source) ++ ": ".toList ++ fault.wording)
  let place (entry : Node) : Job :=
    let finish (goal : Location) : Job :=
      match job.disk.place goal entry with
      | .error fault => fail fault
      | .ok disk =>
        let job := { job with disk }
        if given.has 'v' then
          job.printLine (inQuotes target ++ (if isSymbolic then " -> " else " => ").toList ++
            inQuotes source)
        else job
    match locate job.disk false target with
    | .error fault => fail fault
    | .ok (.vacant goal) => finish goal
    | .ok (.taken goal old) =>
      match given.has 'f', old with
      | true, .file _ _ | true, .link _ => finish goal
      | _, _ => fail .occupied
  if isSymbolic then
    if source.isEmpty then fail .missing else place (.link (textOf source))
  else
    match node job.disk false source with
    | .error fault =>
      job.complain "ln" ("failed to access ".toList ++ inQuotes source ++ ": ".toList ++
        fault.wording)
    | .ok (_, .directory _) =>
      job.complain "ln" (shown source ++ ": hard link not allowed for directory".toList)
    | .ok (_, entry) => place entry

/-- Makes links. -/
def ln : Program := withOptions "ln"
    { letters := "bfinst:TvrPL"
      names := [("symbolic", 's'), ("force", 'f'), ("no-dereference", 'n'),
        ("no-target-directory", 'T'), ("verbose", 'v')] }
  fun given job =>
    match given.words with
    | [only] => linkOne given only (joined ['.'] (baseName only)) job
    | [source, target] =>
      let isLink :=
        match node job.disk false target with
        | .ok (_, .link _) => given.has 'n'
        | _ => false
      linkOne given source
        (if given.has 'T' || isLink then target else destination job.disk false source target) job
    | _ => putting "ln" given job (linkOne given)

/-- The absolute path without links, if all but its last part lead to a directory. -/
def canonical (disk : Disk) (lenient : Bool) (path : Chars) : Except PathFault Chars :=
  let text (location : Location) := bytesOf ("/" ++ "/".intercalate location)
  match locate disk true path with
  | .ok (.taken location _) => .ok (text location)
  | .ok (.vacant location) => .ok (text location)
  | .error fault =>
    if lenient then (disk.resolve (Path.ofString (textOf path))).map fun path => text path.parts
    else .error fault

/-- Prints where links lead. -/
def readlink : Program := withOptions "readlink"
    { letters := "fnemqsvz", names := [("canonicalize", 'f'), ("no-newline", 'n')] }
  fun given job =>
    if given.words.isEmpty then job.misused "readlink" "missing operand".toList 1
    else
      let ending := if given.has 'n' && given.words.length = 1 then [] else ['\n']
      forEach
        (fun word job =>
          if given.has 'f' || given.has 'e' || given.has 'm' then
            let found := (node job.disk true word).toOption.isSome
            match canonical job.disk (given.has 'm') word with
            | .ok path =>
              if given.has 'e' && !found then { job with status := 1 }
              else job.print (path ++ ending)
            | .error _ => { job with status := 1 }
          else
            match node job.disk false word with
            | .ok (_, .link target) => job.print (bytesOf target ++ ending)
            | _ => { job with status := 1 })
        given.words job

/-- Prints absolute paths without links. -/
def realpath : Program := withOptions "realpath"
    { letters := "emqsLPz"
      names := [("canonicalize-existing", 'e'), ("canonicalize-missing", 'm')] }
  fun given job =>
    if given.words.isEmpty then job.misused "realpath" "missing operand".toList 1
    else
      forEach
        (fun word job =>
          let found := node job.disk true word
          match canonical job.disk (given.has 'm') word, found with
          | .ok path, .ok _ => job.printLine path
          | .ok path, .error fault =>
            if given.has 'e' then
              if given.has 'q' then { job with status := 1 }
              else job.complain "realpath" (shown word ++ ": ".toList ++ fault.wording)
            else job.printLine path
          | .error fault, _ =>
            if given.has 'q' then { job with status := 1 }
            else job.complain "realpath" (shown word ++ ": ".toList ++ fault.wording))
        given.words job

end Scaffold.Shell.Program
