import Scaffold.Shell.Program.Files

/-!
# Making and removing entries

Programs that make files and directories, change their modes and remove them.
-/

namespace Scaffold.Shell.Program

/-- Makes files that are not there. -/
def touch : Program := withOptions "touch"
    { letters := "acd:fhmr:t:", names := [("no-create", 'c'), ("date", 'd'), ("reference", 'r')] }
  fun given job =>
    if given.words.isEmpty then job.misused "touch" "missing file operand".toList 1
    else
      let refuse (word : Chars) (fault : PathFault) (job : Job) : Job :=
        let what :=
          if given.has 'c' || word.getLast? == some '/' && fault == .missing then
            "setting times of "
          else "cannot touch "
        job.complain "touch" (what.toList ++ inQuotes word ++ ": ".toList ++ fault.wording)
      forEach
        (fun word job =>
          match locate job.disk true word with
          | .ok (.taken _ _) => job
          | .ok (.vacant location) =>
            if given.has 'c' then job
            else
              match job.disk.place location (.file ByteArray.empty (newMode job)) with
              | .ok disk => { job with disk }
              | .error fault => refuse word fault job
          | .error fault =>
            if given.has 'c' && fault == .missing then job else refuse word fault job)
        given.words job

/-- Makes one directory. -/
def makeDirectory (disk : Disk) (mode : Nat) (path : Chars) : Except PathFault Disk :=
  match locate disk false (cutSlashes path) with
  | .ok (.vacant location) => disk.place location (.directory mode)
  | .ok (.taken _ _) => .error .occupied
  | .error fault => .error fault

/-- The paths that lead to a path, itself included. -/
def leading (path : Chars) : List Chars :=
  let parts := Text.splitOn "/" path
  ((List.range parts.length).map fun count => ['/'].intercalate (parts.take (count + 1))).filter
    fun path => !path.isEmpty && path.getLast? != some '/'

/-- The path leads to a directory that may not be passed through. -/
def isShut (disk : Disk) (path : Chars) : Bool :=
  match node disk true path with
  | .ok (location, .directory _) => !disk.tree.allows .pass location
  | _ => false

/-- Makes directories. Those that lead to others can always be altered. -/
def mkdir : Program := withOptions "mkdir"
    { letters := "pm:v", names := [("parents", 'p'), ("mode", 'm'), ("verbose", 'v')] }
  fun given job =>
    if given.words.isEmpty then job.misused "mkdir" "missing operand".toList 1
    else
      let plainMode := 0o777 - job.mask % 512
      match mode? job.mask true 0o777 ((given.value? 'm').getD "777".toList) with
      | none =>
        job.misused "mkdir" ("invalid mode ".toList ++ inCurls ((given.value? 'm').getD [])) 1
      | some asked =>
        let mode := if given.has 'm' then asked else plainMode
        let complaint (path : Chars) (fault : PathFault) (job : Job) : Job :=
          job.complain "mkdir"
            ("cannot create directory ".toList ++ inCurls path ++ ": ".toList ++ fault.wording)
        let made (path : Chars) (disk : Disk) (job : Job) : Job :=
          let job := { job with disk }
          if given.has 'v' then
            job.printLine ("mkdir: created directory ".toList ++ inQuotes path)
          else job
        forEach
          (fun word job =>
            if given.has 'p' && !word.isEmpty then
              let step (task : Job × Bool) (path : Chars) : Job × Bool :=
                let (job, failed) := task
                let isLast := path.length == (cutSlashes word).length
                if failed then task
                else if isDirectory job.disk path then
                  if !isLast && isShut job.disk path then (complaint path .denied job, true)
                  else task
                else
                  match makeDirectory job.disk (if isLast then mode else plainMode ||| 0o300)
                    path with
                  | .ok disk => (made path disk job, false)
                  | .error .occupied =>
                    (complaint path (if isLast then .occupied else .notDirectory) job, true)
                  | .error fault => (complaint path fault job, true)
              ((leading word).foldl step (job, false)).1
            else
              match makeDirectory job.disk mode word with
              | .ok disk => made word disk job
              | .error fault => complaint word fault job)
          given.words job

/-- Removes one empty directory, or says why not. -/
def removeDirectory (disk : Disk) (path : Chars) : Except Chars Disk :=
  match node disk false path with
  | .ok (location, .directory _) =>
    let name := baseName path
    if name == ['.'] then .error "Invalid argument".toList
    else if name == ['.', '.'] then .error "Directory not empty".toList
    else if !disk.tree.isAlterable location.dropLast then .error PathFault.denied.wording
    else if !(disk.tree.names location).isEmpty then .error "Directory not empty".toList
    else .ok (drop disk location)
  | .ok _ => .error PathFault.notDirectory.wording
  | .error fault => .error fault.wording

/-- Removes empty directories. -/
def rmdir : Program := withOptions "rmdir"
    { letters := "pvI"
      names := [("parents", 'p'), ("verbose", 'v'), ("ignore-fail-on-non-empty", 'I')] }
  fun given job =>
    if given.words.isEmpty then job.misused "rmdir" "missing operand".toList 1
    else
      let step (task : Job × Bool) (path : Chars) : Job × Bool :=
        let (job, failed) := task
        if failed then task
        else
          let job :=
            if given.has 'v' then
              job.printLine ("rmdir: removing directory, ".toList ++ inQuotes path)
            else job
          match removeDirectory job.disk path with
          | .ok disk => ({ job with disk }, false)
          | .error message =>
            if given.has 'I' && message == "Directory not empty".toList then (job, true)
            else
              (job.complain "rmdir"
                ("failed to remove ".toList ++ inQuotes path ++ ": ".toList ++ message), true)
      forEach
        (fun word job =>
          let paths := if given.has 'p' then (leading word).reverse else [word]
          (paths.foldl step (job, false)).1)
        given.words job

/-- Removes the entry at a location itself. -/
def removeEntry (verbose : Bool) (path : Chars) (location : Location) (job : Job) : Job × Bool :=
  if job.disk.tree.isAlterable location.dropLast then
    let what := match job.disk.tree.get? location with
      | some (.directory _) => "removed directory ".toList
      | _ => "removed ".toList
    let removed := { job with disk := drop job.disk location }
    (if verbose then removed.printLine (what ++ inQuotes path) else removed, true)
  else
    (job.complain "rm" ("cannot remove ".toList ++ inQuotes path ++ ": ".toList ++
      PathFault.denied.wording), false)

/-- Removes an entry with everything below it, as far as that is allowed; a directory stays if
anything in it does. The number bounds the depth. -/
def removeTree (verbose : Bool) : Nat → Chars → Location → Job → Job × Bool
  | 0, _, _, job => (job, false)
  | depth + 1, path, location, job =>
    let refused (path : Chars) (job : Job) : Job × Bool :=
      (job.complain "rm" ("cannot remove ".toList ++ inQuotes path ++ ": ".toList ++
        PathFault.denied.wording), false)
    match job.disk.tree.get? location with
    | some (.directory _) =>
      let names := namesIn job.disk location
      if names.isEmpty then removeEntry verbose path location job
      else if !job.disk.tree.allows .read location then refused path job
      else
        let isOpen := job.disk.tree.allows .pass location
        let (job, done) := names.foldl
          (fun (job, done) name =>
            let below := joined path name
            let (job, removed) :=
              if isOpen then removeTree verbose depth below (location ++ [textOf name]) job
              else refused below job
            (job, done && removed))
          (job, true)
        if done then removeEntry verbose path location job else (job, false)
    | _ => removeEntry verbose path location job

/-- Removes files, and directories if that is asked for. -/
def rm : Program := withOptions "rm"
    { letters := "rRfdvIi"
      names := [("recursive", 'r'), ("force", 'f'), ("dir", 'd'), ("verbose", 'v')] }
  fun given job =>
    let recursive := given.has 'r' || given.has 'R'
    if given.words.isEmpty then
      if given.has 'f' then job else job.misused "rm" "missing operand".toList 1
    else
      forEach
        (fun word job =>
          let refuse (message : Chars) : Job :=
            job.complain "rm" ("cannot remove ".toList ++ inQuotes word ++ ": ".toList ++ message)
          let remove (location : Location) : Job :=
            (removeTree (given.has 'v') (job.disk.tree.entries.length + 1) word location job).1
          match node job.disk false word with
          | .error fault =>
            if given.has 'f' && (fault == .missing || fault == .notDirectory) then job
            else refuse fault.wording
          | .ok (location, .directory _) =>
            let name := baseName word
            if !recursive && !given.has 'd' then refuse PathFault.directory.wording
            else if name == ['.'] || name == ['.', '.'] then
              job.complain "rm"
                ("refusing to remove '.' or '..' directory: skipping ".toList ++ inQuotes word)
            else if !recursive && !(job.disk.tree.names location).isEmpty then
              refuse "Directory not empty".toList
            else remove location
          | .ok (location, _) => remove location)
        given.words job

/-- The word is a mode that starts with a sign, and no option. -/
def isModeWord (word : Chars) : Bool :=
  match word with
  | '-' :: c :: _ => "rwxX".toList.contains c
  | _ => false

/-- Changes the mode of one entry. -/
def changeMode (mode : Chars) (location : Location) (job : Job) : Job :=
  match job.disk.tree.get? location with
  | some (.file content old) =>
    let changed := (mode? job.mask false old mode).getD old
    { job with disk := put job.disk location (.file content changed) }
  | some (.directory old) =>
    let changed := (mode? job.mask true old mode).getD old
    if location.isEmpty then job
    else { job with disk := put job.disk location (.directory changed) }
  | _ => job

/-- Changes the mode of an entry, and of what lies below it down to a depth, as far as that can be
reached then. -/
def changeModes (mode : Chars) : Nat → Chars → Location → Job → Job
  | 0, _, location, job => changeMode mode location job
  | depth + 1, path, location, job =>
    let job := changeMode mode location job
    match job.disk.tree.get? location with
    | some (.directory _) =>
      if !job.disk.tree.allows .read location then
        job.complain "chmod" ("cannot read directory ".toList ++ inQuotes path ++ ": ".toList ++
          PathFault.denied.wording)
      else
        let isOpen := job.disk.tree.allows .pass location
        (namesIn job.disk location).foldl
          (fun job name =>
            let below := joined path name
            if isOpen then changeModes mode depth below (location ++ [textOf name]) job
            else
              job.complain "chmod" ("cannot access ".toList ++ inQuotes below ++ ": ".toList ++
                PathFault.denied.wording))
          job
    | _ => job

/-- Changes the modes of entries. -/
def chmod : Program := fun words job =>
  let signed := words.find? isModeWord
  let rest := words.filter fun word => some word != signed
  withOptions "chmod"
    { letters := "Rcfv", names := [("recursive", 'R'), ("verbose", 'v'), ("silent", 'f')] }
    (fun given job =>
      let (mode, paths) :=
        match signed with
        | some mode => (some mode, given.words)
        | none => (given.words.head?, given.words.tail)
      match mode, paths with
      | none, _ => job.misused "chmod" "missing operand".toList 1
      | some mode, [] => job.misused "chmod" ("missing operand after ".toList ++ inCurls mode) 1
      | some mode, paths =>
        if (mode? job.mask false 0o644 mode).isNone then
          job.misused "chmod" ("invalid mode: ".toList ++ inCurls mode) 1
        else
          forEach
            (fun word job =>
              match node job.disk true word with
              | .error fault =>
                let fault := fault.wording
                job.complain "chmod"
                  ("cannot access ".toList ++ inQuotes word ++ ": ".toList ++ fault)
              | .ok (location, _) =>
                let depth := if given.has 'R' then job.disk.tree.entries.length + 1 else 0
                changeModes mode depth word location job)
            paths job)
    1 rest job

/-- Copies the input to files and prints it. -/
def tee : Program := withOptions "tee" { letters := "aip", names := [("append", 'a')] }
  fun given job =>
    let job := forEach
      (fun word job =>
        if word == "/dev/null".toList then job
        else
          match write job word job.input (given.has 'a') with
          | .ok job => job
          | .error fault => job.complain "tee" (shown word ++ ": ".toList ++ fault.wording))
      given.words job
    { job.print job.input with input := [] }

end Scaffold.Shell.Program
