import Scaffold.Shell.Condition
import Scaffold.Shell.Printing
import Scaffold.Shell.Reader
import Scaffold.Shell.State

/-!
# Commands of the shell itself

These commands change the shell that runs them. Some of them are special: their failures end the
shell.
-/

namespace Scaffold.Shell

/-- A command of the shell itself: its words, without its name, and the state. -/
abbrev Builtin := List Chars → State → State

namespace Builtin

/-- A failure of a command. -/
def failure (message : String) (state : State) : State :=
  (state.complain message.toList).withStatus 2

/-- A failure of a command, with a text behind it. -/
def failureAt (message : String) (text : Chars) (state : State) : State :=
  (state.complain (message.toList ++ text)).withStatus 2

/-- The number that a word of digits writes. -/
def natural? (word : Chars) : Option Nat :=
  if !word.isEmpty && word.all Char.isDigit then
    let value := (Expression.digits 10 word).1
    if value ≤ 2147483647 then some value else none
  else none

/-- Words without the options before them, and their letters; an option that is not known is a
failure. -/
def options (known : String) : List Chars → Except Char (Chars × List Chars)
  | ['-', '-'] :: rest => .ok ([], rest)
  | ('-' :: c :: letters) :: rest =>
    match (c :: letters).find? fun c => !known.toList.contains c with
    | some c => .error c
    | none => (options known rest).map fun (more, rest) => (c :: letters ++ more, rest)
  | words => .ok ([], words)

/-- Runs a command on the words behind its options. -/
def withOptions (known : String) (run : Chars → Builtin) : Builtin := fun words state =>
  match options known words with
  | .error c => failureAt "Illegal option -" [c] state
  | .ok (letters, words) => run letters words state

/-- Ends the shell. -/
def exit : Builtin := fun words state =>
  match words with
  | [] => { state with flow := .leaving }
  | word :: _ =>
    match natural? word with
    | some status => { state with status, flow := .leaving }
    | none => failureAt "Illegal number: " word state

/-- Ends a function. -/
def ret : Builtin := fun words state =>
  let flow := if state.calls = 0 then .leaving else .returning
  match words with
  | [] => { state with flow }
  | word :: _ =>
    match natural? word with
    | some status => { state with status, flow }
    | none => failureAt "Illegal number: " word state

/-- Ends loops, or goes on with them. -/
def leaveLoops (flow : Nat → Flow) : Builtin := fun words state =>
  let levels := words.head?.elim (some 1) fun word => (natural? word).filter (0 < ·)
  match levels with
  | none => failureAt "Illegal number: " (words.headD []) state
  | some levels =>
    let levels := min levels state.loops
    if levels = 0 then state.withStatus 0 else { state with status := 0, flow := flow levels }

/-- Drops arguments. -/
def shift : Builtin := fun words state =>
  let count := words.head?.elim (some 1) natural?
  match count with
  | none => failureAt "Illegal number: " (words.headD []) state
  | some count =>
    if state.arguments.length < count then failure "can't shift that many" state
    else { state with arguments := state.arguments.drop count, status := 0 }

/-- The long names of options. -/
def optionNames : List (String × Char) :=
  [("errexit", 'e'), ("noglob", 'f'), ("ignoreeof", 'I'), ("interactive", 'i'), ("monitor", 'm'),
   ("noexec", 'n'), ("stdin", 's'), ("xtrace", 'x'), ("verbose", 'v'), ("vi", 'V'),
   ("emacs", 'E'), ("noclobber", 'C'), ("allexport", 'a'), ("notify", 'b'), ("nounset", 'u')]

/-- The letters in the order in which they are shown. -/
def optionOrder : Chars := "efIimnsxvVECabu".toList

/-- Sets or clears an option. -/
def setOption (state : State) (letter : Char) (on : Bool) : State :=
  { state with
    options := optionOrder.filter fun c => if c == letter then on else state.options.contains c }

/-- Sets options by letters. -/
def setLetters (on : Bool) : Chars → State → Except Chars State
  | [], state => .ok state
  | c :: rest, state =>
    if optionOrder.contains c then setLetters on rest (setOption state c on)
    else .error ("Illegal option ".toList ++ [if on then '-' else '+', c])

/-- Shows which options are set, in words or as commands that set them. -/
def showOptions (inWords : Bool) (state : State) : State :=
  let names := optionNames ++ [("privileged", 'p'), ("nolog", 'N'), ("debug", 'D')]
  let lines := names.map fun (name, letter) =>
    let on := state.has letter
    if inWords then
      name.toList ++ List.replicate (16 - name.length) ' ' ++
        (if on then "on\n" else "off\n").toList
    else (if on then "set -o " else "set +o ").toList ++ name.toList ++ ['\n']
  let title := if inWords then "Current option settings\n".toList else []
  state.write 1 (title ++ lines.flatten)

/-- Sets options and arguments. -/
def setWords : List Chars → State → Except Chars State
  | [], state => .ok state
  | word :: rest, state =>
    match word with
    | ['-', '-'] => .ok { state with arguments := rest }
    | ['-'] =>
      let state := setOption (setOption state 'v' false) 'x' false
      .ok (if rest.isEmpty then state else { state with arguments := rest })
    | sign :: letters =>
      if (sign == '-' || sign == '+') && !letters.isEmpty then
        let on := sign == '-'
        if letters == ['o'] then
          match rest with
          | [] => .ok (showOptions on state)
          | name :: rest =>
            match optionNames.lookup (String.ofList name) with
            | some letter => setWords rest (setOption state letter on)
            | none => .error ("Illegal option ".toList ++ [sign, 'o', ' '] ++ name)
        else (setLetters on letters state).bind (setWords rest)
      else .ok { state with arguments := word :: rest }
    | [] => .ok { state with arguments := word :: rest }

/-- A value between quotes, as variables are shown. -/
def quotedValue (value : Chars) : Chars :=
  let pieces := Text.splitOn "'" value
  "'\"'\"'".toList.intercalate (pieces.map fun piece => '\x27' :: piece ++ ['\x27'])

/-- Shows variables. -/
def showVariables (start : String) (bindings : Variables) : Chars :=
  let sorted := bindings.mergeSort fun a b => a.1 ≤ b.1
  sorted.flatMap fun (name, entry) =>
    start.toList ++ name.toList ++ (entry.value.elim [] fun value => '=' :: quotedValue value) ++
      ['\n']

/-- Sets options and arguments, or shows all variables. -/
def set : Builtin := fun words state =>
  if words.isEmpty then
    (state.write 1 (showVariables "" (state.bindings.filter fun (_, entry) =>
      entry.value.isSome))).withStatus 0
  else
    match setWords words state with
    | .ok state => state.withStatus 0
    | .error message => (state.complain message).withStatus 2

/-- Sets a variable unless that is protected, and changes it. -/
def declare (change : Variable → Variable) (word : Chars) (state : State) :
    Except Chars State :=
  let name := word.takeWhile (· != '=')
  let value := (word.drop name.length).tail?
  if !isName name then .error (name ++ ": bad variable name".toList)
  else
    let key := String.ofList name
    if value.isSome && state.bindings.isReadOnly key then .error (name ++ ": is read only".toList)
    else
      .ok { state with
        bindings := state.bindings.update key fun entry =>
          change { entry with value := value.orElse fun _ => entry.value } }

/-- Declares variables one after the other. -/
def declareAll (change : Variable → Variable) (words : List Chars) (state : State) : State :=
  match words.foldlM (fun state word => declare change word state) state with
  | .ok state => state.withStatus 0
  | .error message => (state.complain message).withStatus 2

/-- Makes variables known to programs, or shows those that are. -/
def exportNames : Builtin := withOptions "p" fun _ words state =>
  if words.isEmpty then
    (state.write 1 (showVariables "export " (state.bindings.filter fun (_, entry) =>
      entry.exported))).withStatus 0
  else declareAll (fun entry => { entry with exported := true }) words state

/-- Protects variables, or shows those that are. -/
def readonly : Builtin := withOptions "p" fun _ words state =>
  if words.isEmpty then
    (state.write 1 (showVariables "readonly " (state.bindings.filter fun (_, entry) =>
      entry.readOnly))).withStatus 0
  else declareAll (fun entry => { entry with readOnly := true }) words state

/-- Forgets variables or functions. -/
def unset : Builtin := withOptions "vf" fun letters words state =>
  let forget (state : State) (word : Chars) : Except Chars State :=
    let name := String.ofList word
    if letters.contains 'f' then
      .ok { state with functions := state.functions.filter fun (known, _) => known != name }
    else if !isName word then .error (word ++ ": bad variable name".toList)
    else if state.bindings.isReadOnly name then .error (word ++ ": is read only".toList)
    else .ok { state with bindings := state.bindings.erase name }
  match words.foldlM forget state with
  | .ok state => state.withStatus 0
  | .error message => (state.complain message).withStatus 2

/-- Gives variables back their values after a function. -/
def localize : Builtin := fun words state =>
  if state.calls = 0 then failure "not in a function" state
  else
    let keep (state : State) (word : Chars) : Except Chars State :=
      let name := String.ofList (word.takeWhile (· != '='))
      let known := state.bindings.lookup name
      let state := { state with saved := (name, known) :: state.saved }
      declare id word state
    match words.foldlM keep state with
    | .ok state => state.withStatus 0
    | .error message => (state.complain message).withStatus 2

/-- Prints words. -/
def echo : Builtin := fun words state =>
  (state.write 1 (Printing.echo words)).withStatus 0

/-- Prints words by a format. -/
def printf : Builtin := withOptions "" fun _ words state =>
  match words with
  | [] => failure "usage: printf format [arg ...]" state
  | format :: words =>
    let printed := Printing.format (words.length + 1) format { words }
    let state := printed.complaints.foldl State.complain state
    let state := printed.fault.elim state state.complain
    let status := if printed.fault.isSome then 2 else if printed.complaints.isEmpty then 0 else 1
    (state.write 1 printed.out).withStatus status

/-- Tells by the status whether a condition holds. -/
def test : Builtin := fun words state =>
  match Condition.eval state.disk words with
  | .ok value => state.withStatus (if value then 0 else 1)
  | .error message => (state.complain message).withStatus 2

/-- The same, between brackets. -/
def bracket : Builtin := fun words state =>
  if words.getLast? == some [']'] then test words.dropLast state
  else failure "missing ]" state

/-- Shows the working directory. -/
def pwd : Builtin := withOptions "LP" fun letters _ state =>
  let shown :=
    if letters.getLast? == some 'P' then bytesOf ("/" ++ "/".intercalate state.cwd)
    else state.pwdText
  (state.write 1 (shown ++ ['\n'])).withStatus 0

/-- Goes to a directory. -/
def changeDirectory : Builtin := withOptions "LP" fun letters words state =>
  let home := (state.bindings.get? "HOME").getD []
  let goesBack := words.head? == some ['-']
  let target :=
    if goesBack then (state.bindings.get? "OLDPWD").getD [] else words.headD home
  let text := textOf target
  let names := Path.partsOf text.toList
  let start := if (Path.ofString text).isAbsolute then [] else state.pwd
  let pwd := Tree.lexical (start ++ names)
  let physical := letters.getLast? == some 'P'
  let place :=
    if target.isEmpty then .ok (.taken state.cwd .plainDirectory)
    else if physical then locate state.disk true target
    else state.tree.follow true Tree.linkLimit [] pwd
  match place with
  | .ok (.taken cwd (.directory _)) =>
    if !state.tree.allows .pass cwd then failureAt "can't cd to " target state
    else
      let pwd := if target.isEmpty then state.pwd else if physical then cwd else pwd
      let bindings := state.bindings.publish "OLDPWD" state.pwdText
      let state := { state with cwd, pwd }
      let state := { state with bindings := bindings.publish "PWD" state.pwdText }
      (if goesBack then state.write 1 (state.pwdText ++ ['\n']) else state).withStatus 0
  | _ => failureAt "can't cd to " target state

/-- A line that is read, with characters that a backslash masks, and what follows it; whether the
line was ended. -/
def takeLine (isRaw : Bool) : Chars → Marked × Chars × Bool
  | [] => ([], [], false)
  | '\n' :: rest => ([], rest, true)
  | '\\' :: c :: rest =>
    if isRaw then
      if c == '\n' then ([('\\', false)], rest, true)
      else
        let (line, after, ended) := takeLine isRaw (c :: rest)
        (('\\', false) :: line, after, ended)
    else
      let (line, after, ended) := takeLine isRaw rest
      (if c == '\n' then line else (c, true) :: line, after, ended)
  | ['\\'] => (if isRaw then [('\\', false)] else [], [], false)
  | c :: rest =>
    let (line, after, ended) := takeLine isRaw rest
    ((c, false) :: line, after, ended)

/-- The characters that divide fields at the start of a text are dropped if they are blank. -/
def dropBlanks (separators : Chars) (text : Marked) : Marked :=
  text.dropWhile fun (c, quoted) => !quoted && separators.contains c && Expression.isBlank c

/-- A field at the start of a text, and what follows it and the sign behind it. -/
def takeField (separators : Chars) (text : Marked) : Chars × Marked :=
  let isSeparator (c : Char × Bool) := !c.2 && separators.contains c.1
  let field := text.takeWhile fun c => !isSeparator c
  let rest := dropBlanks separators (text.drop field.length)
  let rest :=
    match rest with
    | c :: after =>
      if isSeparator c && (text.drop field.length).length != 0 then dropBlanks separators after
      else rest
    | [] => []
  (Pattern.plain field, rest)

/-- The text without blank characters that divide fields at its end. -/
def cutBlanks (separators : Chars) (text : Marked) : Marked :=
  (dropBlanks separators text.reverse).reverse

/-- What the last of some names is given: the rest, without a sign at its end if it is the only
one. -/
def lastField (separators : Chars) (text : Marked) : Chars :=
  let cut := cutBlanks separators text
  let (field, rest) := takeField separators cut
  if rest.isEmpty then field else Pattern.plain cut

/-- The values of names, the last of which is given what is left. -/
def splitLine (separators : Chars) (text : Marked) : List Chars → List (Chars × Chars)
  | [] => []
  | [name] => [(name, lastField separators text)]
  | name :: names =>
    let (field, rest) := takeField separators text
    (name, field) :: splitLine separators rest names

/-- Reads a line into variables. -/
def read : Builtin := withOptions "rp" fun letters words state =>
  let words := if letters.contains 'p' then words.drop 1 else words
  match words with
  | [] => failure "arg count" state
  | names =>
    match names.find? fun name => !isName name with
    | some name => (state.complain (name ++ ": bad variable name".toList)).withStatus 2
    | none =>
      let (line, rest, ended) := takeLine (letters.contains 'r') (state.input 0)
      let state := state.leave 0 rest
      let pairs := splitLine state.separators (dropBlanks state.separators line) names
      let bindings := pairs.foldl
        (fun bindings (name, value) => bindings.set (String.ofList name) value) state.bindings
      { state with bindings, status := if ended then 0 else 1 }

/-- A number in octal digits, at least four of them. -/
def octalMode (mode : Nat) : Chars :=
  let digits := Nat.toDigits 8 mode
  List.replicate (4 - digits.length) '0' ++ digits

/-- The rights that new files are given, in letters. -/
def maskLetters (mask : Nat) : Chars :=
  let rights (shift : Nat) : Chars :=
    [('r', 2), ('w', 1), ('x', 0)].filterMap fun (c, bit) =>
      if (mask >>> (shift + bit)) % 2 = 0 then some c else none
  "u=".toList ++ rights 6 ++ ",g=".toList ++ rights 3 ++ ",o=".toList ++ rights 0

/-- Shows or sets the rights that new files are not given. -/
def umask : Builtin := withOptions "S" fun letters words state =>
  match words with
  | [] =>
    let shown := if letters.isEmpty then octalMode state.mask else maskLetters state.mask
    (state.write 1 (shown ++ ['\n'])).withStatus 0
  | word :: _ =>
    if !word.isEmpty && word.all fun c => '0' ≤ c && c ≤ '7' then
      { state with mask := (Expression.digits 8 word).1 % 512, status := 0 }
    else if word.head?.any Char.isDigit then failureAt "Illegal number: " word state
    else state.withStatus 0

/-- The names and numbers of signals. -/
def signals : List (String × Nat) :=
  [("EXIT", 0), ("HUP", 1), ("INT", 2), ("QUIT", 3), ("ILL", 4), ("TRAP", 5), ("ABRT", 6),
   ("BUS", 7), ("FPE", 8), ("KILL", 9), ("USR1", 10), ("SEGV", 11), ("USR2", 12), ("PIPE", 13),
   ("ALRM", 14), ("TERM", 15), ("STKFLT", 16), ("CHLD", 17), ("CONT", 18), ("STOP", 19),
   ("TSTP", 20), ("TTIN", 21), ("TTOU", 22), ("URG", 23), ("XCPU", 24), ("XFSZ", 25),
   ("VTALRM", 26), ("PROF", 27), ("WINCH", 28), ("IO", 29), ("PWR", 30), ("SYS", 31)]

/-- The signal that a word names. -/
def signal? (word : Chars) : Option (String × Nat) :=
  match natural? word with
  | some number => signals.find? fun (_, known) => known == number
  | none =>
    let name := String.ofList (word.map Char.toUpper)
    signals.find? fun (known, _) => known == name || "SIG" ++ known == name

/-- Signals that end nothing. -/
def harmless : List Nat := [0, 17, 18, 23, 28]

/-- The shell is sent a signal. A trap that does not ignore it is left to be run. -/
def receive (state : State) (name : String) (number : Nat) : State × Option Chars :=
  if harmless.contains number then (state.withStatus 0, none)
  else
    match if number == 9 || number == 19 then none else state.traps.lookup name with
    | some action => (state.withStatus 0, if action.isEmpty then none else some action)
    | none => ({ state with status := 0, flow := .killed number }, none)

/-- Sends signals to the shell itself, and gives the trap that is to be run. -/
def kill (words : List Chars) (state : State) : State × Option Chars :=
  let usage := "Usage: kill [-s sigspec | -signum | -sigspec] [pid | job]... or\n" ++
    "kill -l [exitstatus]"
  let send (signal : Option (String × Nat)) (spelled : Chars) (targets : List Chars) :=
    match signal, targets with
    | none, _ => (failureAt "invalid signal number or name: " spelled state, none)
    | _, [] => (failure usage state, none)
    | some (name, number), target :: _ =>
      if target == "4242".toList then receive state name number
      else if natural? target |>.isSome then
        ((state.complain "No such process".toList).withStatus 1, none)
      else (failureAt "Illegal number: " target state, none)
  match words with
  | ['-', 'l'] :: number :: _ =>
    match natural? number with
    | some number =>
      let number := if 128 < number then number - 128 else number
      match signals.find? fun (_, known) => known == number && known != 0 with
      | some (name, _) => ((state.write 1 (name.toList ++ ['\n'])).withStatus 0, none)
      | none => (failureAt "invalid signal number or exit status: " number.repr.toList state, none)
    | none => (failureAt "invalid signal number or exit status: " number state, none)
  | ['-', 's'] :: name :: targets => send (signal? name) name targets
  | ('-' :: name) :: targets =>
    if name == ['-'] then send (signal? "TERM".toList) name targets
    else send (signal? name) name targets
  | targets => send (signal? "TERM".toList) [] targets

/-- Sets what is run when signals come. -/
def trap : Builtin := withOptions "" fun _ words state =>
  match words with
  | [] =>
    let shown := state.traps.flatMap fun (name, action) =>
      "trap -- ".toList ++ quotedValue action ++ ' ' :: name.toList ++ ['\n']
    (state.write 1 shown).withStatus 0
  | first :: rest =>
    let (action, names) :=
      if rest.isEmpty || (natural? first).isSome then (none, words)
      else if first == ['-'] then (none, rest)
      else (some first, rest)
    let change (state : State) (word : Chars) : State :=
      match signal? word with
      | none =>
        (state.write 2 ("trap: ".toList ++ word ++ ": bad trap\n".toList)).withStatus 1
      | some (name, _) =>
        let others := state.traps.filter fun (known, _) => known != name
        { state with traps := others ++ (action.map fun action => (name, action)).toList }
    names.foldl change (state.withStatus 0)

/-- Reads the next option out of words. -/
def getopts : Builtin := fun words state =>
  match words with
  | known :: name :: rest =>
    let source := if rest.isEmpty then state.arguments else rest
    let index := ((state.bindings.get? "OPTIND").bind natural?).getD 1
    let place := ((state.bindings.get? "\x01place").bind natural?).getD 0
    let isQuiet := known.head? == some ':'
    let letters := known.filter (· != ':')
    let takesValue (c : Char) : Bool :=
      match known.dropWhile (· != c) with
      | _ :: ':' :: _ => c != ':'
      | _ => false
    let set (bindings : List (String × Option Chars)) (index place status : Nat) : State :=
      let pairs := bindings ++
        [("OPTIND", some index.repr.toList), ("\x01place", some place.repr.toList)]
      { state with
        bindings := pairs.foldl
          (fun all (key, value) => value.elim (all.erase key) (all.set key)) state.bindings
        status }
    let key := String.ofList name
    let finish (index : Nat) : State := set [(key, some ['?'])] index 0 1
    match source[index - 1]? with
    | none => finish index
    | some word =>
      if word == ['-', '-'] then finish (index + 1)
      else if word.head? != some '-' || word.length < 2 then finish index
      else
        let at' := if place = 0 then 1 else place
        let c := (word.drop at').headD '?'
        let isLast := word.length ≤ at' + 1
        let (nextIndex, nextPlace) := if isLast then (index + 1, 0) else (index, at' + 1)
        if !letters.contains c || c == ':' then
          if isQuiet then set [(key, some ['?']), ("OPTARG", some [c])] nextIndex nextPlace 0
          else
            let after := set [(key, some ['?']), ("OPTARG", none)] nextIndex nextPlace 0
            after.write 2 ("Illegal option -".toList ++ [c, '\n'])
        else if takesValue c then
          if !isLast then
            set [(key, some [c]), ("OPTARG", some (word.drop (at' + 1)))] (index + 1) 0 0
          else
            match source[index]? with
            | some value => set [(key, some [c]), ("OPTARG", some value)] (index + 2) 0 0
            | none =>
              if isQuiet then set [(key, some [':']), ("OPTARG", some [c])] (index + 1) 0 0
              else
                let after := set [(key, some ['?']), ("OPTARG", none)] (index + 1) 0 0
                after.write 2 ("No arg for -".toList ++ c :: " option\n".toList)
        else set [(key, some [c]), ("OPTARG", none)] nextIndex nextPlace 0
  | _ => failure "Usage: getopts optstring var [arg]" state

/-- Waits for commands in the background, which have all ended. -/
def wait : Builtin := fun words state =>
  match words with
  | [] => state.withStatus 0
  | word :: _ =>
    state.withStatus (if word == "4243".toList then state.background.getD 127 else 127)

/-- Shows limits, of which there are none. -/
def ulimit : Builtin := fun words state =>
  if words.length ≤ 1 then (state.write 1 "unlimited\n".toList).withStatus 0
  else state.withStatus 0

/-- The commands that only change the shell, by their names. -/
def all : List (String × Builtin) :=
  [(":", fun _ state => state.withStatus 0), ("true", fun _ state => state.withStatus 0),
   ("false", fun _ state => state.withStatus 1), ("exit", exit), ("return", ret),
   ("break", leaveLoops .breaking), ("continue", leaveLoops .continuing), ("shift", shift),
   ("set", set), ("export", exportNames), ("readonly", readonly), ("unset", unset),
   ("local", localize), ("echo", echo), ("printf", printf), ("test", test), ("[", bracket),
   ("pwd", pwd), ("cd", changeDirectory), ("chdir", changeDirectory), ("read", read),
   ("umask", umask), ("trap", trap), ("getopts", getopts), ("wait", wait), ("ulimit", ulimit),
   ("times", fun _ state =>
     (state.write 1 "0m0.000000s 0m0.000000s\n0m0.000000s 0m0.000000s\n".toList).withStatus 0),
   ("jobs", fun _ state => state.withStatus 0),
   ("alias", fun _ state => state.withStatus 0),
   ("unalias", fun words state =>
     words.foldl
       (fun state word =>
         (state.write 2 ("unalias: ".toList ++ word ++ " not found\n".toList)).withStatus 1)
       (state.withStatus 0)),
   ("bg", fun _ => failure "No current job"), ("fg", fun _ => failure "No current job")]

/-- The commands that run others. -/
def runners : List String := ["eval", "exec", ".", "command", "kill", "type", "hash"]

/-- The name is that of a command of the shell itself. -/
def isBuiltin (name : String) : Bool :=
  (all.lookup name).isSome || runners.contains name

/-- Failures of the command end the shell. -/
def isSpecial (name : String) : Bool :=
  Reading.specialNames.contains name

end Builtin

end Scaffold.Shell
