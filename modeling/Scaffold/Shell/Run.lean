import Scaffold.Shell.Fields
import Scaffold.Shell.Invocation
import Scaffold.Shell.Meaning

/-!
# Running scripts

A shell reads a script line by line and runs its commands on a file tree. Words are expanded first,
then channels are redirected and variables set, and then a command of the shell, a function or a
program is run. How many commands a script may run, and how deep they may be nested, is far beyond
what scripts of a few lines need.
-/

namespace Scaffold.Shell

/-- Expansion of words. It may run commands, and it fails where the shell ends. -/
abbrev Expanding := ExceptT Unit (StateM State)

namespace Expanding

/-- Ends the shell with a message. -/
def abort {α : Type} (message : Chars) : Expanding α := do
  modify fun state => state.abort message
  throw ()

/-- Sets a variable unless it is protected. -/
def assign (name : String) (value : Chars) : Expanding Unit := do
  if (← get).bindings.isReadOnly name then abort (bytesOf name ++ ": is read only".toList)
  else
    modify fun state =>
      let changed := state.bindings.set name value
      { state with
        bindings :=
          if state.has 'a' then changed.update name fun entry => { entry with exported := true }
          else changed }

/-- The value of an arithmetic expression as text. -/
def compute (text : Chars) : Expanding Chars := do
  match Expression.eval (← get).bindings text with
  | .ok (value, bindings) =>
    modify fun state => { state with bindings }
    return (toString value).toList
  | .error (.reading message) =>
    abort (("arithmetic expression: " ++ message ++ ": \"").toList ++ text ++ ['"'])
  | .error (.illegal value) => abort ("Illegal number: ".toList ++ value)
  | .error (.readOnly name) => abort (bytesOf name ++ ": is read only".toList)

end Expanding

/-- A text without the line ends at its end. -/
def cutNewlines (text : Chars) : Chars :=
  (text.reverse.dropWhile (· == '\n')).reverse

/-- The state in which an inner shell starts. -/
def State.inner (state : State) : State :=
  { state with traps := state.traps.filter fun (_, action) => action.isEmpty }

/-- Gives variables the values that they had before. -/
def State.restoreVariables (state before : State) (names : List String) : State :=
  { state with
    bindings := names.foldl
      (fun bindings name =>
        match before.bindings.lookup name with
        | some entry => bindings.update name fun _ => entry
        | none => bindings.erase name)
      state.bindings }

/-- The number for the next text of a script. -/
def State.textCount (state : State) : Nat :=
  (state.texts.map fun (number, _) => number + 1).foldl max 0

/-- A loop that is being left, or gone on with. -/
def State.afterBody (state : State) : Bool × State :=
  match state.flow with
  | .onward => (true, state)
  | .breaking levels =>
    (false, { state with flow := if levels ≤ 1 then .onward else .breaking (levels - 1) })
  | .continuing levels =>
    if levels ≤ 1 then (true, { state with flow := .onward })
    else (false, { state with flow := .continuing (levels - 1) })
  | _ => (false, state)

/-- Ends the shell after a failure, where that is asked for. -/
def State.checked (tested : Bool) (state : State) : State :=
  if state.has 'e' && !tested && state.status != 0 && state.isRunning then
    { state with flow := .leaving }
  else state

/-- The commands that print, whose failures to do so are told. -/
def printers : List String := ["echo", "printf", "pwd", "type", "umask", "set", "export", "trap"]

/-- Runs a command of the shell that runs no others. -/
def State.runBuiltin (state : State) (name : String) (run : Builtin) (words : List Chars) :
    State :=
  let before := state.command
  let state := run words { state with command := some (bytesOf name) }
  let state :=
    if (state.channel? 1).isNone && printers.contains name && state.status = 0 then
      (state.complain (bytesOf name ++ ": I/O error".toList)).withStatus 1
    else state
  { state with command := before }

/-- A special command of the shell that has failed ends it. -/
def State.settleSpecial (state : State) : State :=
  if state.status = 2 && state.isRunning then { state with flow := .leaving } else state

/-- Writes what a program has written, and takes over its changes. -/
def State.afterJob (state : State) (job : Job) : State :=
  let state := { state with tree := job.disk.tree, status := job.status }
  let state := state.leave 0 job.input
  job.written.reverse.foldl (fun state (channel, text) => state.write channel text) state

/-- The words that are set before a command, as they are shown. -/
def shownAssignments (assignments : List (String × Chars)) : List Chars :=
  assignments.map fun (name, value) => bytesOf name ++ '=' :: value

/-- Shows a command before it is run, where that is asked for. -/
def State.trace (state : State) (channel : Option Channel) (assignments : List (String × Chars))
    (words : List Chars) : State :=
  let line := "+ ".toList ++ [' '].intercalate (shownAssignments assignments ++ words) ++ ['\n']
  if state.has 'x' then
    ((state.setChannel 2 channel).write 2 line).setChannel 2 (state.channel? 2)
  else state

/-- The commands whose words may set variables. -/
def declarers : List String := ["export", "readonly", "local", "alias"]

mutual

/-- What pieces of a word stand for. Text outside quotes has the given origin. -/
def expand (origin : Origin) : Nat → Word → Expanding (List Item)
  | 0, _ => return []
  | _ + 1, [] => return []
  | fuel + 1, piece :: rest => do
    let items ←
      match piece with
      | .text true text => pure (.hold :: Item.ofText .quoted text)
      | .text false text => pure (Item.ofText origin text)
      | .output quoted script =>
        let text ← outputOf fuel script
        pure (Item.ofResult quoted (cutNewlines (text.filter (· != '\x00'))))
      | .value quoted expression =>
        let items ← expand .script fuel expression
        let value ← Expanding.compute (Pattern.plain (Item.toMarked [] items))
        pure (Item.ofResult quoted value)
      | .parameter quoted name use word => parameter fuel quoted name use word
    return items ++ (← expand origin fuel rest)
termination_by structural fuel => fuel

/-- What a parameter stands for. -/
def parameter : Nat → Bool → String → Use → Word → Expanding (List Item)
  | 0, _, _, _, _ => return []
  | fuel + 1, quoted, name, use, word => do
    let state ← get
    let isList := name == "@" || name == "*"
    let value? : Option Chars :=
      if isList then
        some (state.joint.intercalate state.arguments)
      else state.parameter? name
    let own : List Item :=
      if !isList then value?.elim [] (Item.ofResult quoted)
      else if name == "*" && quoted then
        Item.ofResult true (state.joint.intercalate state.arguments)
      else Item.ofTexts quoted state.arguments
    let isMissing (orEmpty : Bool) : Bool :=
      match value? with
      | none => true
      | some value => orEmpty && value.isEmpty
    let needed : Expanding Chars :=
      match value? with
      | some value => pure value
      | none =>
        if state.has 'u' then Expanding.abort (bytesOf name ++ ": parameter not set".toList)
        else pure []
    let other : Expanding (List Item) := do
      let items ← expand (if quoted then .quoted else .result) fuel (state.withHome word)
      return if quoted && !word.isEmpty then .hold :: items else items
    let held : List Item := if quoted then [.hold] else []
    match use with
    | .value =>
      discard needed
      return if value?.isNone then held else own
    | .length =>
      let value ← needed
      return Item.ofResult quoted value.length.repr.toList
    | .orElse orEmpty => if isMissing orEmpty then return held ++ (← other) else return own
    | .ifSet orEmpty => if isMissing orEmpty then return held else return held ++ (← other)
    | .orAssign orEmpty =>
      if isMissing orEmpty then
        let text ← textOfWord fuel (state.withHome word)
        if isName name.toList then
          Expanding.assign name text
          return Item.ofResult quoted text
        else Expanding.abort (bytesOf name ++ ": bad variable name".toList)
      else return own
    | .orFail orEmpty =>
      if isMissing orEmpty then
        let text ← textOfWord fuel word
        let message :=
          if !word.isEmpty then text
          else (if orEmpty then "parameter not set or null" else "parameter not set").toList
        Expanding.abort (bytesOf name ++ ": ".toList ++ message)
      else return own
    | .without atStart longest =>
      let value ← needed
      let items ← expand .script fuel (state.withHome word)
      let pattern := Item.toMarked (← get).joint items
      return Item.ofResult quoted (Pattern.trim pattern atStart longest value)
    | .unknown => Expanding.abort "Bad substitution".toList
termination_by structural fuel => fuel

/-- What a word stands for as one text. -/
def textOfWord : Nat → Word → Expanding Chars
  | 0, _ => return []
  | fuel + 1, word => do
    let items ← expand .script fuel word
    return Pattern.plain (Item.toMarked (← get).joint items)
termination_by structural fuel => fuel

/-- What words stand for as fields. -/
def fieldsOf : Nat → List Word → Expanding (List Chars)
  | 0, _ => return []
  | _ + 1, [] => return []
  | fuel + 1, word :: rest => do
    let items ← expand .script fuel ((← get).withHome word)
    let state ← get
    let found := fields state.separators items
    let paths := found.flatMap fun field =>
      if state.has 'f' then [Pattern.plain field] else Pattern.paths state.disk field
    return paths ++ (← fieldsOf fuel rest)
termination_by structural fuel => fuel

/-- The words of a command. Those of some commands set variables, and are not divided. -/
def commandWords : Nat → List Word → Expanding (List Chars)
  | 0, _ => return []
  | fuel + 1, words => do
    match words with
    | [.text false text] :: rest =>
      if declarers.contains (String.ofList text) then return text :: (← declared fuel rest)
      else fieldsOf fuel words
    | _ => fieldsOf fuel words
termination_by structural fuel => fuel

/-- Words that may set variables. -/
def declared : Nat → List Word → Expanding (List Chars)
  | 0, _ => return []
  | _ + 1, [] => return []
  | fuel + 1, word :: rest => do
    let found ←
      match assignment? word with
      | some (name, value) => do
        let text ← textOfWord fuel ((← get).withHomes value)
        pure [bytesOf name ++ '=' :: text]
      | none => fieldsOf fuel [word]
    return found ++ (← declared fuel rest)
termination_by structural fuel => fuel

/-- The values of assignments. -/
def valuesOf : Nat → List (String × Word) → Expanding (List (String × Chars))
  | 0, _ => return []
  | _ + 1, [] => return []
  | fuel + 1, (name, word) :: rest => do
    let value ← textOfWord fuel ((← get).withHomes word)
    return (name, value) :: (← valuesOf fuel rest)
termination_by structural fuel => fuel

/-- The output of a command that is run in an inner shell. -/
def outputOf : Nat → Option Command → Expanding Chars
  | 0, _ => return []
  | _ + 1, none => return []
  | fuel + 1, some command => do
    let outer ← get
    let (number, started) := outer.addBuffer {}
    let inner := (started.inner).setChannel 1 (some (.buffer number))
    let ended := finish fuel (runCommand fuel false command inner)
    let after := outer.resume ended
    set { after with status := outer.status, outputStatus := some (after.status % 256) }
    if after.isRunning then return ended.bufferContent number else throw ()
termination_by structural fuel => fuel

/-- Redirects channels. -/
def redirect : Nat → List Redirection → State → Except State State
  | 0, _, state => .ok state
  | _ + 1, [], state => .ok state
  | fuel + 1, redirection :: rest, state =>
    let opened : Except State State :=
      match redirection with
      | .fromText channel number =>
        match (textOfWord fuel ((state.texts.lookup number).getD [])).run.run state with
        | (.error _, state) => .error ({ state with flow := .onward }.withStatus 2)
        | (.ok content, state) =>
          let (number, state) := state.addBuffer { content }
          .ok (state.setChannel channel (some (.buffer number)))
      | .toWord channel kind word =>
        match (textOfWord fuel (state.withHome word)).run.run state with
        | (.error _, state) => .error state
        | (.ok path, state) =>
          if kind == .copy then state.copyChannel channel path
          else
            match state.openPath kind path with
            | .ok (target, state) => .ok (state.setChannel channel target)
            | .error message => .error ((state.complain message).withStatus 2)
    match opened with
    | .error state => .error state
    | .ok state => redirect fuel rest state
termination_by structural fuel => fuel

/-- Runs a command. `tested` tells that its status is looked at. -/
def runCommand : Nat → Bool → Command → State → State
  | 0, _, _, state => state
  | fuel + 1, tested, command, state =>
    if !state.isRunning || state.has 'n' then state
    else if state.steps = 0 then { state with flow := .leaving }
    else
      let state := { state with steps := state.steps - 1 }
      match command with
      | .simple line assignments words redirections =>
        (runSimple fuel tested assignments words redirections { state with line }).checked tested
      | .pipeline commands =>
        (runPipeline fuel commands none (state.prepared commands)).checked tested
      | .background inner =>
        let started := (state.inner).setChannel 0 (some .nowhere)
        let ended := finish fuel (runCommand fuel false inner started)
        { state.resume ended with status := 0, background := some (ended.status % 256) }
      | .negated inner =>
        let state := runCommand fuel true inner state
        if state.isRunning then state.withStatus (if state.status = 0 then 1 else 0) else state
      | .both first second =>
        let state := runCommand fuel true first state
        if state.isRunning && state.status = 0 then runCommand fuel tested second state else state
      | .either first second =>
        let state := runCommand fuel true first state
        if state.isRunning && state.status != 0 then runCommand fuel tested second state else state
      | .sequence first second =>
        let state := runCommand fuel tested first state
        if state.isRunning then runCommand fuel tested second state else state
      | .redirected line inner redirections =>
        match redirect fuel redirections { state with line } with
        | .error failed => failed.restoreChannels state redirections
        | .ok ready => (runCommand fuel tested inner ready).restoreChannels state redirections
      | .subshell line inner redirections =>
        match redirect fuel redirections { state with line } with
        | .error failed => (failed.restoreChannels state redirections).checked tested
        | .ok ready =>
          let ended := finish fuel (runCommand fuel tested inner ready.inner)
          let after := state.resume ended
          (after.withStatus (after.status % 256)).checked tested
      | .branch test yes no =>
        let state := runCommand fuel true test state
        if !state.isRunning then state
        else if state.status = 0 then runCommand fuel tested yes state
        else
          match no with
          | some no => runCommand fuel tested no state
          | none => state.withStatus 0
      | .loop endsWhenTrue test body =>
        let looped := runLoop fuel tested endsWhenTrue test body 0
          { state with loops := state.loops + 1 }
        { looped with loops := state.loops }
      | .each line name words body =>
        match (fieldsOf fuel words).run.run { state with line } with
        | (.error _, state) => state
        | (.ok values, ready) =>
          let looped := runEach fuel tested name body values
            { ready with loops := state.loops + 1 }
          { looped with
            loops := state.loops, status := if values.isEmpty then 0 else looped.status }
      | .choice line word cases =>
        match (textOfWord fuel (state.withHome word)).run.run { state with line } with
        | (.error _, state) => state
        | (.ok text, state) => runChoice fuel tested text cases state
      | .define name body =>
        let others := state.functions.filter fun (known, _) => known != name
        { state with functions := (name, body) :: others, status := 0 }
termination_by structural fuel => fuel

/-- Runs a loop whose last body had a status. -/
def runLoop : Nat → Bool → Bool → Command → Command → Nat → State → State
  | 0, _, _, _, _, _, state => state
  | fuel + 1, tested, endsWhenTrue, test, body, status, state =>
    let state := runCommand fuel true test state
    if !state.isRunning then
      let (goesOn, state) := state.afterBody
      if goesOn then runLoop fuel tested endsWhenTrue test body status state else state
    else if (state.status = 0) == endsWhenTrue then state.withStatus status
    else
      let (goesOn, state) := (runCommand fuel tested body state).afterBody
      if goesOn then runLoop fuel tested endsWhenTrue test body state.status state else state
termination_by structural fuel => fuel

/-- Runs a body for each of some values. -/
def runEach : Nat → Bool → String → Command → List Chars → State → State
  | 0, _, _, _, _, state => state
  | _ + 1, _, _, _, [], state => state
  | fuel + 1, tested, name, body, value :: rest, state =>
    match (Expanding.assign name value).run.run state with
    | (.error _, state) => state
    | (.ok _, state) =>
      let (goesOn, state) := (runCommand fuel tested body state).afterBody
      if goesOn then runEach fuel tested name body rest state else state
termination_by structural fuel => fuel

/-- Runs the first of some cases that fits a text. -/
def runChoice : Nat → Bool → Chars → List (List Word × Option Command) → State → State
  | 0, _, _, _, state => state
  | _ + 1, _, _, [], state => state.withStatus 0
  | fuel + 1, tested, text, (patterns, body) :: rest, state =>
    match (fitsAny fuel text patterns).run.run state with
    | (.error _, state) => state
    | (.ok true, state) =>
      match body with
      | some body => runCommand fuel tested body state
      | none => state.withStatus 0
    | (.ok false, state) => runChoice fuel tested text rest state
termination_by structural fuel => fuel

/-- One of some patterns fits a text. -/
def fitsAny : Nat → Chars → List Word → Expanding Bool
  | 0, _, _ => return false
  | _ + 1, _, [] => return false
  | fuel + 1, text, pattern :: rest => do
    let items ← expand .script fuel ((← get).withHome pattern)
    if Pattern.fits (Item.toMarked (← get).joint items) text then return true
    else fitsAny fuel text rest
termination_by structural fuel => fuel

/-- Runs commands each of which reads what the one before it has written. -/
def runPipeline : Nat → List Command → Option Nat → State → State
  | 0, _, _, state => state
  | _ + 1, [], _, state => state
  | fuel + 1, command :: rest, source, state =>
    let (number, started) := if rest.isEmpty then (0, state) else state.addBuffer {}
    let inner := started.inner
    let inner := source.elim inner fun source => inner.setChannel 0 (some (.buffer source))
    let inner := if rest.isEmpty then inner else inner.setChannel 1 (some (.buffer number))
    let ended := finish fuel (runCommand fuel false command inner)
    let after := state.resume ended
    let after := after.withStatus (after.status % 256)
    if !after.isRunning || rest.isEmpty then after else runPipeline fuel rest (some number) after
termination_by structural fuel => fuel

/-- Runs a simple command. -/
def runSimple : Nat → Bool → List (String × Word) → List Word → List Redirection → State → State
  | 0, _, _, _, _, state => state
  | fuel + 1, tested, assignments, words, redirections, state =>
    match (commandWords fuel words).run.run { state with outputStatus := none } with
    | (.error _, state) => state
    | (.ok words, before) =>
      let isSpecial := words.head?.any fun name => Builtin.isSpecial (textOf name)
      match redirect fuel redirections before with
      | .error failed =>
        let failed := failed.restoreChannels before redirections
        if isSpecial && failed.isRunning then { failed with flow := .leaving } else failed
      | .ok ready =>
        match (valuesOf fuel assignments).run.run ready with
        | (.error _, state) => state.restoreChannels before redirections
        | (.ok values, ready) =>
          let locked := values.find? fun (name, _) => ready.bindings.isReadOnly name
          match locked with
          | some (name, _) =>
            (ready.abort (bytesOf name ++ ": is read only".toList)).restoreChannels before
              redirections
          | none =>
            let ready := ready.trace (before.channel? 2) values words
            let isPermanent := words.isEmpty || isSpecial
            let ready : State :=
              { ready with
                bindings := values.foldl
                  (fun bindings (name, value) =>
                    let changed := bindings.set name value
                    if isPermanent && !ready.has 'a' then changed
                    else changed.update name fun entry => { entry with exported := true })
                  ready.bindings }
            match words with
            | [] =>
              (ready.withStatus (ready.outputStatus.getD 0)).restoreChannels before redirections
            | name :: arguments =>
              let ended := runWords fuel tested true name arguments ready
              let keepsChannels := name == "exec".toList && arguments.isEmpty
              let ended :=
                if keepsChannels then ended else ended.restoreChannels before redirections
              if isPermanent then ended
              else ended.restoreVariables before (values.map Prod.fst)
termination_by structural fuel => fuel

/-- Runs a command by its words. `findsFunctions` tells that functions are looked for. -/
def runWords : Nat → Bool → Bool → Chars → List Chars → State → State
  | 0, _, _, _, _, state => state
  | fuel + 1, tested, findsFunctions, name, words, state =>
    let text := textOf name
    let function? :=
      if findsFunctions && !Builtin.isSpecial text then state.functions.lookup text else none
    match function? with
    | some body => runFunction fuel tested body words state
    | none =>
      match Builtin.all.lookup text with
      | some run =>
        let ended := state.runBuiltin text run words
        if Builtin.isSpecial text && findsFunctions then ended.settleSpecial else ended
      | none => if Builtin.runners.contains text then runRunner fuel tested text words state
        else runProgram fuel name words state
termination_by structural fuel => fuel

/-- Runs a function. -/
def runFunction : Nat → Bool → Command → List Chars → State → State
  | 0, _, _, _, state => state
  | fuel + 1, tested, body, words, state =>
    let ended := runCommand fuel tested body
      { state with arguments := words, calls := state.calls + 1, loops := 0, saved := [] }
    let restored : State :=
      { ended with
        bindings := ended.saved.foldl
          (fun bindings (name, entry) =>
            match entry with
            | some entry => bindings.update name fun _ => entry
            | none => bindings.erase name)
          ended.bindings }
    { restored with
      arguments := state.arguments
      calls := state.calls
      loops := state.loops
      saved := state.saved
      flow := if ended.flow == .returning then .onward else ended.flow }
termination_by structural fuel => fuel

/-- Runs a command of the shell that runs others. -/
def runRunner : Nat → Bool → String → List Chars → State → State
  | 0, _, _, _, state => state
  | fuel + 1, tested, name, words, state =>
    let failing (message : Chars) : State :=
      { ({ state with command := some name.toList }).abort message with command := state.command }
    match name with
    | "eval" =>
      let text := [' '].intercalate words
      let ended := runText fuel tested text
        { state with command := some name.toList, status := 0 }
      { ended with command := state.command, line := state.line }
    | "." =>
      match words with
      | [] => state.withStatus 0
      | path :: _ =>
        if !path.contains '/' then failing (path ++ ": not found".toList)
        else
          match locate state.disk true path with
          | .ok (.taken location (.file content _)) =>
            if !state.tree.allows .read location then
              failing ("cannot open ".toList ++ path ++ ": ".toList ++ PathFault.denied.wording)
            else
              let started := { state with command := some path, calls := state.calls + 1 }
              let ended := runText fuel false (contentBytes content) { started with status := 0 }
              { ended with
                command := state.command
                line := state.line
                calls := state.calls
                flow := if ended.flow == .returning then .onward else ended.flow }
          | .ok (.taken _ _) => state.withStatus 0
          | .ok (.vacant _) => failing ("cannot open ".toList ++ path ++ ": No such file".toList)
          | .error fault =>
            failing ("cannot open ".toList ++ path ++ ": ".toList ++ openingFault false fault)
    | "exec" =>
      match words with
      | [] => state.withStatus 0
      | program :: arguments =>
        let ended := runProgram fuel program arguments
          { state with command := some name.toList }
        { ended with
          command := state.command
          flow := if ended.isRunning then .leaving else ended.flow
          traps := [] }
    | "command" =>
      match Builtin.options "pvV" words with
      | .error c =>
        { Builtin.failureAt "Illegal option -" [c] { state with command := some name.toList } with
          command := state.command }
      | .ok (letters, words) =>
        match words with
        | [] => state.withStatus 0
        | program :: arguments =>
          if letters.contains 'v' then state.locateCommand program
          else if letters.contains 'V' then state.describe [program]
          else runWords fuel tested false program arguments state
    | "kill" =>
      let (ended, action) := Builtin.kill words { state with command := some name.toList }
      let ended := { ended with command := state.command }
      match action with
      | none => ended
      | some action => { runText fuel false action ended with line := state.line }
    | "type" => state.describe words
    | _ =>
      words.foldl
        (fun state word =>
          match state.meaning word with
          | .unknown =>
            { (({ state with command := some name.toList }).complain
                (word ++ ": not found".toList)).withStatus 1 with command := state.command }
          | _ => state)
        (state.withStatus 0)
termination_by structural fuel => fuel

/-- Runs a program. -/
def runProgram : Nat → Chars → List Chars → State → State
  | 0, _, _, state => state
  | fuel + 1, name, words, state =>
    let failing (status : Nat) (message : String) : State :=
      (state.complain (name ++ message.toList)).withStatus status
    let known? : Option String :=
      if name.contains '/' then Program.ofPath? name
      else if state.findsPrograms && Program.isKnown (textOf name) then some (textOf name)
      else none
    match known? with
    | some known =>
      if Program.shellNames.contains known then
        state.resumeFrom (runShell fuel (bytesOf known) words (state.fresh state.environment))
      else
        let number? :=
          match state.channel? 0 with
          | some (.buffer number) => some number
          | _ => none
        let ofFile := (number?.bind fun number => state.buffers.lookup number).any Buffer.ofFile ||
          number?.isNone
        let job : Job :=
          { disk := state.disk, input := state.input 0, ofFile, mask := state.mask
            environment := state.environment }
        match Program.ofName? known with
        | none => failing 127 ": not found"
        | some program =>
          let job := program words job
          let after := state.afterJob job
          match job.pending with
          | none => after
          | some pending => runPending fuel pending pending.commands [] after
    | none =>
      if name.isEmpty then failing 127 ": Permission denied"
      else if !name.contains '/' then failing 127 ": not found"
      else
        match locate state.disk true name with
        | .ok (.taken location (.file content _)) =>
          if !state.tree.allows .pass location || !state.tree.allows .read location then
            failing 126 ": Permission denied"
          else
            let started := { state.fresh state.environment with name, arguments := words }
            state.resumeFrom (finish fuel (runText fuel false (contentBytes content) started))
        | .ok (.taken _ _) | .error .denied => failing 126 ": Permission denied"
        | _ => failing 127 ": not found"
termination_by structural fuel => fuel

/-- Runs programs that a program wants to be run, behind those that have ended with statuses. -/
def runPending : Nat → Pending → List (List Chars) → List Nat → State → State
  | 0, _, _, _, state => state
  | fuel + 1, pending, commands, statuses, state =>
    let started (state : State) : State :=
      let known : Variables := pending.environment.map fun (name, value) =>
        (name, { value := some value, exported := true })
      let (number, state) := state.addBuffer { content := pending.input }
      { state with bindings := known }.setChannel 0 (some (.buffer number))
    match commands with
    | [] => state.withStatus (pending.settle statuses.reverse)
    | [] :: rest => runPending fuel pending rest statuses state
    | (name :: words) :: rest =>
      let isKnown :=
        if name.contains '/' then (Program.ofPath? name).isSome || state.isRunnable name
        else Program.isKnown (textOf name)
      if !isKnown then
        let state := state.write 2 (pending.missing name ++ ['\n'])
        runPending fuel pending [] (127 :: statuses) state
      else
        let path := if name.contains '/' then name else "/usr/bin/".toList ++ name
        let ended := runProgram fuel path words (started state)
        let after : State := { state.resume ended with flow := .onward }
        runPending fuel pending rest (ended.status :: statuses) after
termination_by structural fuel => fuel

/-- Runs a shell as a program, in its own state. -/
def runShell : Nat → Chars → List Chars → State → State
  | 0, _, _, state => state
  | fuel + 1, name, words, state =>
    let (how, state) := invocation words false false { state with name }
    let failing (message : Chars) : State :=
      { (state.write 2 (name ++ ": 0: ".toList ++ message ++ ['\n'])).withStatus 2 with
        flow := .leaving }
    match how with
    | .faulty message => failing message
    | .script text name arguments =>
      finish fuel (runText fuel false text { state with name, arguments })
    | .input arguments =>
      let text := state.input 0
      finish fuel (runText fuel false text ({ state with arguments }.leave 0 []))
    | .file path arguments =>
      match locate state.disk true path with
      | .ok (.taken location (.file content _)) =>
        let started := { state with name := path, arguments }
        if state.tree.allows .read location then
          finish fuel (runText fuel false (contentBytes content) started)
        else failing ("cannot open ".toList ++ path ++ ": ".toList ++ PathFault.denied.wording)
      | .ok (.taken _ _) => state.withStatus 0
      | .ok (.vacant _) => failing ("cannot open ".toList ++ path ++ ": No such file".toList)
      | .error fault =>
        failing ("cannot open ".toList ++ path ++ ": ".toList ++ openingFault false fault)
termination_by structural fuel => fuel

/-- Runs a script. -/
def runText : Nat → Bool → Chars → State → State
  | 0, _, _, state => state
  | fuel + 1, tested, text, state =>
    runLines fuel tested { rest := text, texts := state.texts, count := state.textCount } state
termination_by structural fuel => fuel

/-- Runs what is left of a script. -/
def runLines : Nat → Bool → Source → State → State
  | 0, _, _, state => state
  | fuel + 1, tested, source, state =>
    match source.line? with
    | .error fault =>
      { state with line := fault.line }.abort ("Syntax error: " ++ fault.message).toList
    | .ok none => state
    | .ok (some (command, source)) =>
      let state := { state with texts := source.texts }
      let state := command.elim state fun command => runCommand fuel tested command state
      if state.isRunning then runLines fuel tested source state else state
termination_by structural fuel => fuel

/-- Runs what is to be run at the end of a shell. -/
def finish : Nat → State → State
  | 0, state => state
  | fuel + 1, state =>
    match state.flow, state.traps.lookup "EXIT" with
    | .killed _, _ => state
    | _, none => state
    | _, some action =>
      let started : State :=
        { state with
          flow := .onward, loops := 0, calls := 0
          traps := state.traps.filter fun (name, _) => name != "EXIT" }
      let ended := runText fuel false action started
      if ended.isRunning then { ended with status := state.status, flow := .leaving } else ended
termination_by structural fuel => fuel

end

/-- How deep the commands of a script may be nested, and how often its loops may go round. -/
def depthLimit : Nat := 20000

/-- What a command has done: the tree after it, what it has written, and its status. -/
structure Outcome where
  tree : Tree
  out : ByteArray
  err : ByteArray
  /-- Less than nothing if a signal has ended the command. -/
  status : Int

/-- The state of a shell that runs one command. -/
def State.launch (tree : Tree) (cwd : Location) : State :=
  let exported (name value : String) : String × Variable :=
    (name, { value := some (bytesOf value), exported := true })
  { tree, cwd, pwd := cwd
    buffers := [(0, {}), (1, {}), (2, {})]
    channels := [(0, .nowhere), (1, .buffer 1), (2, .buffer 2)]
    bindings :=
      [exported "PATH" "/usr/local/sbin:/usr/local/bin:/usr/sbin:/usr/bin:/sbin:/bin",
       exported "HOME" "/root"] }

/-- The outcome of a shell that has ended. -/
def State.outcome (state : State) : Outcome :=
  { tree := state.tree
    out := toBytes (state.bufferContent 1)
    err := toBytes (state.bufferContent 2)
    status :=
      match state.flow with
      | .killed signal => -signal
      | _ => state.status % 256 }

/-- Runs a program with its words in a directory. There is no outcome where the program is not
there, or where it may not be run. -/
def run? (tree : Tree) (directory : Location) (command : List String) : Option Outcome :=
  match command with
  | [] => none
  | name :: words =>
    let state := State.launch tree directory
    let path := bytesOf name
    let words := words.map bytesOf
    let known? :=
      if path.contains '/' then Program.ofPath? path
      else if Program.isKnown name then some name
      else none
    match known? with
    | some known =>
      if Program.shellNames.contains known then
        some (runShell depthLimit path words (state.fresh state.environment)).outcome
      else some (runProgram depthLimit path words state).outcome
    | none =>
      if path.contains '/' && state.isRunnable path then
        some (runProgram depthLimit path words state).outcome
      else none

end Scaffold.Shell
