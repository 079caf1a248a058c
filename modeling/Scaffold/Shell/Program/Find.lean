import Scaffold.Shell.Program.Files

/-!
# Finding entries

A program that goes through the entries below some paths, tests them and acts on them.
-/

namespace Scaffold.Shell.Program

/-- A test or an action of `find`. -/
inductive FindStep where
  | named (foldsCase wholePath : Bool) (pattern : Chars)
  | ofKind (kind : Char)
  | empty
  | ofMode (mode : Nat)
  | ofSize (text : Chars)
  | constant (value : Bool)
  | print (ending : Chars)
  | delete
  | prune
  | run (gathered : Bool) (words : List Chars)
  | negated (inner : FindStep)
  | both (first second : FindStep)
  | either (first second : FindStep)

/-- What `find` is asked for. -/
structure FindRequest where
  least : Nat := 0
  most : Option Nat := none
  deepFirst : Bool := false
  /-- An action is asked for, so nothing is printed by itself. -/
  acts : Bool := false

/-- The reading of the words of `find`. -/
abbrev FindReading := Except Chars (FindStep × List Chars × FindRequest)

mutual

/-- Steps of which one suffices. -/
def findEither : Nat → List Chars → FindRequest → FindReading
  | 0, _, _ => .error []
  | fuel + 1, words, request => do
    let (first, rest, request) ← findBoth fuel words request
    match rest with
    | word :: rest =>
      if word == "-o".toList || word == "-or".toList then
        let (second, rest, request) ← findEither fuel rest request
        return (.either first second, rest, request)
      else return (first, word :: rest, request)
    | [] => return (first, [], request)
termination_by structural fuel => fuel

/-- Steps one after the other. -/
def findBoth : Nat → List Chars → FindRequest → FindReading
  | 0, _, _ => .error []
  | fuel + 1, words, request => do
    let (first, rest, request) ← findStep fuel words request
    match rest with
    | [] => return (first, [], request)
    | word :: after =>
      if word == "-o".toList || word == "-or".toList || word == [')'] then
        return (first, rest, request)
      else
        let rest := if word == "-a".toList || word == "-and".toList then after else rest
        let (second, rest, request) ← findBoth fuel rest request
        return (.both first second, rest, request)
termination_by structural fuel => fuel

/-- One step. -/
def findStep : Nat → List Chars → FindRequest → FindReading
  | 0, _, _ => .error []
  | fuel + 1, words, request =>
    match words with
    | [] => .ok (.constant true, [], request)
    | word :: rest =>
      let name := String.ofList word
      let lacking : Chars := "missing argument to \x60".toList ++ word ++ ['\x27']
      let acting := { request with acts := true }
      let valued (make : Chars → Except Chars FindStep) (request : FindRequest) :
          FindReading :=
        match rest with
        | [] => .error lacking
        | value :: rest => do return (← make value, rest, request)
      match name with
      | "!" | "-not" => do
        let (inner, rest, request) ← findStep fuel rest request
        return (.negated inner, rest, request)
      | "(" => do
        let (inner, rest, request) ← findEither fuel rest request
        match rest with
        | [')'] :: rest => return (inner, rest, request)
        | _ => .error "invalid expression; expected to find a ')' but didn't see one.".toList
      | "-name" => valued (fun value => .ok (.named false false value)) request
      | "-iname" => valued (fun value => .ok (.named true false value)) request
      | "-path" | "-wholename" => valued (fun value => .ok (.named false true value)) request
      | "-type" =>
        valued
          (fun value =>
            match value with
            | [kind] =>
              if "fdlbcps".toList.contains kind then .ok (.ofKind kind)
              else .error ("Unknown argument to -type: ".toList ++ value)
            | _ => .error ("Unknown argument to -type: ".toList ++ value))
          request
      | "-size" => valued (fun value => .ok (.ofSize value)) request
      | "-perm" =>
        valued (fun value => .ok (.ofMode ((mode? 0 false 0 value).getD 0))) request
      | "-maxdepth" =>
        match rest with
        | [] => .error lacking
        | value :: rest =>
          .ok (.constant true, rest, { request with most := natural? value })
      | "-mindepth" =>
        match rest with
        | [] => .error lacking
        | value :: rest =>
          .ok (.constant true, rest, { request with least := (natural? value).getD 0 })
      | "-empty" => .ok (.empty, rest, request)
      | "-true" => .ok (.constant true, rest, request)
      | "-false" => .ok (.constant false, rest, request)
      | "-prune" => .ok (.prune, rest, request)
      | "-depth" => .ok (.constant true, rest, { request with deepFirst := true })
      | "-print" => .ok (.print ['\n'], rest, acting)
      | "-print0" => .ok (.print ['\x00'], rest, acting)
      | "-delete" => .ok (.delete, rest, { acting with deepFirst := true })
      | "-exec" =>
        let body := rest.takeWhile fun word => word != [';'] && word != ['+']
        match rest.drop body.length with
        | [] => .error lacking
        | ending :: rest => .ok (.run (ending == ['+']) body, rest, acting)
      | _ =>
        if word.head? == some '-' then
          .error ("unknown predicate \x60".toList ++ word ++ ['\x27'])
        else
          .error ("paths must precede expression: \x60".toList ++ word ++ ['\x27'])
termination_by structural fuel => fuel

end

/-- The effects of a step on one entry. -/
structure FindEffect where
  job : Job
  pruned : Bool := false
  commands : List (Bool × List Chars × Chars) := []

/-- Carries out a step on one entry. -/
def FindStep.carryOut (path : Chars) (location : Location) (entry : Node) :
    FindStep → FindEffect → Bool × FindEffect
  | .named foldsCase wholePath pattern, effect =>
    let fold (text : Chars) := if foldsCase then text.map Char.toLower else text
    let text := if wholePath then path else baseName path
    let marked := (fold pattern).map fun c => (c, false)
    (Pattern.fits marked (fold text), effect)
  | .ofKind kind, effect =>
    let own :=
      match entry with
      | .file _ _ => 'f'
      | .directory _ => 'd'
      | .link _ => 'l'
    (kind == own, effect)
  | .empty, effect =>
    let isEmpty :=
      match entry with
      | .file content _ => content.size = 0
      | .directory _ => (effect.job.disk.tree.names location).isEmpty
      | .link _ => false
    (isEmpty, effect)
  | .ofMode mode, effect =>
    let own :=
      match entry with
      | .file _ mode | .directory mode => mode
      | .link _ => 0o777
    (own == mode, effect)
  | .ofSize text, effect =>
    let size :=
      match entry with
      | .file content _ => content.size
      | .directory _ => 4096
      | .link target => target.utf8ByteSize
    let digits := (text.dropWhile fun c => c == '+' || c == '-').takeWhile Char.isDigit
    let unit := if text.getLast? == some 'c' then 1 else if text.getLast? == some 'k' then 1024
      else 512
    let amount := (size + unit - 1) / unit
    let wanted := (natural? digits).getD 0
    (match text.head? with
      | some '+' => wanted < amount
      | some '-' => amount < wanted
      | _ => amount == wanted, effect)
  | .constant value, effect => (value, effect)
  | .print ending, effect => (true, { effect with job := effect.job.print (path ++ ending) })
  | .prune, effect => (true, { effect with pruned := true })
  | .delete, effect =>
    match entry with
    | .directory _ =>
      if path == ['.'] then (true, effect)
      else if (effect.job.disk.tree.names location).isEmpty then delete effect
      else refuse "Directory not empty".toList effect
    | _ => delete effect
  | .run gathered words, effect =>
    (true, { effect with commands := effect.commands ++ [(gathered, words, path)] })
  | .negated inner, effect =>
    let (value, effect) := inner.carryOut path location entry effect
    (!value, effect)
  | .both first second, effect =>
    let (value, effect) := first.carryOut path location entry effect
    if value then second.carryOut path location entry effect else (false, effect)
  | .either first second, effect =>
    let (value, effect) := first.carryOut path location entry effect
    if value then (true, effect) else second.carryOut path location entry effect
where
  refuse (why : Chars) (effect : FindEffect) : Bool × FindEffect :=
    (false, { effect with
      job := effect.job.complain "find"
        ("cannot delete ".toList ++ inCurls path ++ ": ".toList ++ why) })
  delete (effect : FindEffect) : Bool × FindEffect :=
    if effect.job.disk.tree.isAlterable location.dropLast then
      (true, { effect with job := { effect.job with disk := drop effect.job.disk location } })
    else refuse PathFault.denied.wording effect

/-- Goes through the entries at and below a path. The number bounds the depth. -/
def findBelow (request : FindRequest) (step : FindStep) :
    Nat → Nat → Chars → Location → FindEffect → FindEffect
  | 0, _, _, _, effect => effect
  | fuel + 1, level, path, location, effect =>
    match effect.job.disk.tree.get? location with
    | none => effect
    | some entry =>
      let visit (effect : FindEffect) : FindEffect :=
        if level < request.least then effect
        else (step.carryOut path location entry effect).2
      let descend (effect : FindEffect) : FindEffect :=
        match entry with
        | .directory _ =>
          if effect.pruned || request.most.any (· ≤ level) then effect
          else if !isReadable effect.job.disk location then
            { effect with
              job := effect.job.complain "find"
                (inCurls path ++ ": ".toList ++ PathFault.denied.wording) }
          else
            (namesIn effect.job.disk location).foldl
              (fun effect name =>
                findBelow request step fuel (level + 1) (joined path name)
                  (location ++ [textOf name]) { effect with pruned := false })
              effect
        | _ => effect
      let after := if request.deepFirst then visit (descend effect) else descend (visit effect)
      { after with pruned := false }

/-- A command with a text in place of each pair of braces. -/
def filled (words : List Chars) (text : Chars) : List Chars :=
  words.map fun word => text.intercalate (Text.splitOn "\x7b\x7d" word)

/-- The commands that are asked for, those for many entries at the end. -/
def findCommands (asked : List (Bool × List Chars × Chars)) : List (List Chars) :=
  let single := asked.filterMap fun (gathered, words, path) =>
    if gathered then none else some (filled words path)
  let many := asked.filter fun (gathered, _, _) => gathered
  let kinds := (many.map fun (_, words, _) => words).eraseDups
  single ++ kinds.map fun words =>
    let paths := many.filterMap fun (_, known, path) => if known == words then some path else none
    words.flatMap fun word => if word == "\x7b\x7d".toList then paths else [word]

/-- Finds entries. -/
def find : Program := fun words job =>
  let starts := words.takeWhile fun word =>
    !(word.head? == some '-' && 1 < word.length) && word != ['('] && word != ['!']
  let body := words.drop starts.length
  match findEither (8 * body.length + 16) body {} with
  | .error message => job.fail 1 ("find: ".toList ++ message)
  | .ok (step, _, request) =>
    let step := if request.acts then step else .both step (.print ['\n'])
    let starts := if starts.isEmpty then [['.']] else starts
    let visit (effect : FindEffect) (start : Chars) : FindEffect :=
      match node effect.job.disk false start with
      | .error fault =>
        { effect with
          job := effect.job.complain "find" (inCurls start ++ ": ".toList ++ fault.wording) }
      | .ok (location, _) =>
        findBelow request step (effect.job.disk.tree.entries.length + 2) 0 start location effect
    let effect := starts.foldl visit { job }
    let commands := findCommands effect.commands
    if commands.isEmpty then effect.job
    else
      let status := effect.job.status
      { effect.job with
        pending := some
          { commands
            settle := fun _ => status
            missing := fun name =>
              "find: ".toList ++ inCurls name ++ ": No such file or directory".toList
            environment := job.environment
            input := job.input } }

end Scaffold.Shell.Program
