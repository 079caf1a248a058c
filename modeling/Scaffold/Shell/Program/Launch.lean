import Scaffold.Shell.Program.Text

/-!
# Running other programs

Programs that run other ones, with words or variables that they are given.
-/

namespace Scaffold.Shell.Program

/-- The words of an input as `xargs` reads them: quotes and backslashes protect blanks. A quote that
is not closed is a fault. -/
def inputWords : Option Chars → Option Char → Chars → Except Char (List Chars)
  | word, none, [] => .ok (word.map List.reverse).toList
  | _, some quote, [] => .error quote
  | word, some quote, c :: rest =>
    if c == quote then inputWords word none rest
    else if c == '\n' then .error quote
    else inputWords (some (c :: word.getD [])) (some quote) rest
  | word, none, '\\' :: c :: rest => inputWords (some (c :: word.getD [])) none rest
  | word, none, c :: rest =>
    if c == ' ' || c == '\t' || c == '\n' then
      (inputWords none none rest).map fun words => (word.map List.reverse).toList ++ words
    else if c == '\x27' || c == '"' then inputWords (some (word.getD [])) (some c) rest
    else inputWords (some (c :: word.getD [])) none rest

/-- Groups of at most so many. -/
def groupsOf {α : Type} (size : Nat) : Nat → List α → List (List α)
  | 0, _ => []
  | _ + 1, [] => []
  | fuel + 1, items => items.take size :: groupsOf size fuel (items.drop size)

/-- The options of `xargs` before the command. -/
def xargsOptions : Nat → List Chars → Except Chars (Given)
  | 0, words => .ok { words }
  | fuel + 1, words =>
    match words with
    | ('-' :: c :: text) :: rest =>
      let known : Known := { letters := "0rtxpd:E:I:L:n:P:s:a:" }
      if c == '-' then
        if text.isEmpty then .ok { words := rest }
        else if text == "no-run-if-empty".toList then
          (xargsOptions fuel rest).map (Given.withOption 'r' [])
        else if text == "null".toList then (xargsOptions fuel rest).map (Given.withOption '0' [])
        else .error ("unrecognized option '--".toList ++ text ++ ['\x27'])
      else do
        let (options, rest) ← known.cluster (c :: text) rest
        let given ← xargsOptions fuel rest
        return { given with options := options ++ given.options }
    | _ => .ok { words }

/-- Runs a command with the words of the input. -/
def xargs : Program := fun words job =>
  match xargsOptions (words.length + 1) words with
  | .error message => job.misused "xargs" message 1
  | .ok given =>
    let command := if given.words.isEmpty then ["echo".toList] else given.words
    let number (c : Char) := (given.value? c).bind natural?
    let split (sign : Char) :=
      let parts := Text.splitOn (String.singleton sign) job.input
      if parts.getLast? == some [] then parts.dropLast else parts
    let items : Except Char (List Chars) :=
      if given.has '0' then .ok (split '\x00')
      else
        match given.value? 'd', given.has 'I' with
        | some sign, _ =>
          .ok (split (((Pattern.plain (unescaped (sign.length + 1) sign)).head?).getD '\n'))
        | none, true =>
          .ok (((bareLines job.input).map fun line => line.dropWhile (· == ' ')).filter
            fun line => !line.isEmpty)
        | none, false => inputWords none none job.input
    match items with
    | .error quote =>
      let kind := if quote == '"' then "double" else "single"
      job.fail 1
        ("xargs: unmatched " ++ kind ++
          " quote; by default quotes are special to xargs unless you use the -0 option").toList
    | .ok items =>
      let commands : List (List Chars) :=
        match given.value? 'I' with
        | some sign =>
          items.map fun item =>
            command.map fun word => item.intercalate (Text.splitOn (String.ofList sign) word)
        | none =>
          match number 'L' with
          | some lines =>
            let rows := (bareLines job.input).filter fun line => !line.all (· == ' ')
            (groupsOf (max 1 lines) (rows.length + 1) rows).map fun rows =>
              command ++ rows.flatMap fun row => ((inputWords none none row).toOption).getD []
          | none =>
            match number 'n' with
            | some most =>
              (groupsOf (max 1 most) (items.length + 1) items).map fun group => command ++ group
            | none => if items.isEmpty && given.has 'r' then [] else [command ++ items]
      let commands :=
        if commands.isEmpty && !given.has 'r' && !given.has 'I' then [command] else commands
      let job :=
        if given.has 't' then
          commands.foldl
            (fun job words => { job.fail 0 ([' '].intercalate words) with status := job.status })
            job
        else job
      { job with
        input := []
        pending := some
          { commands
            settle := fun statuses =>
              if statuses.contains 127 then 127
              else if statuses.contains 126 then 126
              else if statuses.contains 255 then 124
              else if statuses.any (· != 0) then 123
              else 0
            missing := fun name => "xargs: ".toList ++ name ++ ": No such file or directory".toList
            environment := job.environment } }

/-- Runs a program with other variables. -/
def env : Program := fun words job =>
  let rec settings : List (String × Chars) → List Chars → Except Chars
      (List (String × Chars) × List Chars)
    | known, [] => .ok (known, [])
    | known, word :: rest =>
      if word == "-i".toList || word == ['-'] || word == "--ignore-environment".toList then
        settings [] rest
      else if word == "-u".toList then
        match rest with
        | name :: rest =>
          settings (known.filter fun (key, _) => key != String.ofList name) rest
        | [] => .error "option requires an argument -- 'u'".toList
      else if word.head? == some '-' then
        .error ("invalid option -- '".toList ++ (word.drop 1).take 1 ++ ['\x27'])
      else if word.contains '=' then
        let name := word.takeWhile (· != '=')
        let key := String.ofList name
        let others := known.filter fun (known, _) => known != key
        settings (others ++ [(key, word.drop (name.length + 1))]) rest
      else .ok (known, word :: rest)
  match settings job.environment words with
  | .error message => job.misused "env" message 125
  | .ok (environment, []) =>
    job.print (environment.flatMap fun (name, value) => bytesOf name ++ '=' :: value ++ ['\n'])
  | .ok (environment, command) =>
    { job with
      pending := some
        { commands := [command]
          settle := fun statuses => statuses.headD 0
          missing := fun name =>
            "env: ".toList ++ inCurls name ++ ": No such file or directory".toList
          environment
          input := job.input } }

/-- Runs a program as it is. -/
def plainRunner (missing : Chars → Chars) (skipped : Nat) (name : String) : Program :=
  fun words job =>
    match words.drop skipped with
    | [] => job.fail 125 ("Try '" ++ name ++ " --help' for more information.").toList
    | command =>
      { job with
        pending := some
          { commands := [command]
            settle := fun statuses => statuses.headD 0
            missing
            environment := job.environment
            input := job.input } }

/-- Prints the variables that are known. -/
def printenv : Program := withOptions "printenv" { letters := "0" } fun given job =>
  if given.words.isEmpty then
    job.print (job.environment.flatMap fun (name, value) => bytesOf name ++ '=' :: value ++ ['\n'])
  else
    forEach
      (fun word job =>
        match job.environment.lookup (String.ofList word) with
        | some value => job.printLine value
        | none => { job with status := 1 })
      given.words job

end Scaffold.Shell.Program
