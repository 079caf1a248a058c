import Scaffold.Shell.Builtin

/-!
# Shells as programs

A shell that is run as a program starts with the variables that it is given, and ends with a status
or by a signal.
-/

namespace Scaffold.Shell

/-- The variables that programs know. -/
def State.environment (state : State) : List (String × Chars) :=
  state.bindings.filterMap fun (name, entry) =>
    if entry.exported then entry.value.map fun value => (name, value) else none

/-- How a shell is started as a program. -/
inductive Invocation where
  /-- It runs a script that is given as a word. -/
  | script (text : Chars) (name : Chars) (arguments : List Chars)
  | file (path : Chars) (arguments : List Chars)
  /-- It runs what it reads. -/
  | input (arguments : List Chars)
  | faulty (message : Chars)

/-- Reads the words that a shell is started with, and sets options. `asScript` and `asInput` tell
where the script is to come from. -/
def invocation : List Chars → Bool → Bool → State → Invocation × State
  | [], asScript, _, state =>
    (if asScript then .faulty "-c requires an argument".toList else .input [], state)
  | word :: rest, asScript, asInput, state =>
    let finish (words : List Chars) : Invocation × State :=
      if asInput && !asScript then (.input words, state) else
      match words, asScript with
      | [], true => (.faulty "-c requires an argument".toList, state)
      | [], false => (.input [], state)
      | script :: [], true => (.script script state.name [], state)
      | script :: name :: arguments, true => (.script script name arguments, state)
      | path :: arguments, false => (.file path arguments, state)
    match word with
    | ['-', '-'] => finish rest
    | ['-'] => finish rest
    | sign :: letters =>
      if (sign == '-' || sign == '+') && !letters.isEmpty then
        let isScript := sign == '-' && letters.contains 'c'
        let isInput := sign == '-' && letters.contains 's'
        let others := letters.filter fun c => c != 'c' && c != 's' && c != 'l' && c != 'o'
        match Builtin.setLetters (sign == '-') others state with
        | .error message => (.faulty message, state)
        | .ok state =>
          if letters.contains 'o' then
            match rest with
            | name :: rest =>
              match Builtin.optionNames.lookup (String.ofList name) with
              | some letter =>
                invocation rest (asScript || isScript) (asInput || isInput)
                  (Builtin.setOption state letter (sign == '-'))
              | none => (.faulty ("Illegal option -o ".toList ++ name), state)
            | [] => (.input [], state)
          else invocation rest (asScript || isScript) (asInput || isInput) state
      else finish (word :: rest)
    | [] => finish (word :: rest)

/-- The state in which a shell starts as a program. -/
def State.fresh (state : State) (environment : List (String × Chars)) : State :=
  let known : Variables := environment.map fun (name, value) =>
    (name, { value := some value, exported := true })
  let pwd := if environment.any fun (name, value) => name == "PWD" && value == state.pwdText
    then state.pwd else state.cwd
  let start : State :=
    { tree := state.tree, buffers := state.buffers, handles := state.handles
      texts := state.texts, cwd := state.cwd, pwd
      channels := state.channels, mask := state.mask, steps := state.steps
      traps := state.traps.filter fun (_, action) => action.isEmpty }
  { start with
    bindings :=
      (((known.erase "IFS").set "IFS" [' ', '\t', '\n']).set "OPTIND" ['1']).publish "PWD"
        start.pwdText }

/-- The names of signals as they are told of programs that they end. -/
def signalMessage (signal : Nat) : Chars :=
  match signal with
  | 1 => "Hangup\n".toList
  | 2 => "\n".toList
  | 3 => "Quit\n".toList
  | 6 => "Aborted\n".toList
  | 9 => "Killed\n".toList
  | 10 => "User defined signal 1\n".toList
  | 11 => "Segmentation fault\n".toList
  | 12 => "User defined signal 2\n".toList
  | 13 => []
  | 14 => "Alarm clock\n".toList
  | 15 => "Terminated\n".toList
  | _ => []

/-- The outer shell after a shell that was run as a program. -/
def State.resumeFrom (outer inner : State) : State :=
  let after := outer.resume inner
  match inner.flow with
  | .killed signal =>
    { after.write 2 (signalMessage signal) with status := 128 + signal, flow := .onward }
  | _ => { after with status := inner.status % 256, flow := .onward }

end Scaffold.Shell
