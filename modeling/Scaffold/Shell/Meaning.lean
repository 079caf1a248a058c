import Scaffold.Shell.Builtin
import Scaffold.Shell.Channel
import Scaffold.Shell.Program.Catalog

/-!
# What names stand for

A name stands for a keyword, a command of the shell, a function or a program, which is looked for
in this order.
-/

namespace Scaffold.Shell

/-- Programs are looked for where they are. -/
def State.findsPrograms (state : State) : Bool :=
  ((state.bindings.get? "PATH").map fun path =>
    (Text.splitOn ":" path).any fun directory =>
      directory == "/usr/bin".toList || directory == "/bin".toList).getD false

/-- What a name stands for as a command. -/
inductive Meaning where
  | keyword
  | special
  | builtin
  | function
  | program (path : Chars)
  | unknown

/-- The program is a file of the tree that may be run. -/
def State.isRunnable (state : State) (path : Chars) : Bool :=
  match locate state.disk true path with
  | .ok (.taken location (.file _ _)) => state.tree.allows .pass location
  | _ => false

/-- What a name stands for. -/
def State.meaning (state : State) (name : Chars) : Meaning :=
  let text := textOf name
  if Reading.keywords.contains text then .keyword
  else if Builtin.isSpecial text then .special
  else if (state.functions.lookup text).isSome then .function
  else if Builtin.isBuiltin text then .builtin
  else if name.contains '/' then
    if (Program.ofPath? name).isSome || state.isRunnable name then .program name else .unknown
  else if state.findsPrograms && Program.isKnown text then .program ("/usr/bin/".toList ++ name)
  else .unknown

/-- Says what names stand for. -/
def State.describe (names : List Chars) (state : State) : State :=
  names.foldl
    (fun state name =>
      let (text, found) : String × Bool :=
        match state.meaning name with
        | .keyword => (" is a shell keyword", true)
        | .special => (" is a special shell builtin", true)
        | .builtin => (" is a shell builtin", true)
        | .function => (" is a shell function", true)
        | .program path => (" is " ++ String.ofList path, true)
        | .unknown => (": not found", false)
      let state := state.write 1 (name ++ text.toList ++ ['\n'])
      if found then state else state.withStatus 127)
    (state.withStatus 0)

/-- Says how a name is run. -/
def State.locateCommand (name : Chars) (state : State) : State :=
  match state.meaning name with
  | .unknown => state.withStatus 127
  | .program path => (state.write 1 (path ++ ['\n'])).withStatus 0
  | _ => (state.write 1 (name ++ ['\n'])).withStatus 0

/-- The text of a word that needs no expansion. -/
def plainWord? : Word → Option Chars
  | [.text _ text] => some text
  | _ => none

/-- The files that a command of a pipeline writes to under fixed names. -/
def writtenFiles : Command → List (Redirecting × Chars)
  | .simple _ _ _ redirections | .redirected _ _ redirections | .subshell _ _ redirections =>
    redirections.filterMap fun redirection =>
      match redirection with
      | .toWord _ kind word =>
        if kind == .write || kind == .append || kind == .overwrite then
          (plainWord? word).map fun path => (kind, path)
        else none
      | .fromText _ _ => none
  | _ => []

/-- The state before a pipeline that starts with a program. The other commands open their files
while the program is still being loaded. -/
def State.prepared (state : State) (commands : List Command) : State :=
  let startsProgram :=
    match commands with
    | .simple _ _ (word :: _) _ :: _ =>
      (plainWord? word).any fun name =>
        match state.meaning name with
        | .program _ => true
        | _ => false
    | _ => false
  if !startsProgram then state
  else
    ((commands.drop 1).flatMap writtenFiles).foldl
      (fun state (kind, path) =>
        match state.openPath kind path with
        | .ok (_, opened) => { opened with handles := state.handles }
        | .error _ => state)
      state

end Scaffold.Shell
