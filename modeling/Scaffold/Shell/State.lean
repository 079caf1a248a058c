import Scaffold.Shell.Pattern
import Scaffold.Shell.Variable

/-!
# The state of a shell

A shell has a place in a file tree, variables, functions and channels. A shell that is started
inside another one has copies of these, but shares the tree and the texts that go through channels.
-/

namespace Scaffold.Shell

/-- A text that is written at one end and read at the other. -/
structure Buffer where
  content : Chars := []
  /-- It is the content of a file. -/
  ofFile : Bool := false
  deriving DecidableEq, Repr

/-- A file that is written to. -/
structure Handle where
  location : Location
  /-- Where the next text is put. -/
  offset : Nat := 0
  /-- Texts are put at the end instead. -/
  appends : Bool := false
  deriving DecidableEq, Repr

/-- What a channel leads to. -/
inductive Channel where
  | buffer (number : Nat)
  /-- The handle with a number. -/
  | file (number : Nat)
  /-- What is written is lost, and there is nothing to read. -/
  | nowhere
  deriving DecidableEq, Repr

/-- Where a script goes on. -/
inductive Flow where
  | onward
  /-- The shell ends. -/
  | leaving
  /-- A function ends. -/
  | returning
  /-- So many loops end. -/
  | breaking (levels : Nat)
  /-- All but the last of so many loops end, and that one goes on. -/
  | continuing (levels : Nat)
  /-- The shell is ended by a signal. -/
  | killed (signal : Nat)
  deriving DecidableEq, Repr

/-- The state of a shell. -/
structure State where
  tree : Tree
  buffers : List (Nat × Buffer) := []
  /-- Files that are written to, in the order in which they were opened. -/
  handles : List Handle := []
  /-- Texts of the script, by their numbers. -/
  texts : List (Nat × Word) := []
  name : Chars := ['s', 'h']
  cwd : Location
  /-- The names of the working directory as it was asked for, which may lead through links. -/
  pwd : List String := []
  bindings : Variables := []
  arguments : List Chars := []
  functions : List (String × Command) := []
  channels : List (Nat × Channel) := []
  /-- The letters of the options that are set. -/
  options : List Char := []
  /-- How many loops are being run. -/
  loops : Nat := 0
  /-- How many functions are being run. -/
  calls : Nat := 0
  /-- Variables as they are to be after the function that is being run. -/
  saved : List (String × Option Variable) := []
  /-- What is run when a signal comes, or at the end, by the names of signals. -/
  traps : List (String × Chars) := []
  /-- The rights that new files are not given. -/
  mask : Nat := 0o022
  /-- The command of the shell itself that is being run. -/
  command : Option Chars := none
  line : Nat := 1
  status : Nat := 0
  /-- The status of the last command whose output was put into a word. -/
  outputStatus : Option Nat := none
  /-- The status of the last command that was run in the background. -/
  background : Option Nat := none
  /-- How many commands may still be run. -/
  steps : Nat := 20000
  flow : Flow := .onward

namespace State

/-- The tree with the working directory. -/
def disk (state : State) : Disk :=
  { tree := state.tree, cwd := state.cwd }

/-- The option is set. -/
def has (state : State) (option : Char) : Bool :=
  state.options.contains option

/-- The script goes on. -/
def isRunning (state : State) : Bool :=
  state.flow == .onward

/-- Changes a buffer. -/
def changeBuffer (state : State) (number : Nat) (change : Buffer → Buffer) : State :=
  { state with
    buffers := state.buffers.map fun (known, buffer) =>
      if known == number then (known, change buffer) else (known, buffer) }

/-- A new buffer with a content. -/
def addBuffer (state : State) (buffer : Buffer) : Nat × State :=
  let number := state.buffers.length
  (number, { state with buffers := state.buffers ++ [(number, buffer)] })

/-- The content of a buffer. -/
def bufferContent (state : State) (number : Nat) : Chars :=
  ((state.buffers.lookup number).map Buffer.content).getD []

/-- What a channel leads to. -/
def channel? (state : State) (channel : Nat) : Option Channel :=
  state.channels.lookup channel

/-- Lets a channel lead somewhere, or nowhere at all. -/
def setChannel (state : State) (channel : Nat) (target : Option Channel) : State :=
  let others := state.channels.filter fun (known, _) => known != channel
  { state with channels := (target.map fun target => (channel, target)).toList ++ others }

/-- A new channel to a file. -/
def addHandle (state : State) (handle : Handle) : Channel × State :=
  (.file state.handles.length, { state with handles := state.handles ++ [handle] })

/-- A content with a text in it from an offset on. -/
def overwritten (content : ByteArray) (offset : Nat) (text : Chars) : ByteArray :=
  let old := content.toList
  let gap := List.replicate (offset - old.length) (0 : UInt8)
  ⟨(old.take offset ++ gap ++ (toBytes text).toList ++ old.drop (offset + text.length)).toArray⟩

/-- Writes to a channel. -/
def write (state : State) (channel : Nat) (text : Chars) : State :=
  match state.channel? channel with
  | some (.buffer number) =>
    state.changeBuffer number fun buffer => { buffer with content := buffer.content ++ text }
  | some (.file number) =>
    match state.handles[number]? with
    | none => state
    | some handle =>
      match state.tree.get? handle.location with
      | some (.file content mode) =>
        let offset := if handle.appends then content.size else handle.offset
        { state with
          tree := state.tree.put handle.location (.file (overwritten content offset text) mode)
          handles := state.handles.set number { handle with offset := offset + text.length } }
      | _ => state
  | _ => state

/-- What can be read from a channel. -/
def input (state : State) (channel : Nat) : Chars :=
  match state.channel? channel with
  | some (.buffer number) => state.bufferContent number
  | _ => []

/-- Leaves a text to be read from a channel. -/
def leave (state : State) (channel : Nat) (text : Chars) : State :=
  match state.channel? channel with
  | some (.buffer number) => state.changeBuffer number fun buffer => { buffer with content := text }
  | _ => state

/-- A message of the shell about a line of the script. -/
def complain (state : State) (message : Chars) : State :=
  let command := state.command.elim [] (· ++ [':', ' '])
  state.write 2
    (state.name ++ (": " ++ toString state.line ++ ": ").toList ++ command ++ message ++ ['\n'])

/-- A failure that ends the shell. -/
def abort (state : State) (message : Chars) : State :=
  { state.complain message with status := 2, flow := .leaving }

/-- The state with a status. -/
def withStatus (state : State) (status : Nat) : State :=
  { state with status }

/-- The outer shell after an inner one has ended: only what both share has changed. -/
def resume (outer inner : State) : State :=
  { outer with
    tree := inner.tree
    buffers := inner.buffers
    handles := inner.handles
    texts := inner.texts
    status := inner.status
    steps := inner.steps
    flow :=
      match inner.flow with
      | .killed signal => .killed signal
      | _ => .onward }

/-- The value of a variable, or of a parameter that the shell itself has. -/
def parameter? (state : State) (name : String) : Option Chars :=
  match name with
  | "?" => some (toString state.status).toList
  | "#" => some (toString state.arguments.length).toList
  | "$" => some "4242".toList
  | "!" => state.background.map fun _ => "4243".toList
  | "-" => some state.options
  | "0" => some state.name
  | _ =>
    match name.toNat? with
    | some number => if name.toList.all Char.isDigit then state.arguments[number - 1]? else none
    | none => state.bindings.get? name

/-- The characters that divide fields. -/
def separators (state : State) : Chars :=
  (state.bindings.get? "IFS").getD [' ', '\t', '\n']

/-- The working directory as it was asked for. -/
def pwdText (state : State) : Chars :=
  bytesOf ("/" ++ "/".intercalate state.pwd)

end State

end Scaffold.Shell
