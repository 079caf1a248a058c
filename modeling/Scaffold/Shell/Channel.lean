import Scaffold.Disk.Wording
import Scaffold.Shell.State

/-!
# Channels

How the channels of a shell are led to files and to each other, and back to where they led before.
-/

namespace Scaffold.Shell

/-- The message about a path that cannot be opened. -/
def openingFault (creates : Bool) (fault : PathFault) : Chars :=
  match fault with
  | .missing | .notDirectory => (if creates then "Directory nonexistent" else "No such file").toList
  | fault => fault.wording

/-- Opens a file for a channel. -/
def State.openPath (state : State) (kind : Redirecting) (path : Chars) :
    Except Chars (Option Channel × State) :=
  let creates := kind != .read
  let protects := kind == .write && state.has 'C'
  let failed (what : String) (message : Chars) : Except Chars (Option Channel × State) :=
    .error (what.toList ++ path ++ ": ".toList ++ message)
  let failure := failed (if creates then "cannot create " else "cannot open ")
  match String.ofList path with
  | "/dev/null" => .ok (some .nowhere, state)
  | "/dev/stdin" => .ok (state.channel? 0, state)
  | "/dev/stdout" => .ok (state.channel? 1, state)
  | "/dev/stderr" => .ok (state.channel? 2, state)
  | _ =>
    match locate state.disk true path, kind with
    | .error fault, _ =>
      if creates && isVacantDirectory state.disk path then failure PathFault.directory.wording
      else failure (openingFault creates fault)
    | .ok (.taken location (.file content _)), .read
    | .ok (.taken location (.file content _)), .readWrite =>
      if !state.tree.allows .read location || creates && !state.tree.allows .write location then
        failure PathFault.denied.wording
      else
        let (number, state) := state.addBuffer { content := contentBytes content, ofFile := true }
        .ok (some (.buffer number), state)
    | .ok (.taken location _), .read =>
      if state.tree.allows .read location then .ok (some .nowhere, state)
      else failure PathFault.denied.wording
    | .ok (.vacant _), .read => failure (openingFault creates .missing)
    | .ok (.taken location (.file content mode)), kind =>
      if protects then failure PathFault.occupied.wording
      else if !state.tree.allows .write location then failure PathFault.denied.wording
      else
        let kept := if kind == .append then content else ByteArray.empty
        let (channel, state) := state.addHandle { location, appends := kind == .append }
        .ok (some channel, { state with tree := state.tree.put location (.file kept mode) })
    | .ok (.taken _ _), _ =>
      if protects then failed "cannot open " PathFault.directory.wording
      else failure PathFault.directory.wording
    | .ok (.vacant location), _ =>
      let mode := 0o666 &&& (0o777 - state.mask % 512)
      match state.disk.place location (.file ByteArray.empty mode) with
      | .error fault => failure fault.wording
      | .ok disk =>
        let (channel, state) := state.addHandle { location, appends := kind == .append }
        .ok (some channel, { state with tree := disk.tree })

/-- Makes a channel a copy of the one that a word names. -/
def State.copyChannel (state : State) (channel : Nat) (word : Chars) : Except State State :=
  if word == ['-'] then .ok (state.setChannel channel none)
  else
    match word with
    | [c] =>
      if c.isDigit then
        match state.channel? (c.toNat - '0'.toNat) with
        | some target => .ok (state.setChannel channel (some target))
        | none =>
          .error ((state.complain (c :: ": Bad file descriptor".toList)).withStatus 2)
      else .error (state.abort "Syntax error: Bad fd number".toList)
    | _ => .error (state.abort "Syntax error: Bad fd number".toList)

/-- The channel that a redirection is about. -/
def Redirection.channel : Redirection → Nat
  | .toWord channel _ _ => channel
  | .fromText channel _ => channel

/-- Lets channels lead where they led before. -/
def State.restoreChannels (state before : State) (redirections : List Redirection) : State :=
  redirections.foldl
    (fun state redirection =>
      state.setChannel redirection.channel (before.channel? redirection.channel))
    state

end Scaffold.Shell
