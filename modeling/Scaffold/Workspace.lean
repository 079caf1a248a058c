import Scaffold.Disk.Basic
import Scaffold.Error
import Scaffold.Notice

/-!
# Work on a disk

An action reads and changes a disk, gives notices, and ends with a result or an error. What an
action did before it failed stays done.
-/

namespace Scaffold

/-- The error of a path that cannot be looked up. -/
def Error.ofRefusal : PathFault → Error
  | .denied => .forbidden
  | _ => .unreachable

/-- The state that actions work on. -/
structure Workspace where
  disk : Disk
  notices : List Notice := []

/-- Work that may fail; its effects stay. -/
abbrev Action := ExceptT Error (StateM Workspace)

namespace Action

/-- The disk as it is now. -/
def disk : Action Disk := do
  return (← get).disk

/-- Adds notices. -/
def tell (notices : List Notice) : Action Unit :=
  modify fun workspace => { workspace with notices := workspace.notices ++ notices }

/-- Fails with a cause at a path. -/
def fail {α : Type} (cause : Fault) (path : Path) : Action α :=
  throw (.fault cause (some path.render))

/-- The value of an outcome. -/
def ofExcept {α : Type} : Except Error α → Action α
  | .ok value => pure value
  | .error error => throw error

/-- Changes the disk, or fails with a cause at a path where the change is impossible. A name that no
entry can have is an error of its own. -/
def change (cause : FileFault) (path : Path) (step : Disk → Except PathFault Disk) :
    Action Unit := do
  match step (← disk) with
  | .ok disk => modify fun workspace => { workspace with disk }
  | .error .unspeakable => throw .unconvertible
  | .error reason => fail (.file cause reason) path

/-- The result of an action on a disk, with the disk and the notices it leaves. -/
def runOn {α : Type} (action : Action α) (disk : Disk) : Except Error α × Workspace :=
  (action.run).run { disk }

end Action

end Scaffold
