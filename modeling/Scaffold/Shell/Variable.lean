import Scaffold.Shell.Syntax

/-!
# Variables of a shell

Variables hold text. One may be known without a value, and one may be protected against change.
-/

namespace Scaffold.Shell

/-- A variable. -/
structure Variable where
  value : Option Chars := none
  exported : Bool := false
  readOnly : Bool := false
  deriving DecidableEq, Repr

/-- The variables of a shell by their names. -/
abbrev Variables := List (String × Variable)

namespace Variables

/-- The value of a variable that has one. -/
def get? (bindings : Variables) (name : String) : Option Chars :=
  (bindings.lookup name).bind Variable.value

/-- The variable is protected. -/
def isReadOnly (bindings : Variables) (name : String) : Bool :=
  (bindings.lookup name).any Variable.readOnly

/-- Changes a variable, which is made if it is not there. -/
def update (name : String) (change : Variable → Variable) : Variables → Variables
  | [] => [(name, change {})]
  | (known, entry) :: rest =>
    if known == name then (known, change entry) :: rest
    else (known, entry) :: update name change rest

/-- Sets a variable. -/
def set (bindings : Variables) (name : String) (value : Chars) : Variables :=
  bindings.update name fun entry => { entry with value := some value }

/-- Sets a variable that programs know. -/
def publish (bindings : Variables) (name : String) (value : Chars) : Variables :=
  bindings.update name fun entry => { entry with value := some value, exported := true }

/-- Forgets a variable. -/
def erase (bindings : Variables) (name : String) : Variables :=
  bindings.filter fun (known, _) => known != name

end Variables

end Scaffold.Shell
