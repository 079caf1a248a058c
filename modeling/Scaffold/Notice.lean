import Scaffold.Text.Quoted

/-!
# Notices

What a run tells besides its result: conditions that deserve attention and do not stop it.
-/

namespace Scaffold

/-- How serious a notice is. -/
inductive Severity where
  | warning
  | error
  deriving DecidableEq, Repr

/-- The severity in capitals. -/
def Severity.label : Severity → String
  | warning => "WARNING"
  | error => "ERROR"

/-- A message with its severity. -/
structure Notice where
  severity : Severity
  text : String
  deriving DecidableEq, Repr

namespace Notice

/-- The notice on one line. -/
def render (notice : Notice) : String :=
  notice.severity.label ++ " " ++ notice.text

/-- The directive on fields does not begin with the marker. -/
def directiveApart (directive marker : String) : Notice :=
  ⟨.warning,
   s!"no_db_field_directive {Text.quoted directive} does not start with entity_marker " ++
     s!"{Text.quoted marker}; files carrying it will not be skipped by method harvesting."⟩

/-- The store has the name of its interface, which is left out. -/
def interfaceLeftOut (store interfaceName : String) : Notice :=
  ⟨.warning, s!"Store struct is named {store}; not emitting the {interfaceName} interface"⟩

end Notice

end Scaffold
