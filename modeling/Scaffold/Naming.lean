import Scaffold.Text.Basic
import Scaffold.Text.Case

/-!
# Names derived from names

Getters, setters, receivers and table aliases are spelled from the names of fields and structs.
-/

namespace Scaffold.Naming

/-- The name with its first character in upper case. -/
def titled (name : String) : String :=
  match name.toList with
  | [] => ""
  | c :: rest => String.ofList (Text.upperChar c ++ rest)

/-- The first character of the name in lower case; a capital sigma stands in no word here. -/
def initial (name : String) : String :=
  match name.toList with
  | [] => ""
  | c :: _ => String.ofList (Text.lowerFrom false [c])

/-- The name without its ASCII lower-case letters, in lower case. -/
def initials (name : String) : String :=
  Text.lower (String.ofList (name.toList.filter fun c => !('a' ≤ c && c ≤ 'z')))

end Scaffold.Naming
