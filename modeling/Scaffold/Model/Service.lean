import Scaffold.Text.Basic

/-!
# Services

A service is a dependency of a store, declared in its struct as a name and a qualified type.
-/

namespace Scaffold

/-- A field of a store's struct that holds a dependency. -/
structure Service where
  name : String
  type : String
  deriving DecidableEq, Repr, Inhabited

/-- The package that the type belongs to: `database` for `*database.Database`. -/
def Service.qualifier (service : Service) : String :=
  String.ofList (Text.before "." (service.type.toList.dropWhile (· == '*')))

end Scaffold
