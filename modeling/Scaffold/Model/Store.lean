import Scaffold.Model.Entity
import Scaffold.Model.Service

/-!
# Stores

A store is the data-access type of a package. It collects the signatures written by hand, the
names of all its methods, its services, and the imports that generated code may need.
-/

namespace Scaffold

/-- The data-access type of a package. -/
structure Store where
  structName : String
  packageName : String
  /-- The public methods written by hand: the members of the generated interface. -/
  methods : List Signature := []
  /-- The names of all methods written by hand, public or not, each once. -/
  methodNames : List String := []
  services : List Service := []
  /-- Imported paths, each once, in the order in which they were added. -/
  imports : List String := []
  /-- The aliases of renamed imports, by path. -/
  importAliases : List (String × String) := []
  hasPrivateConstructor : Bool := false
  hasPublicConstructor : Bool := false
  hasBuildQueries : Bool := false
  mainEntity : Option Entity := none
  sourcePath : Option String := none
  deriving DecidableEq, Repr, Inhabited

namespace Store

/-- The receiver in generated methods. -/
def variableName (store : Store) : String :=
  Naming.initial store.structName

/-- A routine that fetches rows is written by hand. -/
def hasFetch (store : Store) : Bool :=
  store.methodNames.contains "fetch"

/-- The alias of a path, empty where it has none. -/
def aliasOf (store : Store) (path : String) : String :=
  (store.importAliases.lookup path).getD ""

/-- Sets the alias of a path. -/
def setAlias (path name : String) : List (String × String) → List (String × String)
  | [] => [(path, name)]
  | (p, n) :: rest => if p == path then (p, name) :: rest else (p, n) :: setAlias path name rest

/-- Adds an import that is not there yet, with its alias where that is not empty. -/
def addImport (store : Store) (path name : String) : Store :=
  if store.imports.contains path then store
  else
    { store with
      imports := store.imports ++ [path]
      importAliases :=
        if name.isEmpty then store.importAliases else setAlias path name store.importAliases }

/-- Records the name of a method. -/
def addMethodName (store : Store) (name : String) : Store :=
  if store.methodNames.contains name then store
  else { store with methodNames := store.methodNames ++ [name] }

/-- Adds a signature and records its name. -/
def addMethod (store : Store) (signature : Signature) : Store :=
  { store with methods := store.methods ++ [signature] }.addMethodName signature.name

/-- A one-line description. -/
def describe (store : Store) : String :=
  "<Store " ++ store.structName ++ " (" ++ toString store.methods.length ++ " methods, " ++
    toString store.services.length ++ " services, " ++ toString store.imports.length ++
    " imports)>"

end Store

end Scaffold
