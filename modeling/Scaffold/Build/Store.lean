import Scaffold.Build.Signature
import Scaffold.Config
import Scaffold.Source.Import
import Scaffold.Source.Method
import Scaffold.Source.Struct

/-!
# Stores from source

The canonical file of a package declares the store's struct; every other file may add methods to
it. A qualifier that a service or a signature uses is looked up among the imports of the file it
stands in; the first import with that qualifier becomes an import of the store.
-/

namespace Scaffold.Store

/-- Adds the import that a qualifier refers to, if there is one. -/
def resolveImport (imports : List Import) (store : Store) (qualifier : String) : Store :=
  match imports.find? fun item => item.qualifier == qualifier with
  | none => store
  | some item =>
    store.addImport item.path (if Import.renames item.localName then item.localName else "")

/-- Adds the imports that qualifiers refer to. -/
def resolveImports (store : Store) (imports : List Import) (qualifiers : List String) : Store :=
  qualifiers.foldl (resolveImport imports) store

/-- Adds the signatures of public methods, first come, with the imports that they need. What was
added before a fault stays. -/
def addPublicMethods (imports : List Import) :
    List Source.Method → Store → Store × Except Error Unit
  | [], store => (store, .ok ())
  | method :: rest, store =>
    if store.methods.any fun known => known.name == method.name then
      addPublicMethods imports rest store
    else
      match Signature.ofText method.name method.params method.results with
      | .error error => (store, .error error)
      | .ok signature =>
        let qualifiers :=
          Source.findQualifiers (method.params.toList ++ ' ' :: method.results.toList)
        addPublicMethods imports rest
          ((store.addMethod signature).resolveImports imports qualifiers)

/-- Adds a service and the import of its type. -/
def addService (imports : List Import) (store : Store) (service : Service) :
    Except Error Store := do
  let service ← service.checked.orError
  let store := { store with services := store.services ++ [service] }
  return store.resolveImports imports [service.qualifier]

/-- The methods of a source whose receiver is the given struct. -/
def methodsOf (structName : String) (source : Chars) : Except Error (List Source.Method) := do
  let methods ← Error.ofSource (Source.findMethods source)
  return methods.filter fun method => method.receiverType == structName

/-- Records the names of methods. -/
def addMethodNames (store : Store) (methods : List Source.Method) : Store :=
  methods.foldl (fun store method => store.addMethodName method.name) store

/-- The store that a source declares; faults carry no path yet. -/
def read (source packageName : String) (mainEntity : Entity) (sourcePath : Option String) :
    Except Error Store := do
  let text := source.toList
  let block ← Error.ofSource (Source.findStruct text)
  let methods ← methodsOf block.name text
  let declared : Store :=
    { structName := block.name
      packageName
      hasPrivateConstructor := Source.hasFunction "new".toList text
      hasPublicConstructor := Source.hasFunction "New".toList text
      hasBuildQueries := methods.any fun method => method.name == "buildQueries"
      mainEntity := some mainEntity
      sourcePath }
  let store := (← declared.checked.orError).addMethodNames methods
  let services := Source.readServices block.body.toList
  let visible := methods.filter Source.Method.isPublic
  if (services.isEmpty && visible.isEmpty) || store.hasPublicConstructor then
    return store
  else
    let imports := Source.findImports text
    let store ← services.foldlM (addService imports) store
    let (store, outcome) := addPublicMethods imports visible store
    outcome.map fun _ => store

/-- The store that the canonical file of a package declares. Its entity has to be known. -/
def ofSource (source packageName : String) (mainEntity : Option Entity)
    (sourcePath : Option String) : Except Error Store :=
  match mainEntity with
  | none => .error (.fault (.order .storeBeforeEntity) sourcePath)
  | some entity =>
    (read source packageName entity sourcePath).mapError (Error.inFile sourcePath)

/-- Takes up the methods of another file of the package: all their names, and the signatures of
public ones where those are collected. The result counts the public methods met; what was taken up
before a fault stays. -/
def harvest (store : Store) (source : String) (collectPublic : Bool)
    (sourcePath : Option String) : Store × Except Error Nat :=
  let text := source.toList
  match methodsOf store.structName text with
  | .error error => (store, .error (error.inFile sourcePath))
  | .ok methods =>
    let store := store.addMethodNames methods
    if !collectPublic then (store, .ok 0)
    else
      let visible := methods.filter Source.Method.isPublic
      let (store, outcome) := addPublicMethods (Source.findImports text) visible store
      (store, (outcome.map fun _ => visible.length).mapError (Error.inFile sourcePath))

/-- Adds the imports that generated code needs. -/
def finalize (config : Config) (store : Store) : Store :=
  let store :=
    if store.hasFetch then store
    else
      [config.errorsImport, config.databaseImport, config.sqlImport].foldl
        (fun store path => store.addImport path "") store
  if store.hasBuildQueries && !store.hasPrivateConstructor && !store.hasPublicConstructor then
    store.addImport config.errorsImport ""
  else store

end Scaffold.Store
