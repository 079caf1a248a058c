import Scaffold.Build.Construct
import Scaffold.Config
import Scaffold.Go.Decl
import Scaffold.Notice
import Scaffold.Source.Import

/-!
# The file of a store

The interface of the methods written by hand, a constructor that takes the services, and the
routine that fetches rows; each is left out where it is written by hand already. Only imports that
these declarations use are kept.
-/

namespace Scaffold.Store

/-- The interface would have the name of the struct itself. -/
def clashesWithInterface (config : Config) (store : Store) : Bool :=
  store.structName == config.storeInterfaceName

/-- The interface of the public methods, where there are any. -/
def interfaceDecls (config : Config) (store : Store) : List Go.Decl :=
  let name := config.storeInterfaceName
  if store.methods.isEmpty || store.clashesWithInterface config then []
  else
    [.implements name store.structName,
     .interface (some (name ++ " represents a data interaction object.")) name
       (store.methods.map Signature.render)]

/-- The constructor that takes the services. -/
def constructor (store : Store) : Go.Func :=
  let made := store.variableName
  let literal := made ++ " := &" ++ store.structName
  let create :=
    if store.services.isEmpty then [literal ++ Go.braced ""]
    else
      (literal ++ "\x7b") ::
        store.services.map (fun service => Go.indent (service.name ++ ": " ++ service.name ++ ","))
        ++ [Go.closing]
  let build :=
    if store.hasBuildQueries then
      Go.block ("if err := " ++ made ++ ".buildQueries(); err != nil")
        ["return nil, errors.Trace(err)"]
    else []
  { doc := some ("New returns a new instance of " ++ store.structName ++ ".")
    signature :=
      ⟨"New", store.services.map fun service => ⟨service.name, service.type⟩,
       [⟨"", "*" ++ store.structName⟩, ⟨"", "error"⟩]⟩
    body := create ++ build ++ ["return " ++ made ++ ", nil"] }

/-- The fields that are always scanned, in the order of declaration. -/
def mandatoryFields (config : Config) (entity : Entity) : List String :=
  (entity.properties.filter fun property =>
    !config.creatorScanFields.contains property.name &&
      !Text.contains property.comment config.noDbFieldDirective).map Property.name

/-- The fields that are scanned where creators are asked for. -/
def creatorFields (config : Config) (entity : Entity) : List String :=
  config.creatorScanFields.filter fun name => (entity.property? name).isSome

/-- The variable that holds a row: another name where the receiver has it. -/
def rowVariable (store : Store) (entity : Entity) : String :=
  if entity.variableName == store.variableName then store.variableName ++ "Entity"
  else entity.variableName

/-- The places that fields are scanned into. -/
def scanTargets (row : String) (fields : List String) : String :=
  ", ".intercalate (fields.map fun field => "&" ++ row ++ "." ++ field)

/-- The part of the fetch routine that runs the query and sees to its end. -/
def queryLines (config : Config) (store : Store) : List String :=
  ["rows, err := " ++ store.variableName ++ "." ++ config.storeDatabaseField ++
    ".Query(query, params...)"] ++
  Go.block "if err == sql.ErrNoRows" ["err = nil", "return"] ++
  Go.block "if err != nil" ["err = errors.Trace(err)", "return"] ++
  [Go.opening "defer func(dbRows database.Rows)",
   Go.indent "closeErr := dbRows.Close()",
   Go.indent (Go.opening "if err != nil && closeErr != nil"),
   Go.indent (Go.indent "err = errors.Wrap(err, closeErr)"),
   Go.indent ("\x7d else " ++ Go.opening "if closeErr != nil"),
   Go.indent (Go.indent "err = errors.Trace(closeErr)"),
   Go.indent Go.closing,
   Go.closing ++ "(rows)"]

/-- The part of the fetch routine that scans one row. -/
def rowLines (config : Config) (store : Store) (entity : Entity) : List String :=
  let row := store.rowVariable entity
  let creators := creatorFields config entity
  Go.block "if err := rows.Err(); err != nil" ["return nil, false, errors.Trace(err)"] ++
  [row ++ " := " ++ entity.privateConstructorName ++ "()",
   "fields := []interface" ++ Go.braced "" ++
     Go.braced (scanTargets row (mandatoryFields config entity))] ++
  (if creators.isEmpty then []
   else
    Go.block "if withCreators"
      ["fields = append(fields, " ++ scanTargets row creators ++ ")"]) ++
  Go.block "if err := rows.Scan(fields...); err != nil"
    ["return nil, false, errors.Trace(err)"] ++
  ["result = append(result, " ++ row ++ ")"]

/-- The routine that fetches rows. -/
def fetchFunc (config : Config) (store : Store) (entity : Entity) : Go.Func :=
  { receiver := some ⟨store.variableName, store.structName⟩
    signature :=
      ⟨"fetch",
       [⟨"query", "string"⟩, ⟨"withCreators", "bool"⟩,
        ⟨"params", "...interface" ++ Go.braced ""⟩],
       [⟨"result", "[]*" ++ entity.name⟩, ⟨"ok", "bool"⟩, ⟨"err", "error"⟩]⟩
    body := store.queryLines config ++
      ["result = make([]*" ++ entity.name ++ ", 0)"] ++
      Go.block "for rows.Next()" (store.rowLines config entity) ++
      ["ok = len(result) > 0", "return"] }

/-- The declarations of the store's file. -/
def decls (config : Config) (store : Store) (entity : Entity) : List Go.Decl :=
  store.interfaceDecls config ++
    (if store.hasPrivateConstructor || store.hasPublicConstructor then []
     else [.func store.constructor]) ++
    (if store.hasFetch then [] else [.func (store.fetchFunc config entity)])

/-- An import of the store with its alias. -/
def importOf (store : Store) (path : String) : Import :=
  ⟨path, store.aliasOf path⟩

/-- The imports whose qualifier a text uses. -/
def referencedImports (store : Store) (text : String) : List String :=
  let used := Source.findQualifiers text.toList
  store.imports.filter fun path => used.contains (store.importOf path).qualifier

/-- The store's file. -/
def file (config : Config) (store : Store) : Except Error Go.File :=
  match store.mainEntity with
  | none =>
    .error (.fault (.order (.storeWithoutEntity store.structName)) store.sourcePath)
  | some entity =>
    let bare : Go.File :=
      { generator := config.generatorName
        package := store.packageName
        decls := store.decls config entity }
    .ok { bare with
      imports := (store.referencedImports bare.renderDecls).map store.importOf }

/-- The text of the store's file. -/
def render (config : Config) (store : Store) : Except Error String :=
  (store.file config).map Go.File.render

/-- What is told when the store's file is made. -/
def notices (config : Config) (store : Store) : List Notice :=
  if store.mainEntity.isSome && !store.methods.isEmpty && store.clashesWithInterface config then
    [.interfaceLeftOut store.structName config.storeInterfaceName]
  else []

end Scaffold.Store
