import Scaffold.Build.Entity
import Scaffold.Build.Store
import Scaffold.Check
import Scaffold.Render.Package
import Scaffold.Schema.Model

/-!
# Sessions

A session holds models while they are put together step by step. Entities and stores are kept once
and referred to by their number, so a change shows wherever the model is used, also in a package
that was assembled before.
-/

namespace Scaffold

/-- A store and the number of the entity that it belongs to. -/
structure LinkedStore where
  store : Store
  mainEntity : Option Nat
  deriving DecidableEq, Repr

/-- A package as the numbers of its parts. -/
structure Assembly where
  name : String
  path : String
  importPath : String
  store : Option Nat
  mainEntity : Option Nat
  entities : List Nat
  deriving DecidableEq, Repr

/-- Models in the making. -/
structure Session where
  config : Config := {}
  entities : List Entity := []
  /-- Which entity a name stands for, the latest first. -/
  names : List (String × Nat) := []
  stores : List LinkedStore := []
  /-- The store that steps work on. -/
  current : Option Nat := none
  assembly : Option Assembly := none

namespace Session

/-- The name of the primary entity. -/
def mainName : String := "main"

/-- The number of the entity that a name stands for. -/
def number? (session : Session) (name : String) : Option Nat :=
  session.names.lookup name

/-- The entity that a name stands for. -/
def entity? (session : Session) (name : String) : Option Entity := do
  session.entities[← session.number? name]?

/-- Takes up an entity without a name, and gives its number. -/
def keep (session : Session) (entity : Entity) : Session × Nat :=
  ({ session with entities := session.entities ++ [entity] }, session.entities.length)

/-- Takes up an entity under a name. -/
def addEntity (session : Session) (name : String) (entity : Entity) : Session :=
  let (session, number) := session.keep entity
  { session with names := (name, number) :: session.names }

/-- Reads an entity from source text and takes it up under a name. -/
def readEntity (session : Session) (name source packageName importPath : String)
    (sourcePath : Option String) : Except Error (Session × Entity) := do
  let entity ← Entity.ofSource session.config source packageName importPath sourcePath
  return (session.addEntity name entity, entity)

/-- Sets a member of the entity that a name stands for; nothing where the name stands for none. -/
def setEntityMember (session : Session) (name member : String) (value : Json) :
    Option (Except Error (Session × Entity)) := do
  let number ← session.number? name
  let entity ← session.entities[number]?
  return do
    let entity ← Schema.assign Entity.derivedNames entity member fun _ =>
      entity.setMember member value
    return ({ session with entities := session.entities.set number entity }, entity)

/-- A store with its entity as it is now. -/
def view (session : Session) (linked : LinkedStore) : Store :=
  { linked.store with
    mainEntity := linked.mainEntity.bind fun number => session.entities[number]? }

/-- The store that steps work on. -/
def store? (session : Session) : Option Store := do
  return session.view (← session.stores[← session.current]?)

/-- Changes the store that steps work on, and its link to an entity. -/
def updateStore (session : Session) (change : LinkedStore → LinkedStore) : Session :=
  match session.current with
  | none => session
  | some number => { session with stores := session.stores.modify number change }

/-- Puts another store in place of the one that steps work on; its link stays. -/
def putStore (session : Session) (store : Store) : Session :=
  session.updateStore fun linked => { linked with store }

/-- Reads a store from source text and works on it from now on. -/
def readStore (session : Session) (main source packageName : String)
    (sourcePath : Option String) : Except Error Session := do
  let store ← Store.ofSource source packageName (session.entity? main) sourcePath
  return {
    session with
    stores := session.stores ++ [⟨store, session.number? main⟩]
    current := some session.stores.length }

/-- Takes methods from another file into the store. What was taken before an error stays. -/
def harvest (session : Session) (store : Store) (source : String) (collectPublic : Bool)
    (sourcePath : Option String) : Session × Except Error Nat :=
  let (store, outcome) := store.harvest source collectPublic sourcePath
  (session.putStore store, outcome)

/-- Cuts the link between the store and its entity. -/
def unlink (session : Session) : Session :=
  session.updateStore fun linked => { linked with mainEntity := none }

/-- Sets a member of the store. A new entity for it is one of its own. -/
def setStoreMember (session : Session) (store : Store) (member : String) (value : Json) :
    Except Error Session := do
  let store ← Schema.assign Store.derivedNames store member fun _ => store.setMember member value
  if member = "main_entity" then
    match store.mainEntity with
    | none => return session.unlink
    | some entity =>
      let (session, number) := session.keep entity
      return session.updateStore fun linked => { linked with mainEntity := some number }
  else return session.putStore store

/-- The package of an assembly as its parts are now. -/
def packageOf (session : Session) (assembly : Assembly) : Package :=
  { name := assembly.name
    path := assembly.path
    importPath := assembly.importPath
    store := (assembly.store.bind fun number => session.stores[number]?).map session.view
    mainEntity := assembly.mainEntity.bind fun number => session.entities[number]?
    entities := assembly.entities.filterMap fun number => session.entities[number]? }

/-- The package that was assembled last. -/
def package? (session : Session) : Option Package :=
  session.assembly.map session.packageOf

/-- Assembles a package from the store and the entities of these names. -/
def assemble (session : Session) (name path importPath main : String) (others : List String) :
    Except Error (Session × Package) := do
  let assembly : Assembly :=
    { name, path, importPath
      store := session.current
      mainEntity := session.number? main
      entities := others.filterMap session.number? }
  let package ← (session.packageOf assembly).checked.orError
  return ({ session with assembly := some assembly }, package)

end Session

end Scaffold
