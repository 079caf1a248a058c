import Scaffold.Yaml.Node
import Scaffold.Yaml.Scalar

/-!
# The value of a document

Scalars stand for values by their kind or their spelling, and the collections for those of what
they hold. Mappings may take over members of others. Of several faults the one nearest to the top
counts.
-/

namespace Scaffold.Yaml

/-- A reason why a node has no value, and how deep in it the reason lies. -/
structure DeepFault where
  depth : Nat
  cause : ReadFault
  deriving DecidableEq, Repr

/-- All values, or the fault that lies the least deep, the first one of several. -/
def settle {α : Type} (outcomes : List (Except DeepFault α)) : Except DeepFault (List α) :=
  let lowest : Option DeepFault :=
    outcomes.foldl
      (fun found outcome =>
        match outcome, found with
        | .error fault, none => some fault
        | .error fault, some best => if fault.depth < best.depth then some fault else found
        | .ok _, _ => found)
      none
  match lowest with
  | some fault => .error { fault with depth := fault.depth + 1 }
  | none => .ok (outcomes.filterMap Except.toOption)

/-- The common kind that a full name names. -/
def commonKind? (kind : String) : Option String :=
  if Text.startsWith kind Node.coreKinds then
    some (String.ofList (kind.toList.drop Node.coreKinds.length))
  else none

namespace Node

/-- What a scalar stands for. -/
def leaf (kind : Option String) (plain : Bool) (text : ScalarText) : Leaf :=
  match kind, text with
  | none, some text => if plain then resolve text else .value (.str (String.ofList text))
  | none, none => .value .brokenStr
  | some kind, some text => ofKind ((commonKind? kind).getD "") text
  | some kind, none =>
    if commonKind? kind == some "str" then .value .brokenStr else .fault .malformed

/-- The key stands for members that are merged. -/
def isMerge : Node → Bool
  | .scalar kind plain text =>
    match leaf kind plain text with
    | .merge => true
    | _ => false
  | _ => false

/-- The members of a mapping, those merged into it first. The number bounds the depth. -/
def flatten : Nat → List (Node × Node) → Except ReadFault (List (Node × Node))
  | 0, _ => .error .malformed
  | depth + 1, members => do
    let merged ← (members.filter fun (key, _) => isMerge key).mapM fun (_, value) =>
      match value with
      | .mapping _ inner => flatten depth inner
      | .sequence _ items => do
        let parts ← items.mapM fun item =>
          match item with
          | .mapping _ inner => flatten depth inner
          | _ => .error .malformed
        pure parts.reverse.flatten
      | .scalar .. => .error .malformed
    return merged.flatten ++ members.filter fun (key, _) => !isMerge key

/-- The value of a scalar. -/
def leafValue (leaf : Leaf) : Except DeepFault Json :=
  match leaf with
  | .value value => .ok value
  | .fault cause => .error ⟨0, cause⟩
  | .merge | .fallback => .error ⟨0, .malformed⟩

/-- The value of a key: only that of a scalar can be one. -/
def keyValue : Node → Except DeepFault Json
  | .scalar kind plain text =>
    match leaf kind plain text with
    | .fallback => .ok (text.elim .brokenStr fun text => .str (String.ofList text))
    | leaf => leafValue leaf
  | _ => .error ⟨0, .malformed⟩

/-- The kind of a collection, where it is one of the common ones; it need not be given. -/
def kindOr (usual : String) (kind : Option String) : String :=
  kind.elim usual fun kind => (commonKind? kind).getD ""

/-- The value of a node. The number bounds the depth. -/
def value : Nat → Node → Except DeepFault Json
  | 0, _ => .error ⟨0, .malformed⟩
  | depth + 1, node =>
    let members (members : List (Node × Node)) : Except DeepFault (List (Json × Json)) := do
      let flat ← (flatten (depth + 1) members).mapError fun cause => ⟨1, cause⟩
      let values ← settle (flat.flatMap fun (key, item) => [keyValue key, value depth item])
      return Json.mergePairs (pairUp values)
    match node with
    | .scalar kind plain text => leafValue (leaf kind plain text)
    | .sequence kind items =>
      match kindOr "seq" kind with
      | "seq" => (settle (items.map (value depth))).map Json.arr
      | "omap" | "pairs" => do
        let pairs ← settle (items.flatMap fun item =>
          match item with
          | .mapping _ [(key, item)] => [value depth key, value depth item]
          | _ => [.error ⟨0, .malformed⟩])
        return .arr ((pairUp pairs).map fun (key, value) => .arr [key, value])
      | _ => .error ⟨0, .malformed⟩
    | .mapping kind inner =>
      match kindOr "map" kind with
      | "map" => (members inner).map Json.ofPairs
      | "set" => (members inner).map fun pairs => .arr (pairs.map Prod.fst)
      | _ => .error ⟨0, .malformed⟩
where
  /-- Every two values as a pair. -/
  pairUp : List Json → List (Json × Json)
    | first :: second :: rest => (first, second) :: pairUp rest
    | _ => []

end Node

/-- A character that a document may hold. -/
def isAdmitted (c : Char) : Bool :=
  c == '\t' || c == '\n' || c == '\r' || c == '\x85' || (' ' ≤ c && c ≤ '~') ||
    ('\xa0' ≤ c && c != '\ufffe' && c != '\uffff')

/-- The value of a text that holds one document; an empty one is null. -/
def parse (text : String) : Except ReadFault Json :=
  if text.toList.all isAdmitted then do
    let tokens ← tokens text.toList
    let node ← Node.ofTokens tokens
    (node.value (tokens.length + 2)).mapError DeepFault.cause
  else .error .malformed

end Scaffold.Yaml
