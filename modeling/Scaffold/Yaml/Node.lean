import Scaffold.Yaml.Scanner

/-!
# Nodes of documents

A document is a node: a scalar, a sequence of nodes, or a mapping from nodes to nodes. A node may
have a name, and may then stand again where its name is called.
-/

namespace Scaffold.Yaml

/-- A node. Its kind is given only where the document gives it; a plain scalar without one is what
its spelling says. -/
inductive Node where
  | scalar (tag : Option String) (plain : Bool) (text : ScalarText)
  | sequence (tag : Option String) (items : List Node)
  | mapping (tag : Option String) (members : List (Node × Node))
  deriving Inhabited

namespace Node

/-- The node that is not written. -/
def empty : Node := .scalar none true (some [])

/-- What the names of the common kinds start with. -/
def coreKinds : String := "tag:yaml.org,2002:"

/-- The handles that every document has. -/
def defaultHandles : List (String × String) := [("!", "!"), ("!!", coreKinds)]

/-- What nodes are built from, and the names given so far. -/
structure Source where
  tokens : List Token
  handles : List (String × String) := defaultHandles
  named : List (String × Node) := []
  /-- How many collections are being read. -/
  depth : Nat := 0

namespace Source

/-- How many collections may stand inside each other. -/
def depthLimit : Nat := 489

/-- Starts to read a collection. -/
def enter (source : Source) : Except ReadFault Source :=
  if source.depth < depthLimit then .ok { source with depth := source.depth + 1 }
  else .error .tooDeep

/-- A collection has been read. -/
def leave (source : Source) : Source :=
  { source with depth := source.depth - 1 }

/-- Gives a name that is not taken to a node. -/
def declare (source : Source) (name : Option String) (node : Node) : Except ReadFault Source :=
  match name with
  | none => .ok source
  | some name =>
    if (source.named.lookup name).isSome then .error .malformed
    else .ok { source with named := (name, node) :: source.named }

/-- Gives the whole of a node to a name that its start was given to. -/
def complete (source : Source) (name : Option String) (node : Node) : Source :=
  { source with named := (name.map fun name => (name, node)).toList ++ source.named }

/-- The full name of a kind. -/
def kind (source : Source) (handle : Option String) (name : String) : Except ReadFault String :=
  match handle with
  | none => .ok name
  | some handle =>
    (source.handles.lookup handle).elim (.error .malformed) fun start => .ok (start ++ name)

/-- The name and the kind before a node, in either order. -/
def properties (source : Source) :
    Except ReadFault (Option String × Option String × Source) := do
  match source.tokens with
  | .anchor name :: .tag handle kind :: rest =>
    return (some name, some (← source.kind handle kind), { source with tokens := rest })
  | .tag handle kind :: .anchor name :: rest =>
    return (some name, some (← source.kind handle kind), { source with tokens := rest })
  | .anchor name :: rest => return (some name, none, { source with tokens := rest })
  | .tag handle kind :: rest =>
    return (none, some (← source.kind handle kind), { source with tokens := rest })
  | _ => return (none, none, source)

end Source

/-- A scalar with the kind given to it; a single exclamation mark leaves the kind to the
spelling. -/
def ofScalar (kind : Option String) (plain : Bool) (text : ScalarText) : Node :=
  if kind == some "!" then .scalar none true text else .scalar kind plain text

/-- The kind given to a collection. -/
def collectionKind (kind : Option String) : Option String :=
  kind.filter (· != "!")

/-- Where a node stands. -/
structure Place where
  /-- Outside brackets, where indented collections may stand. -/
  block : Bool
  /-- The items of a sequence may stand without an indent. -/
  indentless : Bool

/-- A token before which a node is left out behind an item's dash. -/
def endsItem (indentless : Bool) : Token → Bool
  | .blockEntry | .blockEnd => true
  | .key | .value => indentless
  | _ => false

/-- A token before which a key or a value is left out in an indented mapping. -/
def endsMember : Token → Bool
  | .key | .value | .blockEnd => true
  | _ => false

/-- A token before which a key is left out inside brackets. -/
def endsFlowKey (close : Token) (token : Token) : Bool :=
  token == .value || token == .flowEntry || token == close

/-- A token before which a value is left out inside brackets. -/
def endsFlowValue (close : Token) (token : Token) : Bool :=
  token == .flowEntry || token == close

mutual

/-- A node. The number bounds the steps. -/
def read (place : Place) : Nat → Source → Except ReadFault (Node × Source)
  | 0, _ => .error .malformed
  | fuel + 1, source => do
    match source.tokens with
    | .reference name :: rest =>
      (source.named.lookup name).elim (.error .malformed) fun node =>
        .ok (node, { source with tokens := rest })
    | _ =>
      let (name, kind, source) ← source.properties
      let sequence (items : Source → Except ReadFault (List Node × Source)) (source : Source) := do
        let source ← source.declare name (.sequence (collectionKind kind) [])
        let (items, source) ← items (← source.enter)
        let node := Node.sequence (collectionKind kind) items
        pure (node, source.leave.complete name node)
      let mapping (members : Source → Except ReadFault (List (Node × Node) × Source))
          (source : Source) := do
        let source ← source.declare name (.mapping (collectionKind kind) [])
        let (members, source) ← members (← source.enter)
        let node := Node.mapping (collectionKind kind) members
        pure (node, source.leave.complete name node)
      let otherwise := do
        if name.isSome || kind.isSome then
          let node := Node.ofScalar kind (kind.isNone) (some [])
          pure (node, ← source.declare name node)
        else .error .malformed
      match source.tokens with
      | .scalar plain text :: rest =>
        let node := Node.ofScalar kind plain text
        return (node, { ← source.declare name node with tokens := rest })
      | .flowSequenceStart :: rest =>
        sequence (flowItems true fuel) { source with tokens := rest }
      | .flowMappingStart :: rest =>
        mapping (flowMembers true fuel) { source with tokens := rest }
      | .blockEntry :: _ =>
        if place.indentless then sequence (blockItems true fuel) source else otherwise
      | .blockSequenceStart :: rest =>
        if place.block then sequence (blockItems false fuel) { source with tokens := rest }
        else otherwise
      | .blockMappingStart :: rest =>
        if place.block then mapping (blockMembers fuel) { source with tokens := rest }
        else otherwise
      | _ => otherwise

/-- A node, or an empty one before a token of a kind. -/
def readUnless (ends : Token → Bool) (place : Place) :
    Nat → Source → Except ReadFault (Node × Source)
  | 0, _ => .error .malformed
  | fuel + 1, source =>
    if source.tokens.head?.any ends then .ok (.empty, source) else read place fuel source

/-- What follows a colon, or an empty node where there is none. -/
def readValue (ends : Token → Bool) (place : Place) :
    Nat → Source → Except ReadFault (Node × Source)
  | 0, _ => .error .malformed
  | fuel + 1, source =>
    match source.tokens with
    | .value :: rest => readUnless ends place fuel { source with tokens := rest }
    | _ => .ok (.empty, source)

/-- The items of an indented sequence. One without an indent of its own ends where no item
follows. -/
def blockItems (indentless : Bool) : Nat → Source → Except ReadFault (List Node × Source)
  | 0, _ => .error .malformed
  | fuel + 1, source =>
    match source.tokens with
    | .blockEntry :: rest => do
      let (item, source) ←
        readUnless (endsItem indentless) ⟨true, false⟩ fuel { source with tokens := rest }
      let (items, source) ← blockItems indentless fuel source
      return (item :: items, source)
    | .blockEnd :: rest => .ok ([], if indentless then source else { source with tokens := rest })
    | _ => if indentless then .ok ([], source) else .error .malformed

/-- The members of an indented mapping. -/
def blockMembers : Nat → Source → Except ReadFault (List (Node × Node) × Source)
  | 0, _ => .error .malformed
  | fuel + 1, source =>
    match source.tokens with
    | .key :: rest => do
      let (key, source) ← readUnless endsMember ⟨true, true⟩ fuel { source with tokens := rest }
      let (value, source) ← readValue endsMember ⟨true, true⟩ fuel source
      let (members, source) ← blockMembers fuel source
      return ((key, value) :: members, source)
    | .blockEnd :: rest => .ok ([], { source with tokens := rest })
    | _ => .error .malformed

/-- The items of a sequence in brackets. A key starts a mapping with one member. -/
def flowItems (first : Bool) : Nat → Source → Except ReadFault (List Node × Source)
  | 0, _ => .error .malformed
  | fuel + 1, source =>
    match source.tokens with
    | .flowSequenceEnd :: rest => .ok ([], { source with tokens := rest })
    | .flowEntry :: .flowSequenceEnd :: rest =>
      if first then .error .malformed else .ok ([], { source with tokens := rest })
    | .flowEntry :: rest =>
      if first then .error .malformed else item fuel { source with tokens := rest }
    | _ => if first then item fuel source else .error .malformed

/-- An item in brackets and those that follow it. -/
def item : Nat → Source → Except ReadFault (List Node × Source)
  | 0, _ => .error .malformed
  | fuel + 1, source => do
    let (item, source) ←
      match source.tokens with
      | .key :: rest => do
        let (key, source) ← readUnless (endsFlowKey .flowSequenceEnd) ⟨false, false⟩ fuel
          { ← source.enter with tokens := rest }
        let (value, source) ←
          readValue (endsFlowValue .flowSequenceEnd) ⟨false, false⟩ fuel source
        pure (Node.mapping none [(key, value)], source.leave)
      | _ => read ⟨false, false⟩ fuel source
    let (items, source) ← flowItems false fuel source
    return (item :: items, source)

/-- The members of a mapping in brackets. -/
def flowMembers (first : Bool) : Nat → Source → Except ReadFault (List (Node × Node) × Source)
  | 0, _ => .error .malformed
  | fuel + 1, source =>
    match source.tokens with
    | .flowMappingEnd :: rest => .ok ([], { source with tokens := rest })
    | .flowEntry :: .flowMappingEnd :: rest =>
      if first then .error .malformed else .ok ([], { source with tokens := rest })
    | .flowEntry :: rest =>
      if first then .error .malformed else member fuel { source with tokens := rest }
    | _ => if first then member fuel source else .error .malformed

/-- A member in brackets and those that follow it. One without a key's sign has no value. -/
def member : Nat → Source → Except ReadFault (List (Node × Node) × Source)
  | 0, _ => .error .malformed
  | fuel + 1, source => do
    let (member, source) ←
      match source.tokens with
      | .key :: rest => do
        let (key, source) ← readUnless (endsFlowKey .flowMappingEnd) ⟨false, false⟩ fuel
          { source with tokens := rest }
        let (value, source) ←
          readValue (endsFlowValue .flowMappingEnd) ⟨false, false⟩ fuel source
        pure ((key, value), source)
      | _ => do
        let (key, source) ← read ⟨false, false⟩ fuel source
        pure ((key, .empty), source)
    let (members, source) ← flowMembers false fuel source
    return (member :: members, source)

end

/-! ## Documents -/

/-- The directives before a document: its handles, and the tokens behind them. A version or a
handle is given once. -/
def directives (version : Bool) (handles : List (String × String)) :
    List Token → Except ReadFault (List (String × String) × List Token)
  | .directive (.version major) :: rest =>
    if version || major != 1 then .error .malformed else directives true handles rest
  | .directive (.tagHandle handle start) :: rest =>
    if (handles.lookup handle).isSome then .error .malformed
    else directives version ((handle, start) :: handles) rest
  | .directive .other :: rest => directives version handles rest
  | tokens => .ok (handles ++ defaultHandles, tokens)

/-- Nothing but ends of documents follows. -/
def endsHere (tokens : List Token) : Bool :=
  tokens.all (· == .documentEnd)

/-- A token before which a document is empty. -/
def endsDocument : Token → Bool
  | .directive _ | .documentStart | .documentEnd => true
  | _ => false

/-- The only document of a text. -/
def ofTokens (tokens : List Token) : Except ReadFault Node := do
  let fuel := 4 * tokens.length + 8
  let (node, source) ←
    match tokens with
    | [] => pure (Node.empty, { tokens })
    | .directive _ :: _ | .documentStart :: _ =>
      let (handles, tokens) ← directives false [] tokens
      match tokens with
      | .documentStart :: rest =>
        if rest.isEmpty then pure (Node.empty, { tokens := rest })
        else readUnless endsDocument ⟨true, false⟩ fuel { tokens := rest, handles }
      | _ => .error .malformed
    | _ => read ⟨true, false⟩ fuel { tokens }
  if endsHere source.tokens then return node else .error .malformed

end Node

end Scaffold.Yaml
