import Scaffold.Number.Decimal

/-!
# Document values

The values that configuration files, requests and manifests are made of. Whole numbers and decimal
literals are kept apart, and the members of an object keep the order in which they were written.
Some values cannot be written in JSON itself, but in the other notation for configuration files:
dates, and mappings whose keys are not texts.
-/

namespace Scaffold

/-- A number that is not finite, or no number at all. -/
inductive NotFinite where
  | infinity
  | minusInfinity
  | notNumber
  deriving DecidableEq, Repr

/-- A value of a document. -/
inductive Json where
  | null
  | bool (value : Bool)
  | int (value : Int)
  | real (value : Number.Decimal)
  | notFinite (kind : NotFinite)
  | str (value : String)
  /-- A text with half of a pair of code units, which stands for no character. -/
  | brokenStr
  /-- A date, or a date with a time, and how it is shown. -/
  | moment (withTime : Bool) (shown : String)
  | arr (items : List Json)
  | obj (members : List (String × Json))
  /-- An object some of whose keys are not texts. -/
  | mapping (members : List (Json × Json))
  deriving Inhabited

namespace Json

/-- Sets a member: a known key keeps its place, a new one comes last. -/
def setMember (key : String) (value : Json) : List (String × Json) → List (String × Json)
  | [] => [(key, value)]
  | (k, v) :: rest =>
    if k == key then (k, value) :: rest else (k, v) :: setMember key value rest

/-- Members with every key once, the value written last winning. -/
def mergeMembers (base members : List (String × Json)) : List (String × Json) :=
  members.foldl (fun all member => setMember member.1 member.2 all) base

/-- The value of a number, as a quotient. Truth values count as one and zero. -/
def quotient? : Json → Option (Int × Nat)
  | bool value => some (if value then 1 else 0, 1)
  | int value => some (value, 1)
  | real value => value.toDouble?.map fun double =>
    let (num, den) := double.quotient
    (if double.negative then -(num : Int) else num, den)
  | _ => none

/-- Two keys are one: numbers by their value, others by their text. -/
def sameKey (first second : Json) : Bool :=
  match first.quotient?, second.quotient? with
  | some (num, den), some (num', den') => num * den' == num' * den
  | none, none =>
    match first, second with
    | null, null => true
    | str text, str other => text == other
    | brokenStr, brokenStr => true
    | moment _ shown, moment _ other => shown == other
    | notFinite kind, notFinite other => kind == other && kind != .notNumber
    | _, _ => false
  | _, _ => false

/-- Sets the value of a key of any kind: a known key keeps its place, a new one comes last. -/
def setPair (key value : Json) : List (Json × Json) → List (Json × Json)
  | [] => [(key, value)]
  | (k, v) :: rest =>
    if sameKey k key then (k, value) :: rest else (k, v) :: setPair key value rest

/-- Pairs with every key once, the value written last winning. -/
def mergePairs (pairs : List (Json × Json)) : List (Json × Json) :=
  pairs.foldl (fun all pair => setPair pair.1 pair.2 all) []

/-- The mapping with these pairs: an object, if all keys are texts. -/
def ofPairs (pairs : List (Json × Json)) : Json :=
  let texts := pairs.filterMap fun (key, value) =>
    match key with
    | str key => some (key, value)
    | _ => none
  if texts.length = pairs.length then .obj texts else .mapping pairs

/-- The member of an object, if the value is an object that has it. -/
def get? (key : String) : Json → Option Json
  | obj members => members.lookup key
  | _ => none

/-- The text of a string value. -/
def str? : Json → Option String
  | str text => some text
  | _ => none

/-- The items of an array. -/
def arr? : Json → Option (List Json)
  | arr items => some items
  | _ => none

/-- The members of an object. -/
def obj? : Json → Option (List (String × Json))
  | obj members => some members
  | _ => none

end Json

end Scaffold
