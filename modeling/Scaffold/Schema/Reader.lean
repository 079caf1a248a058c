import Scaffold.Json.Basic
import Scaffold.Number.Shortest
import Scaffold.Schema.Problem
import Scaffold.Schema.Whole

/-!
# Reading checked values

Readers take a value of a document and give what it stands for, or all its problems. Numbers and
flags may also be written as texts; texts may not be written as anything else.
-/

namespace Scaffold.Schema

/-- A reader of values. -/
abbrev Reader (α : Type) := Json → Checked α

/-- A text of at least the given number of characters. -/
def text (least : Nat) : Reader String
  | .str value => if value.length < least then .fail .stringTooShort else .good value
  | .brokenStr => .fail .stringUnicode
  | _ => .fail .stringType

/-- A value or nothing. -/
def optional {α : Type} (read : Reader α) : Reader (Option α)
  | .null => .good none
  | value => some <$> read value

/-- The whole number fits into 64 bits. -/
def isShort (value : Int) : Bool :=
  -0x8000000000000000 ≤ value && value < 0x8000000000000000

/-- The whole number that a double is equal to, if it lies strictly inside the range of 64 bits. -/
def shortOfDouble? (double : Number.Double) : Option Int :=
  double.toInt?.filter fun value => isShort value && value != -0x8000000000000000

/-- A whole number. -/
def whole : Reader Int
  | .int value => .good value
  | .bool value => .good (if value then 1 else 0)
  | .real value =>
    match value.toDouble? with
    | none => .fail .finiteNumber
    | some double =>
      if double.toInt?.isNone then .fail .intFromFloat
      else (shortOfDouble? double).elim (.fail .intParsingSize) .good
  | .notFinite _ => .fail .finiteNumber
  | .str value =>
    match wholeOfText value.toList with
    | .value n => .good n
    | .oversize => .fail .intParsingSize
    | .malformed => .fail .intParsing
  | .brokenStr => .fail .stringUnicode
  | _ => .fail .intType

/-- A whole number that is not negative. -/
def natural : Reader Nat := fun value =>
  (whole value).andThen fun n => if n < 0 then .fail .greaterThanEqual else .good n.toNat

/-- A whole number between zero and a greatest one. -/
def naturalUpTo (most : Nat) : Reader Nat := fun value =>
  (natural value).andThen fun n => if most < n then .fail .lessThanEqual else .good n

/-- The words that stand for a flag that is not set. -/
def falseWords : List String := ["0", "off", "f", "false", "n", "no"]

/-- The words that stand for a flag that is set. -/
def trueWords : List String := ["1", "on", "t", "true", "y", "yes"]

/-- A flag. -/
def flag : Reader Bool
  | .bool value => .good value
  | .int value => if isShort value then ofWhole value else .fail .boolType
  | .real value =>
    ((value.toDouble?.bind shortOfDouble?).map ofWhole).getD (.fail .boolType)
  | .str value =>
    let word := String.ofList (value.toList.map Char.toLower)
    if falseWords.contains word then .good false
    else if trueWords.contains word then .good true
    else .fail .boolParsing
  | .brokenStr => .fail .stringUnicode
  | _ => .fail .boolType
where
  ofWhole (value : Int) : Checked Bool :=
    if value = 0 then .good false else if value = 1 then .good true else .fail .boolParsing

/-- A list; every element is checked. -/
def list {α : Type} (read : Reader α) : Reader (List α)
  | .arr items =>
    .all (items.zipIdx.map fun (item, number) => (read item).within (.index number))
  | _ => .fail .listType

/-- A list with at least one element. -/
def nonEmptyList {α : Type} (read : Reader α) : Reader (List α)
  | .arr [] => .fail .tooShort
  | value => list read value

/-- The step that leads to the value of a key. -/
def stepOfKey : Json → Step
  | .str name => .key name
  | .int value => if isShort value then .index value else .key (toString value)
  | .bool value => .index (if value then 1 else 0)
  | .real value =>
    .key (value.toDouble?.elim (if value.negative then "-inf" else "inf") Number.Double.shortest)
  | .notFinite .infinity => .key "inf"
  | .notFinite .minusInfinity => .key "-inf"
  | .notFinite .notNumber => .key "nan"
  | .moment _ shown => .key shown
  | _ => .key "None"

/-- A key of a table. -/
def tableKey (key : Json) : Checked String :=
  (text 0 key).within (.key "[key]")

/-- A table from names to values; every key and every value is checked. -/
def table {α : Type} (read : Reader α) : Reader (List (String × α))
  | .obj members => entries (members.map fun (name, value) => (.str name, value))
  | .mapping members => entries members
  | _ => .fail .dictType
where
  entries (members : List (Json × Json)) : Checked (List (String × α)) :=
    .all (members.map fun (key, value) =>
      (Prod.mk <$> tableKey key <*> read value).within (stepOfKey key))

/-- The members of an object. -/
abbrev Members := List (String × Json)

/-- A member that may not be left out. -/
def required {α : Type} (members : Members) (name : String) (read : Reader α) : Checked α :=
  ((members.lookup name).elim (.fail .missing) read).within (.key name)

/-- A member that has a default. -/
def member {α : Type} (members : Members) (name : String) (read : Reader α) (default : α) :
    Checked α :=
  match members.lookup name with
  | some value => (read value).within (.key name)
  | none => .good default

/-- Members whose names are not known are problems. -/
def noOthers (known : List String) (members : Members) : Checked Unit :=
  match members.filter fun (name, _) => !known.contains name with
  | [] => .good ()
  | others => .bad (others.map fun (name, _) => ⟨[.key name], .extraForbidden⟩)

/-- The members of a mapping whose keys are texts. -/
def textMembers (members : List (Json × Json)) : Members :=
  members.filterMap fun (key, value) =>
    match key with
    | .str name => some (name, value)
    | _ => none

/-- The keys of a mapping that are not texts are problems. -/
def onlyTexts (members : List (Json × Json)) : Checked Unit :=
  match members.filter fun (key, _) => !key.str?.isSome with
  | [] => .good ()
  | others => .bad (others.map fun (key, _) => ⟨[stepOfKey key], .invalidKey⟩)

/-- An object with known members only. -/
def object {α : Type} (known : List String) (read : Members → Checked α) : Reader α
  | .obj members => named members
  | .mapping members =>
    (fun value _ => value) <$> named (textMembers members) <*> onlyTexts members
  | _ => .fail .modelType
where
  named (members : Members) : Checked α :=
    (fun value _ => value) <$> read members <*> noOthers known members

end Scaffold.Schema
