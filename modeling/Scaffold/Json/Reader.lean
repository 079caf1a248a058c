import Scaffold.Json.Basic
import Scaffold.Text.Basic
import Scaffold.Text.Word

/-!
# Reading documents

The grammar of JSON, with `NaN` and the infinities admitted as values. Control characters inside
strings, a leading zero, a trailing comma and text after the document are refused. Of members with
one key the last counts. A whole number has a greatest length, and nesting a greatest depth.
-/

namespace Scaffold

/-- Why a document has no value. -/
inductive ReadFault where
  /-- The text does not follow the grammar. -/
  | malformed
  /-- A scalar is written as its kind demands, and stands for no value of that kind. -/
  | unconvertible
  /-- Collections stand inside each other deeper than they can be followed. -/
  | tooDeep
  deriving DecidableEq, Repr

namespace Json

/-- White space between tokens. -/
def isSpace (c : Char) : Bool :=
  c == ' ' || c == '\t' || c == '\n' || c == '\r'

/-- The text after white space. -/
def skipSpace (text : Chars) : Chars :=
  text.dropWhile isSpace

/-- The value of a hexadecimal digit. -/
def hexValue? (c : Char) : Option Nat :=
  if '0' ≤ c && c ≤ '9' then some (c.toNat - '0'.toNat)
  else if 'a' ≤ c && c ≤ 'f' then some (c.toNat - 'a'.toNat + 10)
  else if 'A' ≤ c && c ≤ 'F' then some (c.toNat - 'A'.toNat + 10)
  else none

/-- The number written with four hexadecimal digits. -/
def hexUnit? (a b c d : Char) : Option Nat := do
  let a ← hexValue? a
  let b ← hexValue? b
  let c ← hexValue? c
  let d ← hexValue? d
  return 4096 * a + 256 * b + 16 * c + d

/-- The character that a one-letter escape stands for. -/
def escaped? (c : Char) : Option Char :=
  match c with
  | '"' => some '"'
  | '\\' => some '\\'
  | '/' => some '/'
  | 'b' => some '\x08'
  | 'f' => some '\x0c'
  | 'n' => some '\n'
  | 'r' => some '\r'
  | 't' => some '\t'
  | _ => none

/-- The units of a string up to its closing quote, and the text after the quote. A unit is a code
point, or half of one written as a pair of escapes. -/
def stringUnits : Chars → Option (List Nat × Chars)
  | [] => none
  | '"' :: rest => some ([], rest)
  | '\\' :: 'u' :: a :: b :: c :: d :: rest => do
    let unit ← hexUnit? a b c d
    let (units, after) ← stringUnits rest
    return (unit :: units, after)
  | '\\' :: c :: rest => do
    let c ← escaped? c
    let (units, after) ← stringUnits rest
    return (c.toNat :: units, after)
  | c :: rest =>
    if c.toNat < 0x20 then none
    else do
      let (units, after) ← stringUnits rest
      return (c.toNat :: units, after)

/-- The first half of a code point beyond U+FFFF. -/
def isHighUnit (unit : Nat) : Bool :=
  0xD800 ≤ unit && unit ≤ 0xDBFF

/-- The second half of a code point beyond U+FFFF. -/
def isLowUnit (unit : Nat) : Bool :=
  0xDC00 ≤ unit && unit ≤ 0xDFFF

/-- The characters of a list of units; nothing where half a pair stands alone. -/
def joinUnits? : List Nat → Option Chars
  | [] => some []
  | [unit] => if isHighUnit unit || isLowUnit unit then none else some [Char.ofNat unit]
  | high :: low :: rest =>
    if isHighUnit high && isLowUnit low then do
      let more ← joinUnits? rest
      return Char.ofNat (0x10000 + (high - 0xD800) * 0x400 + (low - 0xDC00)) :: more
    else if isHighUnit high || isLowUnit high then none
    else do
      let more ← joinUnits? (low :: rest)
      return Char.ofNat high :: more

/-- A string whose opening quote has been read. -/
def string? (text : Chars) : Option (Json × Chars) := do
  let (units, rest) ← stringUnits text
  return ((joinUnits? units).elim .brokenStr fun text => .str (String.ofList text), rest)

/-- The number that decimal digits spell. -/
def digitsValue (digits : Chars) : Nat :=
  digits.foldl (fun value c => 10 * value + (c.toNat - '0'.toNat)) 0

/-- How many decimal digits a whole number may have. -/
def digitLimit : Nat := 4300

/-- The digits of a fraction, and the text after it; none where no point with digits follows. -/
def fraction? (text : Chars) : Option (Chars × Chars) :=
  match text with
  | '.' :: rest =>
    let digits := rest.takeWhile Text.isAsciiDigit
    if digits.isEmpty then none else some (digits, rest.dropWhile Text.isAsciiDigit)
  | _ => none

/-- A signed exponent, and the text after it; none where no exponent with digits follows. -/
def exponent? (text : Chars) : Option (Int × Chars) :=
  match text with
  | mark :: rest =>
    if mark == 'e' || mark == 'E' then
      let (negative, rest) :=
        match rest with
        | '-' :: rest => (true, rest)
        | '+' :: rest => (false, rest)
        | rest => (false, rest)
      let digits := rest.takeWhile Text.isAsciiDigit
      if digits.isEmpty then none
      else
        let value : Int := digitsValue digits
        some (if negative then -value else value, rest.dropWhile Text.isAsciiDigit)
    else none
  | [] => none

/-- A number after its sign. A fraction or an exponent makes it a decimal literal. -/
def number (negative : Bool) (text : Chars) : Except ReadFault (Json × Chars) :=
  let whole :=
    match text with
    | '0' :: _ => ['0']
    | _ => text.takeWhile Text.isAsciiDigit
  if whole.isEmpty then .error .malformed
  else
    let rest := text.drop whole.length
    let (places, afterPlaces) := (fraction? rest).getD ([], rest)
    let power := exponent? afterPlaces
    if places.isEmpty && power.isNone then
      if digitLimit < whole.length then .error .unconvertible
      else
        let value : Int := digitsValue whole
        .ok (.int (if negative then -value else value), rest)
    else
      let (shift, after) := power.getD (0, afterPlaces)
      let digits := digitsValue (whole ++ places)
      .ok (.real ⟨negative, digits, shift - places.length⟩, after)

/-- The words that are values. -/
def literals : List (String × Json) :=
  [("null", .null), ("true", .bool true), ("false", .bool false), ("NaN", .notFinite .notNumber),
   ("Infinity", .notFinite .infinity), ("-Infinity", .notFinite .minusInfinity)]

/-- A value that is one word. -/
def literal (text : Chars) : Except ReadFault (Json × Chars) :=
  (literals.findSome? fun (word, value) =>
    (word.toList.isPrefixOf? text).map fun rest => (value, rest)).elim (.error .malformed) .ok

/-- A string whose opening quote has been read. -/
def string (text : Chars) : Except ReadFault (Json × Chars) :=
  (string? text).elim (.error .malformed) .ok

/-- The text of a key; one that stands for no characters is shown by the replacement character. -/
def keyText : Json → String
  | .str text => text
  | _ => "\ufffd"

/-- How many arrays and objects may stand inside each other. -/
def depthLimit : Nat := 988

mutual

/-- One value and the text after it. The first number is how many arrays and objects may still be
opened; the second bounds the steps. -/
def value : Nat → Nat → Chars → Except ReadFault (Json × Chars)
  | _, 0, _ => .error .malformed
  | depth, fuel + 1, text =>
    match text with
    | '"' :: rest => string rest
    | '[' :: rest =>
      if depth = 0 then .error .tooDeep
      else
        match skipSpace rest with
        | ']' :: rest => .ok (.arr [], rest)
        | rest => do
          let (items, rest) ← items (depth - 1) fuel rest
          return (.arr items, rest)
    | '{' :: rest =>
      if depth = 0 then .error .tooDeep
      else
        match skipSpace rest with
        | '}' :: rest => .ok (.obj [], rest)
        | rest => do
          let (members, rest) ← members (depth - 1) fuel rest
          return (.obj (mergeMembers [] members), rest)
    | '-' :: rest => if rest.head?.any Text.isAsciiDigit then number true rest else literal text
    | _ => if text.head?.any Text.isAsciiDigit then number false text else literal text

/-- The items of an array from the first one on, up to and past its bracket. -/
def items : Nat → Nat → Chars → Except ReadFault (List Json × Chars)
  | _, 0, _ => .error .malformed
  | depth, fuel + 1, text => do
    let (item, rest) ← value depth fuel (skipSpace text)
    match skipSpace rest with
    | ',' :: rest =>
      let (items, rest) ← items depth fuel rest
      return (item :: items, rest)
    | ']' :: rest => return ([item], rest)
    | _ => .error .malformed

/-- The members of an object from the first one on, up to and past its brace. -/
def members : Nat → Nat → Chars → Except ReadFault (List (String × Json) × Chars)
  | _, 0, _ => .error .malformed
  | depth, fuel + 1, text =>
    match skipSpace text with
    | '"' :: rest => do
      let (key, rest) ← string rest
      match skipSpace rest with
      | ':' :: rest =>
        let (value, rest) ← value depth fuel (skipSpace rest)
        match skipSpace rest with
        | ',' :: rest =>
          let (members, rest) ← members depth fuel rest
          return ((keyText key, value) :: members, rest)
        | '}' :: rest => return ([(keyText key, value)], rest)
        | _ => .error .malformed
      | _ => .error .malformed
    | _ => .error .malformed

end

/-- The value that a document holds. -/
def parse (document : String) : Except ReadFault Json := do
  let text := document.toList
  let (value, rest) ← value depthLimit (text.length + 1) (skipSpace text)
  if (skipSpace rest).isEmpty then .ok value else .error .malformed

end Json

end Scaffold
