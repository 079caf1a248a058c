import Scaffold.Text.Base64
import Scaffold.Yaml.Moment

/-!
# What plain scalars stand for

A plain scalar is a truth value, nothing, a number, a moment or a text, as its spelling says. Two
spellings are signs that only the keys of a mapping may have.
-/

namespace Scaffold.Yaml

/-- What a scalar stands for. -/
inductive Leaf where
  | value (value : Json)
  /-- Nothing, for a reason. -/
  | fault (cause : ReadFault)
  /-- The key of members that are merged into a mapping. -/
  | merge
  /-- The key of a mapping's default value. -/
  | fallback

/-- The spellings of `true`. -/
def trueSpellings : List String :=
  ["yes", "Yes", "YES", "true", "True", "TRUE", "on", "On", "ON"]

/-- The spellings of `false`. -/
def falseSpellings : List String :=
  ["no", "No", "NO", "false", "False", "FALSE", "off", "Off", "OFF"]

/-- The spellings of nothing. -/
def nullSpellings : List String := ["", "~", "null", "Null", "NULL"]

/-- A sign and what follows it. -/
def signed (text : Chars) : Bool × Chars :=
  match text with
  | '-' :: rest => (true, rest)
  | '+' :: rest => (false, rest)
  | _ => (false, text)

/-- The digits without the underscores between them. -/
def withoutUnderscores (text : Chars) : Chars :=
  text.filter (· != '_')

/-- A digit or an underscore. -/
def isDigitPart (c : Char) : Bool :=
  Text.isAsciiDigit c || c == '_'

/-- The value of digits in a base. -/
def digitsIn (base : Nat) (digits : Chars) : Nat :=
  digits.foldl (fun value c => value * base + (Json.hexValue? c).getD 0) 0

/-- The text is a digit and further digits or underscores. -/
def isGrouped (text : Chars) : Bool :=
  text.head?.any Text.isAsciiDigit && text.all isDigitPart

/-- The text is one of the sixty units of a higher unit. -/
def isSixtieth (text : Chars) : Bool :=
  text.all Text.isAsciiDigit && (text.length = 1 || (text.length = 2 && text.head?.any (· ≤ '5')))

/-! ## Whole numbers -/

/-- A whole number of decimal digits, if these are not too many. -/
def decimalDigits (digits : Chars) : Except ReadFault Nat :=
  if Json.digitLimit < digits.length then .error .unconvertible else .ok (digitsIn 10 digits)

/-- The digits of a whole number in a base; there has to be one. -/
def basedDigits (base : Nat) (digits : Chars) : Except ReadFault Nat :=
  let digits := withoutUnderscores digits
  if digits.isEmpty then .error .unconvertible else .ok (digitsIn base digits)

/-- A whole number without its sign, where the text is written like one. A leading zero makes it
octal. -/
def natural? (text : Chars) : Option (Except ReadFault Nat) :=
  let allIn (digits : Chars) (holds : Char → Bool) :=
    !digits.isEmpty && digits.all fun c => holds c || c == '_'
  match text with
  | ['0'] => some (.ok 0)
  | '0' :: 'b' :: digits =>
    if allIn digits fun c => c == '0' || c == '1' then some (basedDigits 2 digits) else none
  | '0' :: 'x' :: digits =>
    if allIn digits fun c => (Json.hexValue? c).isSome then some (basedDigits 16 digits) else none
  | '0' :: digits =>
    if allIn digits fun c => '0' ≤ c && c ≤ '7' then some (basedDigits 8 ('0' :: digits)) else none
  | _ =>
    match Text.splitOn ":" text with
    | [digits] =>
      if isGrouped digits then some (decimalDigits (withoutUnderscores digits)) else none
    | first :: units =>
      if isGrouped first && units.all isSixtieth then
        some (do
          let highest ← decimalDigits (withoutUnderscores first)
          return units.foldl (fun value unit => value * 60 + digitsIn 10 unit) highest)
      else none
    | [] => none

/-- A whole number, where the text is written like one. -/
def whole? (text : Chars) : Option Leaf :=
  let (negative, digits) := signed text
  (natural? digits).map fun outcome =>
    match outcome with
    | .ok n => .value (.int (if negative then -(n : Int) else n))
    | .error cause => .fault cause

/-! ## Numbers with a point -/

/-- The exponent that ends a number with a point; its sign has to be written. -/
def exponentAfter? (text : Chars) : Option Int :=
  match text with
  | [] => some 0
  | mark :: sign :: digits =>
    if (mark == 'e' || mark == 'E') && (sign == '-' || sign == '+') && !digits.isEmpty &&
        digits.all Text.isAsciiDigit then
      some (if sign == '-' then -(digitsIn 10 digits : Int) else digitsIn 10 digits)
    else none
  | _ => none

/-- The number with these digits before and behind its point. -/
def pointed (negative : Bool) (whole places : Chars) (exponent : Int) : Number.Decimal :=
  let places := withoutUnderscores places
  { negative
    digits := digitsIn 10 (withoutUnderscores whole ++ places)
    exponent := exponent - places.length }

/-- A number with a point, its digits in tens. -/
def decimal? (text : Chars) : Option Number.Decimal :=
  let (negative, body) := signed text
  let whole := body.takeWhile isDigitPart
  match body.drop whole.length with
  | '.' :: rest =>
    let places := rest.takeWhile isDigitPart
    let starts :=
      if whole.isEmpty then isGrouped places && body.length = text.length else isGrouped whole
    if starts then
      (exponentAfter? (rest.drop places.length)).map (pointed negative whole places)
    else none
  | _ => none

/-- The sum of a double and sixty to a power times another one, rounded after each step. -/
def addSixties? (sum digit : Number.Double) (power : Nat) : Option Number.Double := do
  let product ←
    if digit.significand = 0 then some digit
    else
      let (num, den) := digit.quotient
      Number.Double.ofQuotient? false (num * Nat.pow 60 power) den
  let (num, den) := sum.quotient
  let (num', den') := product.quotient
  let total := num * den' + num' * den
  if total = 0 then some sum else Number.Double.ofQuotient? false total (den * den')

/-- The sum of units of sixty, the lowest first. -/
def sumSixties? (sum : Number.Double) (power : Nat) : List Number.Decimal → Option Number.Double
  | [] => some sum
  | unit :: rest => do
    let sum ← addSixties? sum (← unit.toDouble?) power
    sumSixties? sum (power + 1) rest

/-- A number with a point, written in units of sixty. -/
def sixties? (text : Chars) : Option Json :=
  let (negative, body) := signed text
  match (Text.splitOn ":" body).reverse with
  | last :: higher :: highest => do
    let units := higher :: highest
    let whole := last.takeWhile (· != '.')
    let places ← (last.drop whole.length).tail?
    if isSixtieth whole && places.all isDigitPart && units.dropLast.all isSixtieth &&
        units.getLast?.any isGrouped then
      let numbers := pointed false whole places 0 :: units.map fun unit => pointed false unit [] 0
      match sumSixties? ⟨false, 0, 0⟩ 0 numbers with
      | some sum => some (.real { sum.toDecimal with negative })
      | none => some (.notFinite (if negative then .minusInfinity else .infinity))
    else none
  | _ => none

/-- The spellings of numbers that are not finite. -/
def notFinite? (text : Chars) : Option NotFinite :=
  let (negative, body) := signed text
  if [".inf", ".Inf", ".INF"].contains (String.ofList body) then
    some (if negative then .minusInfinity else .infinity)
  else if [".nan", ".NaN", ".NAN"].contains (String.ofList text) then some .notNumber
  else none

/-- A number with a point, where the text is written like one. -/
def real? (text : Chars) : Option Json :=
  ((decimal? text).map Json.real).orElse fun _ =>
    (sixties? text).orElse fun _ => (notFinite? text).map Json.notFinite

/-! ## Everything -/

/-- A moment, where the text is written like one. -/
def moment? (text : Chars) : Option Leaf :=
  (Moment.ofText? text).map fun moment =>
    if moment.isValid then .value (.moment moment.time.isSome moment.render)
    else .fault .unconvertible

/-- What a plain scalar without a kind stands for. -/
def resolve (text : Chars) : Leaf :=
  let word := String.ofList text
  if trueSpellings.contains word then .value (.bool true)
  else if falseSpellings.contains word then .value (.bool false)
  else if nullSpellings.contains word then .value .null
  else if word == "<<" then .merge
  else if word == "=" then .fallback
  else
    (((real? text).map Leaf.value).orElse fun _ =>
      (whole? text).orElse fun _ => moment? text).getD (.value (.str word))

/-! ## Scalars of a given kind -/

/-- A number written with digits only, or with an exponent and no sign in it. -/
def looseReal? (text : Chars) : Option Json :=
  let (negative, body) := signed text
  let mantissa := body.takeWhile fun c => isDigitPart c || c == '.'
  let whole := mantissa.takeWhile (· != '.')
  let places := mantissa.drop (whole.length + 1)
  let exponent :=
    match body.drop mantissa.length with
    | mark :: digit :: rest =>
      if Text.isAsciiDigit digit then exponentAfter? (mark :: '+' :: digit :: rest)
      else exponentAfter? (mark :: digit :: rest)
    | rest => exponentAfter? rest
  if (whole ++ places).any Text.isAsciiDigit && places.all (· != '.') then
    exponent.map fun exponent => .real (pointed negative whole places exponent)
  else none

/-- The value of a word for yes or no, in any case. -/
def flag? (word : String) : Option Bool :=
  if trueSpellings.contains word.toLower then some true
  else if falseSpellings.contains word.toLower then some false
  else none

/-- The text that bytes write. -/
def ofBytes (bytes : List UInt8) : Json :=
  (String.fromUTF8? ⟨bytes.toArray⟩).elim .brokenStr .str

/-- What a text stands for as a scalar of a common kind. -/
def ofKind (kind : String) (text : Chars) : Leaf :=
  let orUnconvertible (value : Option Json) := value.elim (Leaf.fault .unconvertible) .value
  match kind with
  | "str" => .value (.str (String.ofList text))
  | "null" => .value .null
  | "bool" => orUnconvertible ((flag? (String.ofList text)).map .bool)
  | "int" => (whole? text).getD (.fault .unconvertible)
  | "float" => orUnconvertible ((real? text).orElse fun _ => looseReal? text)
  | "timestamp" => (moment? text).getD (.fault .unconvertible)
  | "binary" => (Text.base64? text).elim (.fault .malformed) fun bytes => .value (ofBytes bytes)
  | "merge" => .merge
  | "value" => .fallback
  | _ => .fault .malformed

end Scaffold.Yaml
