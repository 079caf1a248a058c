import Scaffold.Json.Reader
import Scaffold.Text.Blank

/-!
# Whole numbers written as texts

A whole number in its plain form is an optional minus and digits without a leading zero. Texts are
brought into that form first: blanks around the number, a plus, leading zeros, a fraction of zeros
and single underscores are dropped. Plain forms of more than a certain number of digits are not
read.
-/

namespace Scaffold.Schema

/-- What a text says as a whole number. -/
inductive WholeText where
  | value (number : Int)
  /-- A number that is too long to be read. -/
  | oversize
  | malformed
  deriving DecidableEq, Repr

/-- The number in a plain form. -/
def plainWhole (text : Chars) : WholeText :=
  let negative := text.head? == some '-'
  let unsigned := if negative then text.drop 1 else text
  let digits := unsigned.takeWhile Text.isAsciiDigit
  let complete := digits.length = unsigned.length
  match digits with
  | [] => .malformed
  | ['0'] => if complete then .value 0 else .malformed
  | '0' :: _ => .malformed
  | _ =>
    if Json.digitLimit < digits.length then .oversize
    else if complete then
      let number : Int := Json.digitsValue digits
      .value (if negative then -number else number)
    else .malformed

/-- A blank that may surround a number; the information separators may not. -/
def surroundsNumber (c : Char) : Bool :=
  Text.isBlank c && !(0x1C ≤ c.toNat && c.toNat ≤ 0x1F)

/-- The text without a plus, which a minus may not follow. -/
def dropPlus? : Chars → Option Chars
  | '+' :: '-' :: _ => none
  | '+' :: rest => some rest
  | text => some text

/-- The text behind leading zeros and the underscores among them. One character before a point or
the end is kept; a minus may stand behind zeros. -/
def zerosDropped? (last : Char) : Chars → Option Chars
  | [] => some [last]
  | c :: rest =>
    if c == '0' || c == '_' then zerosDropped? c rest
    else if ('1' ≤ c && c ≤ '9') || c == '-' then some (c :: rest)
    else if c == '.' then some (last :: c :: rest)
    else none

/-- The text without leading zeros; nothing where it starts like no number. -/
def dropZeros? : Chars → Option Chars
  | [] => none
  | c :: rest =>
    if c == '0' then zerosDropped? c rest
    else if ('1' ≤ c && c ≤ '9') || c == '-' then some (c :: rest)
    else none

/-- The text before a fraction of zeros. -/
def dropFraction (text : Chars) : Chars :=
  let whole := text.takeWhile (· != '.')
  let fraction := text.drop (whole.length + 1)
  if !fraction.isEmpty && fraction.all (· == '0') then whole else text

/-- Two underscores stand side by side. -/
def hasDoubleUnderscore : Chars → Bool
  | '_' :: '_' :: _ => true
  | _ :: rest => hasDoubleUnderscore rest
  | [] => false

/-- The text without underscores, if each of them stands alone inside it. -/
def dropUnderscores (text : Chars) : Chars :=
  if text.head? == some '_' || text.getLast? == some '_' || hasDoubleUnderscore text then text
  else text.filter (· != '_')

/-- The text of a number without a sign in front, brought into the plain form. -/
def normalDigits? (text : Chars) : Option Chars :=
  (dropZeros? text).map fun text => dropUnderscores (dropFraction text)

/-- The text brought into the plain form, where that is possible. -/
def normalWhole? (text : Chars) : Option Chars := do
  match ← dropPlus? (Text.dropEndWhile surroundsNumber (text.dropWhile surroundsNumber)) with
  | '-' :: digits => ('-' :: ·) <$> normalDigits? digits
  | digits => normalDigits? digits

/-- The whole number that a text writes. -/
def wholeOfText (text : Chars) : WholeText :=
  match plainWhole text with
  | .malformed => ((normalWhole? text).map plainWhole).getD .malformed
  | result => result

end Scaffold.Schema
