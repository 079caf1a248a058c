import Scaffold.Text.Basic

/-!
# Bytes as hexadecimal digits

Every byte is written with two digits, the higher one first.
-/

namespace Scaffold.Text

/-- The digit with a value below sixteen. -/
def hexDigit (value : Nat) : Char :=
  (Nat.toDigits 16 value).headD '0'

/-- The value of a digit; other characters have none. -/
def hexDigitValue (c : Char) : Nat :=
  if '0' ≤ c && c ≤ '9' then c.toNat - '0'.toNat
  else if 'a' ≤ c && c ≤ 'f' then c.toNat - 'a'.toNat + 10
  else if 'A' ≤ c && c ≤ 'F' then c.toNat - 'A'.toNat + 10
  else 0

/-- Bytes as digits. -/
def hex (content : ByteArray) : String :=
  String.ofList (content.toList.flatMap fun byte =>
    [hexDigit (byte.toNat / 16), hexDigit (byte.toNat % 16)])

/-- The bytes that pairs of digits write. -/
def hexBytes : Chars → List UInt8
  | a :: b :: rest => UInt8.ofNat (16 * hexDigitValue a + hexDigitValue b) :: hexBytes rest
  | _ => []

/-- The bytes that a text writes with digits. -/
def ofHex (text : String) : ByteArray :=
  ⟨(hexBytes text.toList).toArray⟩

end Scaffold.Text
