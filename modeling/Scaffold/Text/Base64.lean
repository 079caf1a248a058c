import Scaffold.Text.Basic

/-!
# Bytes written as text

Four characters of an alphabet of sixty-four write three bytes. Characters outside the alphabet are
passed over, and padding ends the text.
-/

namespace Scaffold.Text

/-- The six bits that a character writes. -/
def sixBits? (c : Char) : Option Nat :=
  if 'A' ≤ c && c ≤ 'Z' then some (c.toNat - 'A'.toNat)
  else if 'a' ≤ c && c ≤ 'z' then some (c.toNat - 'a'.toNat + 26)
  else if '0' ≤ c && c ≤ '9' then some (c.toNat - '0'.toNat + 52)
  else if c == '+' then some 62
  else if c == '/' then some 63
  else none

/-- The bytes of the rest of a text, behind so many characters of a group with these bits left over
and so many signs of padding. -/
def base64From (place left pads : Nat) : Chars → Option (List UInt8)
  | [] => if place = 0 then some [] else none
  | c :: rest =>
    if c == '=' then
      if place < 2 then base64From place left pads rest
      else if 4 ≤ place + pads + 1 then some []
      else base64From place left (pads + 1) rest
    else
      match sixBits? c with
      | none => base64From place left pads rest
      | some bits =>
        let emit (byte : Nat) :=
          (base64From ((place + 1) % 4) bits 0 rest).map (UInt8.ofNat byte :: ·)
        match place with
        | 0 => base64From 1 bits 0 rest
        | 1 => emit (left * 4 + bits / 16)
        | 2 => emit (left % 16 * 16 + bits / 4)
        | _ => emit (left % 4 * 64 + bits)

/-- The bytes that a text writes; there are none for one that is cut off or not ASCII. -/
def base64? (text : Chars) : Option (List UInt8) :=
  if text.all (· < '\x80') then base64From 0 0 0 text else none

end Scaffold.Text
