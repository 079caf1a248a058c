import Scaffold.Text.Basic
import Scaffold.Text.Printable

/-!
# Quoted text in notices

A text is shown between single quotes, or between double quotes where it holds a single quote and
no double one. Backslashes, the chosen quote and characters that do not print are escaped.
-/

namespace Scaffold.Text

/-- The last `width` hexadecimal digits of a number, in lower case. -/
def hexDigits (width number : Nat) : Chars :=
  (List.range width).reverse.map fun place => Nat.digitChar ((number >>> (4 * place)) % 16)

/-- A character as it stands between quotes. -/
def escapeQuoted (quote c : Char) : Chars :=
  if c == quote || c == '\\' then ['\\', c]
  else if c == '\t' then ['\\', 't']
  else if c == '\n' then ['\\', 'n']
  else if c == '\r' then ['\\', 'r']
  else if isPrintable c then [c]
  else if c.toNat < 0x100 then '\\' :: 'x' :: hexDigits 2 c.toNat
  else if c.toNat < 0x10000 then '\\' :: 'u' :: hexDigits 4 c.toNat
  else '\\' :: 'U' :: hexDigits 8 c.toNat

/-- The text between quotes. -/
def quoted (text : String) : String :=
  let quote := if text.toList.contains '\x27' && !text.toList.contains '"' then '"' else '\x27'
  String.ofList (quote :: text.toList.flatMap (escapeQuoted quote) ++ [quote])

end Scaffold.Text
