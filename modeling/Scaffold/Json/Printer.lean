import Scaffold.Json.Basic
import Scaffold.Text.Basic
import Scaffold.Text.Quoted

/-!
# Writing documents

Strings escape the quote, the backslash and control characters; all other characters stand as they
are. A document is written on one line, or with one value a line and a fixed indent for each level.
-/

namespace Scaffold.Json

/-- A character as it stands inside a string. -/
def escape (c : Char) : Chars :=
  if c == '"' || c == '\\' then ['\\', c]
  else if c == '\n' then ['\\', 'n']
  else if c == '\r' then ['\\', 'r']
  else if c == '\t' then ['\\', 't']
  else if c == '\x08' then ['\\', 'b']
  else if c == '\x0c' then ['\\', 'f']
  else if c.toNat < 0x20 then '\\' :: 'u' :: Text.hexDigits 4 c.toNat
  else [c]

/-- A text as a string of a document. -/
def quote (text : String) : String :=
  String.ofList ('"' :: text.toList.flatMap escape ++ ['"'])

/-- A decimal literal. -/
def realText (d : Number.Decimal) : String :=
  (if d.negative then "-" else "") ++ toString d.digits ++ "e" ++ toString d.exponent

mutual

/-- A value; `breaks level` is the white space before what stands at that level. -/
def render (breaks : Nat → String) (comma colon : String) (level : Nat) : Json → String
  | null => "null"
  | bool value => if value then "true" else "false"
  | int value => toString value
  | real value => realText value
  | notFinite .infinity => "Infinity"
  | notFinite .minusInfinity => "-Infinity"
  | notFinite .notNumber => "NaN"
  | str text => quote text
  | brokenStr => quote "\ufffd"
  | moment _ shown => quote shown
  | arr [] => "[]"
  | arr items =>
    "[" ++ renderItems breaks comma colon (level + 1) items ++ breaks level ++ "]"
  | obj [] => "\x7b\x7d"
  | obj members =>
    "\x7b" ++ renderMembers breaks comma colon (level + 1) members ++ breaks level ++ "\x7d"
  | mapping members =>
    "\x7b" ++ renderPairs breaks comma colon (level + 1) members ++ breaks level ++ "\x7d"

/-- The items of an array, each behind its break. -/
def renderItems (breaks : Nat → String) (comma colon : String) (level : Nat) :
    List Json → String
  | [] => ""
  | [item] => breaks level ++ render breaks comma colon level item
  | item :: rest =>
    breaks level ++ render breaks comma colon level item ++ comma ++
      renderItems breaks comma colon level rest

/-- The members of an object, each behind its break. -/
def renderMembers (breaks : Nat → String) (comma colon : String) (level : Nat) :
    List (String × Json) → String
  | [] => ""
  | [(key, value)] =>
    breaks level ++ quote key ++ colon ++ render breaks comma colon level value
  | (key, value) :: rest =>
    breaks level ++ quote key ++ colon ++ render breaks comma colon level value ++ comma ++
      renderMembers breaks comma colon level rest

/-- The members of a mapping, each behind its break. -/
def renderPairs (breaks : Nat → String) (comma colon : String) (level : Nat) :
    List (Json × Json) → String
  | [] => ""
  | [(key, value)] =>
    breaks level ++ render breaks comma colon level key ++ colon ++
      render breaks comma colon level value
  | (key, value) :: rest =>
    breaks level ++ render breaks comma colon level key ++ colon ++
      render breaks comma colon level value ++ comma ++ renderPairs breaks comma colon level rest

end

/-- The document on one line. -/
def compact (value : Json) : String :=
  render (fun _ => "") "," ":" 0 value

/-- The document on one line, with spaces between its parts. -/
def oneLine (value : Json) : String :=
  render (fun _ => "") ", " ": " 0 value

/-- The document with every item and member on a line of its own, behind a unit for each level. -/
def indented (unit : String) (value : Json) : String :=
  render (fun level => "\n" ++ String.join (List.replicate level unit)) "," ": " 0 value

/-- The document with every item and member on a line of its own, behind spaces. -/
def pretty (indent : Nat) (value : Json) : String :=
  indented (String.ofList (List.replicate indent ' ')) value

end Scaffold.Json
