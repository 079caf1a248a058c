import Scaffold.Model.Property
import Scaffold.Model.Service
import Scaffold.Source.Fault
import Scaffold.Source.Scan
import Scaffold.Text.Line

/-!
# Reading structs

A struct declaration begins a line and ends at the first line that begins with its closing brace.
The body of an entity's struct is read field by field; in a store's struct only the lines that
declare services count.
-/

namespace Scaffold.Source

/-- A declared struct: its name and the text between its braces. -/
structure StructBlock where
  name : String
  body : String
  deriving DecidableEq, Repr

/-- A struct declaration at the front of a text. -/
def structBlock? (text : Chars) : Option (StructBlock × Chars) := do
  let text ← someSpaces (← literal "type" text)
  let (name, text) ← identifier? text
  let text ← literal "struct" (← someSpaces text)
  let text ← lineEnd (← literal "\x7b" (skipSpaces text))
  let (body, rest) ← blockBody '}' text
  return (⟨String.ofList name, String.ofList body⟩, rest)

/-- The first struct that a source declares. -/
def findStruct (source : Chars) : Except SourceFault StructBlock :=
  match firstMatch? (onLineStart structBlock?) source with
  | some block => .ok block
  | none => .error .noStruct

/-- The field that a line of a struct body declares. Blank lines, comment lines and embedded types
declare none; a second comment on the line makes it ambiguous. -/
def readField (line : Chars) : Except SourceFault (Option Property) :=
  let line := Text.trim line
  let name := line.takeWhile fun c => !Text.isBlank c
  let rest := Text.trimStart (line.drop name.length)
  if line.isEmpty || (literal "//" line).isSome || rest.isEmpty || (literal "//" rest).isSome then
    .ok none
  else if !isIdentifier name then .error (.fieldDeclaration (String.ofList line))
  else
    let name := String.ofList name
    let declared (type comment : Chars) : Except SourceFault (Option Property) :=
      let type := Text.trimEnd type
      if type.isEmpty then .error (.fieldWithoutType name)
      else .ok (some ⟨name, String.ofList type, String.ofList comment⟩)
    match Text.splitOn "//" rest with
    | [type] => declared type []
    | [type, comment] => declared type (Text.trim comment)
    | chunks => .error (.fieldComments chunks.length name)

/-- The fields that a struct body declares, in order. -/
def readFields (body : Chars) : Except SourceFault (List Property) :=
  ((Text.lines body).mapM readField).map fun fields => fields.filterMap id

/-- The place ends a line. -/
def atLineEnd (text : Chars) : Bool :=
  text.head?.all (· == '\n')

/-- A pointer or value of a qualified type, as the declared type of a service. -/
def serviceType? (text : Chars) : Option (Chars × Chars) := do
  let star := if text.head? == some '*' then ['*'] else []
  let (package, rest) ← word? (text.drop star.length)
  let (symbol, rest) ← word? (← literal "." rest)
  return (star ++ package ++ '.' :: symbol, rest)

/-- A line that declares a service, up to its end. -/
def serviceLine? (text : Chars) : Option (Service × Chars) := do
  let (name, text) ← word? (skipSpaces text)
  let (type, text) ← serviceType? (← someSpaces text)
  let text := skipSpaces text
  let text := if (literal "//" text).isSome then text.dropWhile (· != '\n') else text
  if atLineEnd text then some (⟨String.ofList name, String.ofList type⟩, text) else none

/-- The services that a struct body declares, in order. -/
def readServices (body : Chars) : List Service :=
  allMatches (onLineStart serviceLine?) body

end Scaffold.Source
