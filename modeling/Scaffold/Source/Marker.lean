import Scaffold.Source.Struct
import Scaffold.Text.Basic

/-!
# Marked structs

A comment line that begins with the marker makes the struct below it an entity. The marker has to
stand alone: followed by a word character or a hyphen it is another directive.
-/

namespace Scaffold.Source

/-- A comment that begins with the marker, at the front of a line; the continuation reads what
follows the marker. -/
def markerComment? {α : Type} (marker : Chars) (continuation : Chars → Option α) (text : Chars) :
    Option α := do
  let text ← literal "//" (skipSpaces text)
  backtrackSpaces 0 (fun text => do continuation (← marker.isPrefixOf? text)) text

/-- The character continues a directive. -/
def continuesDirective (c : Char) : Bool :=
  Text.isWord c || c == '-'

/-- A marker that stands alone. -/
def marking? (marker text : Chars) : Option (Unit × Chars) :=
  markerComment? marker
    (fun rest => if rest.head?.any continuesDirective then none else some ((), rest)) text

/-- How often a source carries the marker. -/
def countMarkings (marker source : Chars) : Nat :=
  (allMatches (onLineStart (marking? marker)) source).length

/-- A source carries the marker at least once. -/
def isMarked (marker source : Chars) : Bool :=
  (firstMatch? (onLineStart (marking? marker)) source).isSome

/-- The line is a comment. -/
def isCommentLine (line : Chars) : Bool :=
  (literal "//" (skipSpaces line)).isSome

/-- The text after the comment lines at its front. -/
def skipCommentLines (text : Chars) : Chars :=
  let comments := (Text.splitOn "\n" text).dropLast.takeWhile isCommentLine
  text.drop (comments.flatMap fun line => line ++ ['\n']).length

/-- A marker line, comment lines and a struct. -/
def markedStruct? (marker text : Chars) : Option (StructBlock × Chars) :=
  markerComment? marker
    (fun rest => do structBlock? (skipCommentLines (← lineEnd rest))) text

/-- The struct below the one marker of a source. -/
def findMarkedStruct (marker source : Chars) : Except SourceFault StructBlock :=
  let count := countMarkings marker source
  if count ≠ 1 then .error (.markerCount (String.ofList marker) count)
  else
    match firstMatch? (onLineStart (markedStruct? marker)) source with
    | some block => .ok block
    | none => .error (.noMarkedStruct (String.ofList marker))

end Scaffold.Source
