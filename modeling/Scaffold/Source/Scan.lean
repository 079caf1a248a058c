import Scaffold.Text.Blank
import Scaffold.Text.Word

/-!
# Scanning source text

A recogniser looks at one place of a text. `allMatches` takes what it finds from left to right
without overlap, `firstMatch?` the leftmost find. The small readers below take one token off the
front of a text and give back the rest.
-/

namespace Scaffold.Source

/-- What is found at a place, and the text after it; the character before the place is known. -/
abbrev Recogniser (α : Type) := Option Char → Chars → Option (α × Chars)

/-- The finds from a place on; `skip` characters still belong to the last find. -/
def matchesFrom {α : Type} (recognise : Recogniser α) (previous : Option Char) (skip : Nat) :
    Chars → List α
  | [] => []
  | c :: rest =>
    match skip with
    | skip + 1 => matchesFrom recognise (some c) skip rest
    | 0 =>
      match recognise previous (c :: rest) with
      | some (found, after) =>
        found :: matchesFrom recognise (some c) (rest.length - after.length) rest
      | none => matchesFrom recognise (some c) 0 rest

/-- All finds in a text, from left to right, none overlapping an earlier one. -/
def allMatches {α : Type} (recognise : Recogniser α) (text : Chars) : List α :=
  matchesFrom recognise none 0 text

/-- The leftmost find from a place on. -/
def searchFrom {α : Type} (recognise : Recogniser α) (previous : Option Char) :
    Chars → Option α
  | [] => none
  | c :: rest =>
    match recognise previous (c :: rest) with
    | some (found, _) => some found
    | none => searchFrom recognise (some c) rest

/-- The leftmost find in a text. -/
def firstMatch? {α : Type} (recognise : Recogniser α) (text : Chars) : Option α :=
  searchFrom recognise none text

/-- The place is the start of the text or follows a line feed. -/
def atLineStart (previous : Option Char) : Bool :=
  previous.all (· == '\n')

/-- A recogniser that only looks at the starts of lines. -/
def onLineStart {α : Type} (recognise : Chars → Option (α × Chars)) : Recogniser α :=
  fun previous text => if atLineStart previous then recognise text else none

/-- The text after a given word. -/
def literal (word : String) (text : Chars) : Option Chars :=
  word.toList.isPrefixOf? text

/-- The text after spaces and tabs. -/
def skipSpaces (text : Chars) : Chars :=
  text.dropWhile Text.isSpaceOrTab

/-- The text after at least one space or tab. -/
def someSpaces (text : Chars) : Option Chars :=
  match text with
  | c :: rest => if Text.isSpaceOrTab c then some (skipSpaces rest) else none
  | [] => none

/-- Skips spaces and tabs, at least `least` of them and as many as the continuation allows. -/
def backtrackSpaces {α : Type} (least : Nat) (continuation : Chars → Option α) :
    Chars → Option α
  | [] => if least = 0 then continuation [] else none
  | c :: rest =>
    (if Text.isSpaceOrTab c then backtrackSpaces (least - 1) continuation rest else none).or
      (if least = 0 then continuation (c :: rest) else none)

/-- A maximal, non-empty run of word characters. -/
def word? (text : Chars) : Option (Chars × Chars) :=
  let word := text.takeWhile Text.isWord
  if word.isEmpty then none else some (word, text.dropWhile Text.isWord)

/-- A character that an identifier may begin with. -/
def startsIdentifier (c : Char) : Bool :=
  Text.isAsciiLetter c || c == '_'

/-- The text is one identifier. -/
def isIdentifier : Chars → Bool
  | [] => false
  | c :: rest => startsIdentifier c && rest.all Text.isWord

/-- A maximal identifier. -/
def identifier? (text : Chars) : Option (Chars × Chars) :=
  match text with
  | c :: _ => if startsIdentifier c then word? text else none
  | [] => none

/-- The text after spaces, tabs and one line feed. -/
def lineEnd (text : Chars) : Option Chars :=
  literal "\n" (skipSpaces text)

/-- The text up to the first line that begins with `close`, and the text after that character.
`lineStart` says whether the text itself begins a line. -/
def bodyFrom (close : Char) (lineStart : Bool) : Chars → Option (Chars × Chars)
  | [] => none
  | c :: rest =>
    if lineStart && c == close then some ([], rest)
    else (bodyFrom close (c == '\n') rest).map fun (body, after) => (c :: body, after)

/-- The body of a block whose opening line has been read. -/
def blockBody (close : Char) (text : Chars) : Option (Chars × Chars) :=
  bodyFrom close true text

/-- A non-empty text in double quotes. -/
def quotedText? (text : Chars) : Option (Chars × Chars) := do
  let text ← literal "\"" text
  let inside := text.takeWhile (· != '"')
  let rest ← literal "\"" (text.drop inside.length)
  if inside.isEmpty then none else some (inside, rest)

end Scaffold.Source
