import Scaffold.Text.Basic

/-!
# Commands

What a script is made of. Words are made of pieces, and a piece may stand for a parameter, for the
output of a command or for the value of an expression. Commands are put together from simple ones.
The text of a script is seen as bytes; each is kept as the character with its number.
-/

namespace Scaffold.Shell

/-- What is made of the value of a parameter. -/
inductive Use where
  | value
  | length
  /-- A word where the parameter is not set, or also where it is empty. -/
  | orElse (orEmpty : Bool)
  /-- The same, and the parameter is set to the word. -/
  | orAssign (orEmpty : Bool)
  /-- The same, but as a complaint. -/
  | orFail (orEmpty : Bool)
  /-- A word where the parameter is set, or only where it is not empty. -/
  | ifSet (orEmpty : Bool)
  /-- The value without what fits a pattern at one of its ends. -/
  | without (atStart longest : Bool)
  /-- A use that means nothing. -/
  | unknown
  deriving DecidableEq, Repr

/-- What a redirection does to a channel. -/
inductive Redirecting where
  | read
  | write
  /-- Writes over a file that is there even if that is not wished. -/
  | overwrite
  | append
  | readWrite
  /-- Makes it a copy of another channel. -/
  | copy
  deriving DecidableEq, Repr

mutual

/-- A piece of a word. -/
inductive Piece where
  | text (quoted : Bool) (text : Chars)
  | parameter (quoted : Bool) (name : String) (use : Use) (word : List Piece)
  | output (quoted : Bool) (script : Option Command)
  | value (quoted : Bool) (expression : List Piece)

/-- A redirection of a channel. -/
inductive Redirection where
  | toWord (channel : Nat) (kind : Redirecting) (target : List Piece)
  /-- The channel reads a text of the script, which has a number. -/
  | fromText (channel : Nat) (number : Nat)

/-- A command. -/
inductive Command where
  | simple (line : Nat) (assignments : List (String × List Piece)) (words : List (List Piece))
      (redirections : List Redirection)
  | pipeline (commands : List Command)
  | background (command : Command)
  | negated (command : Command)
  | both (first second : Command)
  | either (first second : Command)
  | sequence (first second : Command)
  | redirected (line : Nat) (command : Command) (redirections : List Redirection)
  | subshell (line : Nat) (command : Command) (redirections : List Redirection)
  | branch (test yes : Command) (no : Option Command)
  | loop (endsWhenTrue : Bool) (test body : Command)
  | each (line : Nat) (name : String) (words : List (List Piece)) (body : Command)
  | choice (line : Nat) (word : List Piece) (cases : List (List (List Piece) × Option Command))
  | define (name : String) (body : Command)

end

/-- A word of a script. -/
abbrev Word := List Piece

instance : Inhabited Piece := ⟨.text false []⟩

instance : Inhabited Command := ⟨.simple 0 [] [] []⟩

/-- A letter or an underscore starts a name. -/
def startsName (c : Char) : Bool :=
  c.isAlpha || c == '_'

/-- A character of a name. -/
def isNamePart (c : Char) : Bool :=
  c.isAlphanum || c == '_'

/-- The text is a name. -/
def isName (text : Chars) : Bool :=
  text.head?.any startsName && text.all isNamePart

/-- A character that names a parameter by itself. -/
def isSpecial (c : Char) : Bool :=
  "!#$*-?@".toList.contains c || c.isDigit

/-- The name that a text starts with and sets, and the text behind the sign. -/
def assigned? (text : Chars) : Option (String × Chars) :=
  let name := text.takeWhile isNamePart
  match text.drop name.length with
  | '=' :: rest => if isName name then some (String.ofList name, rest) else none
  | _ => none

/-- The name that a word sets, and the word that it is set to. -/
def assignment? : Word → Option (String × Word)
  | .text false text :: rest =>
    (assigned? text).map fun (name, value) =>
      (name, if value.isEmpty then rest else .text false value :: rest)
  | _ => none

end Scaffold.Shell
