import Scaffold.Shell.State

/-!
# Fields

What the words of a script stand for is divided into fields: where it comes from a parameter or a
command outside quotes, the separators in it divide it.
-/

namespace Scaffold.Shell

/-- Where a character of a word comes from. -/
inductive Origin where
  /-- The script itself. -/
  | script
  | quoted
  /-- A parameter or a command outside quotes. -/
  | result
  deriving DecidableEq, Repr

/-- A part of what a word stands for. -/
inductive Item where
  | char (c : Char) (origin : Origin)
  /-- There is a field here, even if it is empty. -/
  | hold
  /-- A field ends here. -/
  | gap
  deriving DecidableEq, Repr

namespace Item

/-- A text of one origin. -/
def ofText (origin : Origin) (text : Chars) : List Item :=
  text.map fun c => .char c origin

/-- A text that is the result of something, inside or outside quotes. -/
def ofResult (quoted : Bool) (text : Chars) : List Item :=
  if quoted then .hold :: ofText .quoted text else ofText .result text

/-- Texts with gaps between them. -/
def ofTexts (quoted : Bool) (texts : List Chars) : List Item :=
  [Item.gap].intercalate (texts.map (ofResult quoted))

/-- The items as one text; a sign stands for gaps. -/
def toMarked (sign : Chars) (items : List Item) : Marked :=
  items.flatMap fun item =>
    match item with
    | .char c origin => [(c, origin == .quoted)]
    | .hold => []
    | .gap => sign.map fun c => (c, false)

end Item

/-- The fields that are being divided. -/
structure Division where
  done : List Marked := []
  current : Option Marked := none
  /-- Blank separators ended the last field, so that another separator adds to them. -/
  pends : Bool := false

namespace Division

/-- Ends the current field. -/
def finish (division : Division) : Division :=
  match division.current with
  | some field => { done := division.done ++ [field.reverse], current := none, pends := false }
  | none => division

/-- Adds a character to the current field. -/
def add (division : Division) (c : Char × Bool) : Division :=
  { division with current := some (c :: division.current.getD []), pends := false }

/-- Goes over one item. -/
def step (separators : Chars) (division : Division) : Item → Division
  | .hold => { division with current := some (division.current.getD []), pends := false }
  | .gap => { division.finish with pends := false }
  | .char c origin =>
    if origin == .result && separators.contains c then
      if c == ' ' || c == '\t' || c == '\n' then
        if division.current.isSome then { division.finish with pends := true } else division
      else if division.current.isSome then division.finish
      else if division.pends then { division with pends := false }
      else { division with done := division.done ++ [[]] }
    else division.add (c, origin == .quoted)

end Division

/-- The fields of what a word stands for. -/
def fields (separators : Chars) (items : List Item) : List Marked :=
  (items.foldl (Division.step separators) {}).finish.done

namespace State

/-- The sign between arguments that are put together. -/
def joint (state : State) : Chars :=
  match state.bindings.get? "IFS" with
  | none => [' ']
  | some separators => separators.take 1

/-- A text of a word that starts with a tilde stands for a home directory. -/
def home? (state : State) (name : Chars) : Option Chars :=
  if name.isEmpty then state.bindings.get? "HOME"
  else if name == "root".toList then some "/root".toList
  else none

/-- The pieces of a text with its tilde read, where it starts with one. `isWhole` tells that
nothing follows the text. -/
def readTilde (state : State) (isWhole : Bool) (text : Chars) : Word :=
  match text with
  | '~' :: rest =>
    let name := rest.takeWhile (· != '/')
    let after := rest.drop name.length
    if after.isEmpty && !isWhole then [.text false text]
    else
      match state.home? name with
      | some home =>
        if after.isEmpty then [.text true home] else [.text true home, .text false after]
      | none => [.text false text]
  | _ => [.text false text]

/-- A word with its tilde read. -/
def withHome (state : State) : Word → Word
  | .text false text :: rest => state.readTilde rest.isEmpty text ++ rest
  | word => word

/-- A value that a variable is set to, with tildes read at its start and behind colons. -/
def withHomes (state : State) (word : Word) : Word :=
  let places := word.zipIdx
  places.flatMap fun (piece, place) =>
    match piece with
    | .text false text =>
      let parts := Text.splitOn ":" text
      let read := parts.zipIdx.map fun (part, number) =>
        let starts := number != 0 || place = 0
        let isWhole := number + 1 < parts.length || place + 1 = word.length
        if starts then state.readTilde isWhole part else [.text false part]
      [Piece.text false [':']].intercalate read
    | piece => [piece]

end State

end Scaffold.Shell
