import Scaffold.Text.Basic

/-!
# Places in a document

A cursor stands before the characters that are still to be read, and knows the line and the column
it stands in. Lines may end in several ways; the end of the document is shown as a character that
no document holds.
-/

namespace Scaffold.Yaml

/-- A place in a document. -/
structure Cursor where
  rest : Chars
  index : Nat := 0
  line : Nat := 0
  column : Nat := 0
  deriving DecidableEq, Repr

/-- What is seen behind the last character. -/
def endMark : Char := '\x00'

/-- The character ends a line. -/
def isBreak (c : Char) : Bool :=
  c == '\n' || c == '\r' || c == '\x85' || c == '\u2028' || c == '\u2029'

/-- A line or the document ends here. -/
def endsLine (c : Char) : Bool :=
  isBreak c || c == endMark

/-- A word ends here. -/
def isSeparator (c : Char) : Bool :=
  c == ' ' || c == '\t' || endsLine c

namespace Cursor

/-- The next character. -/
def peek (cursor : Cursor) : Char :=
  cursor.rest.headD endMark

/-- The character at an offset. -/
def peekAt (cursor : Cursor) (offset : Nat) : Char :=
  (cursor.rest.drop offset).headD endMark

/-- The place behind the next character. A byte order mark takes up no column. -/
def next (cursor : Cursor) : Cursor :=
  match cursor.rest with
  | [] => cursor
  | c :: rest =>
    if isBreak c && !(c == '\r' && rest.head? == some '\n') then
      { rest, index := cursor.index + 1, line := cursor.line + 1, column := 0 }
    else
      { rest, index := cursor.index + 1, line := cursor.line
        column := if c == '\ufeff' then cursor.column else cursor.column + 1 }

/-- The place behind the next so many characters. -/
def skip : Nat → Cursor → Cursor
  | 0, cursor => cursor
  | count + 1, cursor => skip count cursor.next

/-- The characters with a property from here on, and the place behind them. -/
def span (cursor : Cursor) (holds : Char → Bool) : Chars × Cursor :=
  let run := cursor.rest.takeWhile holds
  (run, cursor.skip run.length)

/-- The place behind spaces. -/
def skipSpaces (cursor : Cursor) : Cursor :=
  (cursor.span (· == ' ')).2

/-- The place behind spaces, but not beyond a column. -/
def skipSpacesTo (cursor : Cursor) (column : Nat) : Cursor :=
  let run := cursor.rest.takeWhile (· == ' ')
  cursor.skip (min run.length (column - cursor.column))

/-- The end of the line. -/
def skipLine (cursor : Cursor) : Cursor :=
  (cursor.span fun c => !isBreak c).2

/-- A line break as it counts in a text, and the place behind it. -/
def lineBreak? (cursor : Cursor) : Option (Char × Cursor) :=
  match cursor.rest with
  | '\r' :: '\n' :: _ => some ('\n', cursor.skip 2)
  | '\u2028' :: _ => some ('\u2028', cursor.next)
  | '\u2029' :: _ => some ('\u2029', cursor.next)
  | c :: _ => if isBreak c then some ('\n', cursor.next) else none
  | [] => none

/-- The next characters are a mark of three equal characters that stands alone. -/
def atMark (cursor : Cursor) (c : Char) : Bool :=
  cursor.rest.take 3 == [c, c, c] && isSeparator (cursor.peekAt 3)

/-- A document starts or ends here, if this is the start of a line. -/
def atDocumentMark (cursor : Cursor) : Bool :=
  cursor.atMark '-' || cursor.atMark '.'

end Cursor

end Scaffold.Yaml
