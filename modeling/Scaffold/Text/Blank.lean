import Scaffold.Text.Basic
import Scaffold.Text.Ranges

/-!
# Blank characters

White space of every script, the four information separators included. Trimming and cutting into
words go by this class.
-/

namespace Scaffold.Text

/-- The ranges of white space. -/
def blankRanges : List (Nat × Nat) :=
  [(0x9, 0xD), (0x1C, 0x20), (0x85, 0x85), (0xA0, 0xA0), (0x1680, 0x1680), (0x2000, 0x200A),
   (0x2028, 0x2029), (0x202F, 0x202F), (0x205F, 0x205F), (0x3000, 0x3000)]

/-- A white-space character. -/
def isBlank (c : Char) : Bool :=
  inRanges blankRanges c.toNat

/-- The space or the tab: the blanks that stay on a line. -/
def isSpaceOrTab (c : Char) : Bool :=
  c == ' ' || c == '\t'

/-- The text without blanks at its start. -/
def trimStart (text : Chars) : Chars :=
  text.dropWhile isBlank

/-- The text without blanks at its end. -/
def trimEnd (text : Chars) : Chars :=
  dropEndWhile isBlank text

/-- The text without blanks at either end. -/
def trim (text : Chars) : Chars :=
  trimEnd (trimStart text)

/-- The first word and those after it; a blank ends a word. -/
def wordsFrom : Chars → Chars × List Chars
  | [] => ([], [])
  | c :: rest =>
    let (word, others) := wordsFrom rest
    if isBlank c then ([], if word.isEmpty then others else word :: others)
    else (c :: word, others)

/-- The maximal blank-free pieces of a text. -/
def words (text : Chars) : List Chars :=
  let (word, others) := wordsFrom text
  if word.isEmpty then others else word :: others

/-- The words of a text with one space between neighbours. -/
def collapse (text : Chars) : Chars :=
  [' '].intercalate (words text)

end Scaffold.Text
