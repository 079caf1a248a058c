import Scaffold.Text.Basic

/-!
# Lines

Two notions of line meet here. Lists of fields and methods are cut at every line boundary, old and
new; files are read with all three newline conventions turned into the line feed.
-/

namespace Scaffold.Text

/-- A character at which a line may end. -/
def isLineBreak (c : Char) : Bool :=
  [0xA, 0xB, 0xC, 0xD, 0x1C, 0x1D, 0x1E, 0x85, 0x2028, 0x2029].contains c.toNat

/-- The lines of a text without their ends; a carriage return and line feed end one line. -/
def lines : Chars → List Chars
  | [] => []
  | '\r' :: '\n' :: rest => [] :: lines rest
  | c :: rest => if isLineBreak c then [] :: lines rest else consHead c (lines rest)

/-- Every newline convention as the line feed. -/
def unifyNewlines : Chars → Chars
  | [] => []
  | '\r' :: '\n' :: rest => '\n' :: unifyNewlines rest
  | c :: rest => (if c == '\r' then '\n' else c) :: unifyNewlines rest

/-- How many line feeds a text holds. -/
def lineFeeds (text : String) : Nat :=
  text.toList.count '\n'

/-- Lines with a line feed between neighbours. -/
def joinLines (lines : List String) : String :=
  "\n".intercalate lines

end Scaffold.Text
