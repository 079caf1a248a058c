/-!
# Text as a list of characters

Scanning is recursion on the list of a text's characters. This module holds the searches and cuts
that do not depend on what kind of characters they meet.
-/

namespace Scaffold

/-- A text taken apart into its characters. -/
abbrev Chars := List Char

namespace Text

/-- The part stands somewhere in the text. -/
def occursIn (part : Chars) : Chars → Bool
  | [] => part.isEmpty
  | c :: rest => part.isPrefixOf (c :: rest) || occursIn part rest

/-- The part stands somewhere in the text. -/
def contains (text part : String) : Bool :=
  occursIn part.toList text.toList

/-- The text begins with the given start. -/
def startsWith (text start : String) : Bool :=
  start.toList.isPrefixOf text.toList

/-- The text ends with the given ending. -/
def endsWith (text ending : String) : Bool :=
  ending.toList.isSuffixOf text.toList

/-- Puts a character in front of the first piece. -/
def consHead (c : Char) : List Chars → List Chars
  | [] => [[c]]
  | piece :: pieces => (c :: piece) :: pieces

/-- The pieces between occurrences of a separator, found from the left and not overlapping;
`skip` characters still belong to the last occurrence. -/
def splitFrom (separator : Chars) (skip : Nat) : Chars → List Chars
  | [] => [[]]
  | c :: rest =>
    match skip with
    | skip + 1 => splitFrom separator skip rest
    | 0 =>
      if separator.isPrefixOf (c :: rest) then
        [] :: splitFrom separator (separator.length - 1) rest
      else consHead c (splitFrom separator 0 rest)

/-- The pieces of a text between occurrences of a non-empty separator; there is always one. -/
def splitOn (separator : String) (text : Chars) : List Chars :=
  splitFrom separator.toList 0 text

/-- The text up to the first occurrence of a separator, or all of it. -/
def before (separator : String) (text : Chars) : Chars :=
  (splitOn separator text).headD []

/-- The text without the characters at its end that satisfy the test. -/
def dropEndWhile (test : Char → Bool) (text : Chars) : Chars :=
  (text.reverse.dropWhile test).reverse

/-- The last element, or a default where there is none. -/
def lastOr {α : Type} (default : α) (items : List α) : α :=
  items.getLast?.getD default

end Text

end Scaffold
