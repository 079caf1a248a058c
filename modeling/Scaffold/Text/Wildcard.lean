import Scaffold.Text.Basic

/-!
# Patterns of names

In a pattern `*` stands for any text, `?` for any character and a bracketed set for one of its
characters; `[!…]` is the complement of a set. A bracket that is never closed stands for itself.
Ranges whose ends are in the wrong order are struck out, and what is left of the set counts.
-/

namespace Scaffold.Text

/-- A piece of a pattern. -/
inductive Wildcard where
  | exactly (c : Char)
  | anyChar
  | anyText
  /-- One of the characters in some ranges, or none of them. -/
  | oneOf (negated : Bool) (ranges : List (Char × Char))
  deriving DecidableEq, Repr

namespace Wildcard

/-- The ranges that the inside of a set lists. -/
def ranges : Chars → List (Char × Char)
  | [] => []
  | first :: '-' :: last :: rest => (first, last) :: ranges rest
  | c :: rest => (c, c) :: ranges rest

/-- The set of some ranges. A mark of complements that has come to the front, as the ranges before
it were struck out, counts as such; where it began a range, the dash and the end of that are
left. -/
def ofRanges : List (Char × Char) → Wildcard
  | ('!', last) :: rest =>
    oneOf true (if last == '!' then rest else ('-', '-') :: (last, last) :: rest)
  | ranges => oneOf false ranges

/-- The ranges that the inside of a set lists, without those whose ends are in the wrong order. -/
def validRanges (body : Chars) : List (Char × Char) :=
  (ranges body).filter fun (first, last) => first ≤ last

/-- The characters before the bracket that closes a set. The first one belongs to the set even if it
is a closing bracket. -/
def inside? (text : Chars) : Option Chars :=
  let start := if text.head? == some ']' then [']'] else []
  let body := (text.drop start.length).takeWhile (· != ']')
  if start.length + body.length < text.length then some (start ++ body) else none

/-- A set at the front of a text that follows an opening bracket, and its length. -/
def set? (text : Chars) : Option (Wildcard × Nat) :=
  match text with
  | '!' :: rest => (inside? rest).map fun body => (oneOf true (validRanges body), body.length + 2)
  | _ => (inside? text).map fun body => (ofRanges (validRanges body), body.length + 1)

/-- The pieces of a pattern; `skip` characters still belong to the last set. -/
def parseFrom (skip : Nat) : Chars → List Wildcard
  | [] => []
  | c :: rest =>
    match skip with
    | skip + 1 => parseFrom skip rest
    | 0 =>
      if c == '*' then anyText :: parseFrom 0 rest
      else if c == '?' then anyChar :: parseFrom 0 rest
      else if c == '[' then
        match set? rest with
        | some (set, length) => set :: parseFrom length rest
        | none => exactly c :: parseFrom 0 rest
      else exactly c :: parseFrom 0 rest

/-- The pieces of a pattern. -/
def parse (pattern : String) : List Wildcard :=
  parseFrom 0 pattern.toList

/-- A piece that stands for a single character may stand for this one. -/
def admits : Wildcard → Char → Bool
  | exactly c, d => c == d
  | anyChar, _ => true
  | anyText, _ => false
  | oneOf negated ranges, d =>
    (ranges.any fun (first, last) => first ≤ d && d ≤ last) != negated

/-- A text and all that may be left of it, the longest first. -/
def remainders : Chars → List Chars
  | [] => [[]]
  | c :: rest => (c :: rest) :: remainders rest

/-- What may be left once a piece has taken its part from one of some ends of a text. The ends are
sorted, the longest first. -/
def left (ends : List Chars) : Wildcard → List Chars
  | anyText => (ends.head?).elim [] remainders
  | piece => ends.filterMap fun
    | [] => none
    | c :: rest => if piece.admits c then some rest else none

/-- The pieces stand for the whole text. -/
def covers (pieces : List Wildcard) (text : Chars) : Bool :=
  (pieces.foldl left [text]).any List.isEmpty

end Wildcard

/-- The pattern stands for the whole text. -/
def fits (pattern text : String) : Bool :=
  Wildcard.covers (Wildcard.parse pattern) text.toList

end Scaffold.Text
