import Scaffold.Disk.Basic
import Scaffold.Text.Wildcard

/-!
# Patterns of scripts

In a script the characters of patterns count only where they are not quoted. A pattern that fits
names of entries stands for them.
-/

namespace Scaffold.Shell

/-- A text each of whose characters may be quoted. -/
abbrev Marked := List (Char × Bool)

namespace Pattern

/-- The text without the marks. -/
def plain (marked : Marked) : Chars :=
  marked.map Prod.fst

/-- The text as a pattern that only fits itself. -/
def quoted (text : Chars) : Marked :=
  text.map fun c => (c, true)

/-- A character that means something in a pattern. -/
def isActive (c : Char × Bool) : Bool :=
  !c.2 && (c.1 == '*' || c.1 == '?' || c.1 == '[')

/-- The ranges of the characters of a class. -/
def classRanges (name : String) : List (Char × Char) :=
  match name with
  | "alpha" => [('a', 'z'), ('A', 'Z')]
  | "digit" => [('0', '9')]
  | "alnum" => [('a', 'z'), ('A', 'Z'), ('0', '9')]
  | "upper" => [('A', 'Z')]
  | "lower" => [('a', 'z')]
  | "space" => [(' ', ' '), ('\t', '\r')]
  | "blank" => [(' ', ' '), ('\t', '\t')]
  | "punct" => [('!', '/'), (':', '@'), ('[', '\x60'), ('\x7b', '~')]
  | "print" => [(' ', '~')]
  | "graph" => [('!', '~')]
  | "cntrl" => [('\x00', '\x1f'), ('\x7f', '\x7f')]
  | "xdigit" => [('0', '9'), ('a', 'f'), ('A', 'F')]
  | _ => []

/-- The name of a class from behind its bracket on, and what follows it. -/
def class? (text : Marked) : Option (String × Marked) :=
  match text with
  | (':', false) :: rest =>
    let name := rest.takeWhile fun (c, _) => c.isAlpha
    match rest.drop name.length with
    | (':', false) :: (']', false) :: rest => some (String.ofList (plain name), rest)
    | _ => none
  | _ => none

/-- The ranges of a set up to its bracket, and what follows that. The number bounds the steps. -/
def ranges? : Nat → Bool → Marked → Option (List (Char × Char) × Marked)
  | 0, _, _ => none
  | _ + 1, _, [] => none
  | fuel + 1, first, (c, quoted) :: rest =>
    if c == ']' && !quoted && !first then some ([], rest)
    else
      let more (found : List (Char × Char)) (rest : Marked) :=
        (ranges? fuel false rest).map fun (ranges, after) => (found ++ ranges, after)
      match (if c == '[' && !quoted then class? rest else none) with
      | some (name, rest) => more (classRanges name) rest
      | none =>
        match rest with
        | ('-', false) :: (']', false) :: _ => more [(c, c)] rest
        | ('-', false) :: (last, _) :: after => more [(c, last)] after
        | _ => more [(c, c)] rest

/-- The pieces of a pattern. The number bounds the steps. -/
def parse : Nat → Marked → List Text.Wildcard
  | 0, _ => []
  | _ + 1, [] => []
  | fuel + 1, (c, quoted) :: rest =>
    if quoted then .exactly c :: parse fuel rest
    else if c == '*' then .anyText :: parse fuel rest
    else if c == '?' then .anyChar :: parse fuel rest
    else if c == '[' then
      let (negated, body) :=
        match rest with
        | ('!', false) :: body => (true, body)
        | _ => (false, rest)
      match ranges? (body.length + 1) true body with
      | some (ranges, after) => .oneOf negated ranges :: parse fuel after
      | none => .exactly c :: parse fuel rest
    else .exactly c :: parse fuel rest

/-- The pattern stands for the whole text. -/
def fits (pattern : Marked) (text : Chars) : Bool :=
  Text.Wildcard.covers (parse (pattern.length + 1) pattern) text

/-- The text without the shortest or longest part at one of its ends that a pattern stands for. -/
def trim (pattern : Marked) (atStart longest : Bool) (text : Chars) : Chars :=
  let pieces := parse (pattern.length + 1) pattern
  let lengths := List.range (text.length + 1)
  let ordered := if longest then lengths.reverse else lengths
  let split (length : Nat) : Chars × Chars :=
    if atStart then (text.take length, text.drop length)
    else (text.drop (text.length - length), text.take (text.length - length))
  match ordered.find? fun length => Text.Wildcard.covers pieces (split length).1 with
  | some length => (split length).2
  | none => text

end Pattern

/-- A text as the bytes that it is made of. -/
def bytesOf (text : String) : Chars :=
  text.toUTF8.toList.map fun byte => Char.ofNat byte.toNat

/-- Characters that stand for bytes as bytes. -/
def toBytes (bytes : Chars) : ByteArray :=
  ⟨(bytes.map fun c => UInt8.ofNat c.toNat).toArray⟩

/-- The text that bytes make up. -/
def textOf? (bytes : Chars) : Option String :=
  String.fromUTF8? (toBytes bytes)

/-- The text that bytes make up; bytes that make up none stand for themselves. -/
def textOf (bytes : Chars) : String :=
  (textOf? bytes).getD (String.ofList bytes)

/-- The content of a file as characters. -/
def contentBytes (content : ByteArray) : Chars :=
  content.toList.map fun byte => Char.ofNat byte.toNat

/-- Where a path of a script leads. An empty one leads nowhere, and one that ends in a slash to a
directory. -/
def locate (disk : Disk) (followLast : Bool) (path : Chars) : Except PathFault Place :=
  let text := textOf path
  if text.isEmpty then .error .missing
  else
    let whole := Path.ofString text
    disk.tree.follow (followLast || Text.endsWith text "/") Tree.linkLimit (disk.start whole)
      (Tree.targetNames text)

/-- A path that ends in slashes without them. -/
def cutSlashes (path : Chars) : Chars :=
  let cut := (path.reverse.dropWhile (· == '/')).reverse
  if cut.isEmpty then path.take 1 else cut

/-- The path ends in a slash, but there is nothing that it could lead to. -/
def isVacantDirectory (disk : Disk) (path : Chars) : Bool :=
  path.getLast? == some '/' &&
    match locate disk true (cutSlashes path) with
    | .ok (.vacant _) => true
    | _ => false

namespace Pattern

/-- The names of a directory that a pattern of names fits, if it may be read. Names that start with
a dot are fitted only by patterns that do. -/
def names (disk : Disk) (directory : Chars) (pattern : Marked) : List Chars :=
  match locate disk true (if directory.isEmpty then ['.'] else directory) with
  | .ok (.taken location (.directory _)) =>
    let hidden := pattern.head?.any fun (c, _) => c == '.'
    let all := ((disk.names? location).getD []).map bytesOf
    (if !disk.tree.allows .read location then []
     else if hidden then [['.'], ['.', '.']] ++ all
     else all).filter fun name =>
      (hidden || name.head? != some '.') && fits pattern name
  | _ => []

/-- The paths that a pattern stands for, behind a path that is fixed. The number bounds the
steps. -/
def pathsFrom (disk : Disk) : Nat → Chars → Marked → List Chars
  | 0, _, _ => []
  | fuel + 1, fixed, pattern =>
    if !pattern.any isActive then
      let path := fixed ++ plain pattern
      match locate disk false path with
      | .ok (.taken _ _) => [path]
      | _ => []
    else
      let part := pattern.takeWhile fun (c, _) => c != '/'
      let rest := pattern.drop part.length
      let slashes := plain (rest.takeWhile fun (c, _) => c == '/')
      let rest := rest.drop slashes.length
      if !part.any isActive then pathsFrom disk fuel (fixed ++ plain part ++ slashes) rest
      else if slashes.isEmpty then (names disk fixed part).map (fixed ++ ·)
      else
        (names disk fixed part).flatMap fun name =>
          let path := fixed ++ name ++ slashes
          match locate disk true path with
          | .ok (.taken _ (.directory _)) => pathsFrom disk fuel path rest
          | _ => []

/-- Texts in the order of their bytes. -/
def precedes : Chars → Chars → Bool
  | [], _ => true
  | _ :: _, [] => false
  | a :: as, b :: bs => if a == b then precedes as bs else a < b

/-- The paths that a pattern stands for, sorted; one that stands for none stands for itself. -/
def paths (disk : Disk) (pattern : Marked) : List Chars :=
  if pattern.any isActive then
    match (pathsFrom disk (pattern.length + 1) [] pattern).mergeSort precedes with
    | [] => [plain pattern]
    | found => found
  else [plain pattern]

end Pattern

end Scaffold.Shell
