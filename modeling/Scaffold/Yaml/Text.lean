import Scaffold.Json.Reader
import Scaffold.Yaml.Cursor
import Scaffold.Yaml.Token

/-!
# Scalars as they are written

Plain scalars end where something else could start; quoted ones end with their quote and may hold
escapes; block scalars are the lines below an indicator. A line break inside a scalar becomes a
space unless empty lines follow it.
-/

namespace Scaffold.Yaml

/-- What a line break and the breaks that follow it leave of themselves. -/
def foldedBreaks (first : Char) (more : Chars) : Chars :=
  if first != '\n' then first :: more else if more.isEmpty then [' '] else more

/-! ## Plain scalars -/

/-- The characters that divide or close what stands in brackets. -/
def isFlowIndicator (c : Char) : Bool :=
  [',', '[', ']', '\x7b', '\x7d'].contains c

/-- A plain scalar ends before this character, the next one being known. -/
def endsPlain (inFlow : Bool) (c next : Char) : Bool :=
  isSeparator c || (c == ':' && (isSeparator next || (inFlow && isFlowIndicator next))) ||
    (inFlow && (isFlowIndicator c || c == '?'))

/-- The characters of a plain scalar up to a blank or its end. -/
def plainRun (inFlow : Bool) : Chars → Chars
  | [] => []
  | c :: rest =>
    if endsPlain inFlow c (rest.headD endMark) then [] else c :: plainRun inFlow rest

/-- What stands between two pieces of a plain scalar. -/
structure Gap where
  /-- The text of the gap; nothing where a document ends in it. -/
  text : Option Chars
  cursor : Cursor
  /-- The gap goes over the end of a line. -/
  broken : Bool

/-- Further line breaks and the spaces among them; nothing where a document ends. -/
def breaksAndSpaces : Nat → Cursor → Option Chars × Cursor
  | 0, cursor => (some [], cursor)
  | fuel + 1, cursor =>
    let cursor := cursor.skipSpaces
    match cursor.lineBreak? with
    | none => (some [], cursor)
    | some (c, cursor) =>
      if cursor.atDocumentMark then (none, cursor)
      else
        let (more, cursor) := breaksAndSpaces fuel cursor
        (more.map (c :: ·), cursor)

/-- The gap behind a piece of a plain scalar. -/
def plainGap (cursor : Cursor) : Gap :=
  let (spaces, cursor) := cursor.span (· == ' ')
  match cursor.lineBreak? with
  | none => ⟨some spaces, cursor, false⟩
  | some (first, cursor) =>
    if cursor.atDocumentMark then ⟨none, cursor, true⟩
    else
      let (more, cursor) := breaksAndSpaces cursor.rest.length cursor
      ⟨more.map (foldedBreaks first), cursor, true⟩

/-- A plain scalar, the place behind it, and whether a line ended last. -/
def plainFrom (indent : Int) (inFlow : Bool) :
    Nat → Chars → Bool → Cursor → Chars × Cursor × Bool
  | 0, _, broken, cursor => ([], cursor, broken)
  | fuel + 1, before, broken, cursor =>
    let run := plainRun inFlow cursor.rest
    if run.isEmpty || cursor.peek == '#' then ([], cursor, broken)
    else
      let gap := plainGap (cursor.skip run.length)
      let stops := gap.cursor.peek == '#' || (!inFlow && gap.cursor.column < indent)
      match gap.text with
      | some (c :: between) =>
        if stops then (before ++ run, gap.cursor, gap.broken)
        else
          let (more, cursor, broken) :=
            plainFrom indent inFlow fuel (c :: between) gap.broken gap.cursor
          (before ++ run ++ more, cursor, broken)
      | _ => (before ++ run, gap.cursor, gap.broken)

/-! ## Quoted scalars -/

/-- The characters that a backslash and a letter stand for. -/
def escapes : List (Char × Char) :=
  [('0', '\x00'), ('a', '\x07'), ('b', '\x08'), ('t', '\t'), ('\t', '\t'), ('n', '\n'),
   ('v', '\x0b'), ('f', '\x0c'), ('r', '\r'), ('e', '\x1b'), (' ', ' '), ('"', '"'), ('\\', '\\'),
   ('/', '/'), ('N', '\x85'), ('_', '\xa0'), ('L', '\u2028'), ('P', '\u2029')]

/-- How many hexadecimal digits follow a backslash and a letter. -/
def codeLength? (c : Char) : Option Nat :=
  [('x', 2), ('u', 4), ('U', 8)].lookup c

/-- The number that hexadecimal digits write. -/
def hexNumber? (digits : Chars) : Option Nat :=
  digits.foldlM (fun value c => (Json.hexValue? c).map fun digit => value * 16 + digit) 0

/-- A character, or half of one. -/
abbrev Piece := Option Char

/-- The character with a code. -/
def charOfCode (code : Nat) : Except ReadFault Piece :=
  if 0x10FFFF < code then .error .unconvertible
  else if 0xD800 ≤ code && code ≤ 0xDFFF then .ok none
  else .ok (some (Char.ofNat code))

/-- Line breaks inside quotes, and the blanks that start the lines. A document may not end here. -/
def quotedBreaks : Nat → Cursor → Except ReadFault (Chars × Cursor)
  | 0, cursor => .ok ([], cursor)
  | fuel + 1, cursor =>
    if cursor.atDocumentMark then .error .malformed
    else
      let (_, cursor) := cursor.span fun c => c == ' ' || c == '\t'
      match cursor.lineBreak? with
      | none => .ok ([], cursor)
      | some (c, cursor) => do
        let (more, cursor) ← quotedBreaks fuel cursor
        return (c :: more, cursor)

/-- What an escape stands for, from behind its backslash on. -/
def escape (cursor : Cursor) : Except ReadFault (List Piece × Cursor) :=
  let c := cursor.peek
  match escapes.lookup c, codeLength? c with
  | some meant, _ => .ok ([some meant], cursor.next)
  | none, some length =>
    let digits := cursor.next.rest.take length
    match hexNumber? digits with
    | some code =>
      if digits.length < length then .error .malformed
      else do return ([← charOfCode code], cursor.next.skip length)
    | none => .error .malformed
  | none, none =>
    match cursor.lineBreak? with
    | none => .error .malformed
    | some (_, cursor) => do
      let (breaks, cursor) ← quotedBreaks (cursor.rest.length + 1) cursor
      return (breaks.map some, cursor)

/-- The characters inside quotes up to a blank, a line break or what closes them. -/
def quotedRun (double : Bool) : Nat → Cursor → Except ReadFault (List Piece × Cursor)
  | 0, _ => .error .malformed
  | fuel + 1, cursor => do
    let (run, cursor) := cursor.span fun c => !(['\x27', '"', '\\'].contains c || isSeparator c)
    let c := cursor.peek
    if !double && c == '\x27' && cursor.peekAt 1 == '\x27' then
      let (more, cursor) ← quotedRun double fuel (cursor.skip 2)
      return (run.map some ++ some c :: more, cursor)
    else if (double && c == '\x27') || (!double && (c == '"' || c == '\\')) then
      let (more, cursor) ← quotedRun double fuel cursor.next
      return (run.map some ++ some c :: more, cursor)
    else if double && c == '\\' then
      let (meant, cursor) ← escape cursor.next
      let (more, cursor) ← quotedRun double fuel cursor
      return (run.map some ++ meant ++ more, cursor)
    else return (run.map some, cursor)

/-- The blanks or line breaks between two runs inside quotes. -/
def quotedGap (cursor : Cursor) : Except ReadFault (Chars × Cursor) :=
  let (blanks, cursor) := cursor.span fun c => c == ' ' || c == '\t'
  match cursor.lineBreak? with
  | some (first, cursor) => do
    let (more, cursor) ← quotedBreaks (cursor.rest.length + 1) cursor
    return (foldedBreaks first more, cursor)
  | none => if cursor.rest.isEmpty then .error .malformed else .ok (blanks, cursor)

/-- The text up to the closing quote, and the place behind that. -/
def quotedFrom (quote : Char) : Nat → Cursor → Except ReadFault (List Piece × Cursor)
  | 0, _ => .error .malformed
  | fuel + 1, cursor => do
    let (run, cursor) ← quotedRun (quote == '"') (cursor.rest.length + 1) cursor
    if cursor.peek == quote then return (run, cursor.next)
    else
      let (gap, cursor) ← quotedGap cursor
      let (more, cursor) ← quotedFrom quote fuel cursor
      return (run ++ gap.map some ++ more, cursor)

/-- A quoted scalar whose quote is the next character. -/
def quoted (cursor : Cursor) : Except ReadFault (ScalarText × Cursor) := do
  let (pieces, after) ← quotedFrom cursor.peek (cursor.rest.length + 1) cursor.next
  return (pieces.mapM id, after)

/-! ## Block scalars -/

/-- What is kept of the line breaks at the end of a block scalar. -/
inductive Chomping where
  | one
  | all
  | nothing
  deriving DecidableEq, Repr

/-- What stands behind the indicator of a block scalar. -/
structure BlockHeader where
  chomping : Chomping := .one
  /-- How much deeper the lines are indented, where that is said. -/
  increment : Option Nat := none

/-- The sign that says what is kept at the end. -/
def chomping? : Char → Option Chomping
  | '+' => some .all
  | '-' => some .nothing
  | _ => none

/-- The digit that says how deep the lines are indented. -/
def increment? (c : Char) : Option Nat :=
  if '0' ≤ c && c ≤ '9' then some (c.toNat - '0'.toNat) else none

/-- The header of a block scalar. -/
def blockHeader (cursor : Cursor) : Except ReadFault (BlockHeader × Cursor) :=
  let first := cursor.peek
  let second := cursor.peekAt 1
  let (header, length) : BlockHeader × Nat :=
    match chomping? first, increment? first with
    | some chomping, _ =>
      ({ chomping, increment := increment? second }, if (increment? second).isSome then 2 else 1)
    | none, some increment =>
      ({ chomping := (chomping? second).getD .one, increment := some increment },
       if (chomping? second).isSome then 2 else 1)
    | none, none => ({}, 0)
  let cursor := cursor.skip length
  if header.increment == some 0 || !(cursor.peek == ' ' || endsLine cursor.peek) then
    .error .malformed
  else .ok (header, cursor)

/-- The start of the next line; only spaces and a comment may stand before it. -/
def endOfLine (cursor : Cursor) : Except ReadFault Cursor :=
  let cursor := cursor.skipSpaces
  let cursor := if cursor.peek == '#' then cursor.skipLine else cursor
  if endsLine cursor.peek then .ok ((cursor.lineBreak?.map Prod.snd).getD cursor)
  else .error .malformed

/-- The empty lines before a block scalar's first line, and the deepest indent seen. -/
def leadingBreaks : Nat → Nat → Cursor → Chars × Nat × Cursor
  | 0, deepest, cursor => ([], deepest, cursor)
  | fuel + 1, deepest, cursor =>
    let spaced := cursor.skipSpaces
    let deepest := if cursor.peek == ' ' then max deepest spaced.column else deepest
    match spaced.lineBreak? with
    | none => ([], deepest, spaced)
    | some (c, cursor) =>
      let (more, deepest, cursor) := leadingBreaks fuel deepest cursor
      (c :: more, deepest, cursor)

/-- The empty lines before the next line of a block scalar. -/
def blockBreaks (indent : Nat) : Nat → Cursor → Chars × Cursor
  | 0, cursor => ([], cursor)
  | fuel + 1, cursor =>
    let cursor := cursor.skipSpacesTo indent
    match cursor.lineBreak? with
    | none => ([], cursor)
    | some (c, cursor) =>
      let (more, cursor) := blockBreaks indent fuel cursor
      (c :: more, cursor)

/-- What lines of a block scalar come to: their text, the last line break and the breaks after. -/
structure BlockLines where
  text : Chars := []
  last : Chars := []
  after : Chars
  cursor : Cursor

/-- The character starts a line that is not folded. -/
def isIndented (c : Char) : Bool :=
  c == ' ' || c == '\t'

/-- The lines of a block scalar. -/
def blockLines (folds : Bool) (indent : Nat) : Nat → Chars → Cursor → BlockLines
  | 0, breaks, cursor => { after := breaks, cursor }
  | fuel + 1, breaks, cursor =>
    if cursor.column != indent || cursor.rest.isEmpty then { after := breaks, cursor }
    else
      let (line, afterLine) := cursor.span fun c => !isBreak c
      let (last, behind) := (afterLine.lineBreak?.map fun (c, place) => ([c], place)).getD
        ([], afterLine)
      let (next, place) := blockBreaks indent (behind.rest.length + 1) behind
      if place.column == indent && !place.rest.isEmpty then
        let between :=
          if folds && last == ['\n'] && !isIndented cursor.peek && !isIndented place.peek then
            if next.isEmpty then [' '] else []
          else last
        let more := blockLines folds indent fuel next place
        { more with text := breaks ++ line ++ between ++ more.text }
      else { text := breaks ++ line, last, after := next, cursor := place }

/-- A block scalar from behind its indicator on. -/
def blockScalar (folds : Bool) (indent : Int) (cursor : Cursor) :
    Except ReadFault (Chars × Cursor) := do
  let (header, cursor) ← blockHeader cursor
  let cursor ← endOfLine cursor
  let least := max (indent + 1) 1
  let fuel := cursor.rest.length + 1
  let lines :=
    match header.increment with
    | some increment =>
      let indent := (least + increment - 1).toNat
      let (breaks, cursor) := blockBreaks indent fuel cursor
      blockLines folds indent fuel breaks cursor
    | none =>
      let (breaks, deepest, cursor) := leadingBreaks fuel 0 cursor
      blockLines folds (max least.toNat deepest) fuel breaks cursor
  let tail :=
    match header.chomping with
    | .nothing => []
    | .one => lines.last
    | .all => lines.last ++ lines.after
  return (lines.text ++ tail, lines.cursor)

end Scaffold.Yaml
