import Scaffold.Yaml.Text

/-!
# From text to tokens

The scanner keeps the indents of open blocks. Whether a scalar is the key of a mapping shows only at
the colon behind it, so the places where a key may have started are kept too: a key stands on one
line and is not too long.
-/

namespace Scaffold.Yaml

/-- A place where a key may have started. -/
structure SimpleKey where
  /-- How many tokens stand before it. -/
  tokenNumber : Nat
  /-- Nothing else may stand there. -/
  required : Bool
  index : Nat
  line : Nat
  column : Nat
  deriving DecidableEq, Repr

/-- The state of a scanner. -/
structure Scanner where
  cursor : Cursor
  /-- More than the length of the text. -/
  bound : Nat
  /-- The tokens read so far, the latest first. -/
  tokens : List Token := []
  /-- How many they are. -/
  count : Nat := 0
  /-- How many brackets are open. -/
  flowLevel : Nat := 0
  /-- The column of the innermost open block. -/
  indent : Int := -1
  /-- The columns of the blocks around it. -/
  indents : List Int := []
  /-- A key may start here. -/
  allowKey : Bool := true
  /-- Where a key may have started, by the number of open brackets. -/
  keys : List (Nat × SimpleKey) := []
  deriving DecidableEq, Repr

namespace Scanner

/-- The length that a key may have. -/
def keyLimit : Nat := 1024

/-- The scanner is not inside brackets. -/
def inBlock (scanner : Scanner) : Bool :=
  scanner.flowLevel == 0

/-- Adds a token. -/
def emit (scanner : Scanner) (token : Token) : Scanner :=
  { scanner with tokens := token :: scanner.tokens, count := scanner.count + 1 }

/-- Adds a token that the next so many characters write. -/
def emitNext (scanner : Scanner) (length : Nat) (token : Token) : Scanner :=
  { scanner.emit token with cursor := scanner.cursor.skip length }

/-- Adds a token behind the first so many ones. -/
def insertAt (scanner : Scanner) (number : Nat) (token : Token) : Scanner :=
  let later := scanner.count - number
  { scanner with
    tokens := scanner.tokens.take later ++ token :: scanner.tokens.drop later
    count := scanner.count + 1 }

/-! ## Keys -/

/-- A key that was expected and did not come. -/
def isMissed (scanner : Scanner) (key : SimpleKey) : Bool :=
  key.line != scanner.cursor.line || keyLimit < scanner.cursor.index - key.index

/-- Forgets the places that are too far away to be keys. -/
def dropStaleKeys (scanner : Scanner) : Except ReadFault Scanner :=
  if scanner.keys.any fun (_, key) => key.required && scanner.isMissed key then .error .malformed
  else .ok { scanner with keys := scanner.keys.filter fun (_, key) => !scanner.isMissed key }

/-- Forgets the place at the current level. -/
def dropKey (scanner : Scanner) : Except ReadFault Scanner :=
  match scanner.keys.lookup scanner.flowLevel with
  | none => .ok scanner
  | some key =>
    if key.required then .error .malformed
    else
      .ok { scanner with
        keys := scanner.keys.filter fun (level, _) => level != scanner.flowLevel }

/-- Remembers this place, if a key may start here. -/
def saveKey (scanner : Scanner) : Except ReadFault Scanner :=
  if !scanner.allowKey then .ok scanner
  else do
    let required := scanner.inBlock && scanner.indent == scanner.cursor.column
    let scanner ← scanner.dropKey
    let key : SimpleKey :=
      { tokenNumber := scanner.count
        required
        index := scanner.cursor.index
        line := scanner.cursor.line
        column := scanner.cursor.column }
    return { scanner with keys := (scanner.flowLevel, key) :: scanner.keys }

/-! ## Indents -/

/-- Closes the blocks that are indented deeper than a column. -/
def closeBlocks (column : Int) (scanner : Scanner) : Scanner :=
  if !scanner.inBlock then scanner
  else
    let columns := scanner.indent :: scanner.indents
    let closed := (columns.takeWhile (column < ·)).length
    { scanner with
      tokens := List.replicate closed .blockEnd ++ scanner.tokens
      count := scanner.count + closed
      indent := (columns.drop closed).headD (-1)
      indents := (columns.drop closed).tail }

/-- Opens a block at a column that is deeper than the open ones. -/
def openBlock (scanner : Scanner) (column : Nat) (number : Nat) (token : Token) : Scanner :=
  if scanner.indent < column then
    { scanner.insertAt number token with
      indent := column
      indents := scanner.indent :: scanner.indents }
  else scanner

/-! ## Single tokens -/

/-- A character of a name. -/
def isNameChar (c : Char) : Bool :=
  c.isAlphanum || c == '-' || c == '_'

/-- A name that is not empty. -/
def name (cursor : Cursor) : Except ReadFault (String × Cursor) :=
  let (run, cursor) := cursor.span isNameChar
  if run.isEmpty then .error .malformed else .ok (String.ofList run, cursor)

/-- A number that is not empty. -/
def number (cursor : Cursor) : Except ReadFault (Nat × Cursor) :=
  let (run, cursor) := cursor.span Text.isAsciiDigit
  if run.isEmpty then .error .malformed else .ok (Json.digitsValue run, cursor)

/-- A space, the end of the line, or the end of the document stands here. -/
def demandGap (cursor : Cursor) : Except ReadFault Unit :=
  if cursor.peek == ' ' || endsLine cursor.peek then .ok () else .error .malformed

/-- A character of the name of a kind. -/
def isTagChar (c : Char) : Bool :=
  c.isAlphanum || "-;/?:@&=+$,_.!~*'()[]%".toList.contains c

/-- The name of a kind. -/
def tagName (cursor : Cursor) : Except ReadFault (String × Cursor) :=
  let (run, cursor) := cursor.span isTagChar
  if run.isEmpty then .error .malformed else .ok (String.ofList run, cursor)

/-- A handle: exclamation marks with a name between them, or one of them alone. -/
def tagHandle (cursor : Cursor) : Except ReadFault (String × Cursor) :=
  if cursor.peek != '!' then .error .malformed
  else if cursor.peekAt 1 == ' ' then .ok ("!", cursor.next)
  else
    let (run, after) := cursor.next.span isNameChar
    if after.peek == '!' then .ok (String.ofList ('!' :: run ++ ['!']), after.next)
    else .error .malformed

/-- A directive from behind its mark on. -/
def directive (cursor : Cursor) : Except ReadFault (Directive × Cursor) := do
  let (word, cursor) ← name cursor
  demandGap cursor
  match word with
  | "YAML" =>
    let (major, cursor) ← number cursor.skipSpaces
    if cursor.peek != '.' then .error .malformed
    else
      let (_, cursor) ← number cursor.next
      demandGap cursor
      return (.version major, ← endOfLine cursor)
  | "TAG" =>
    let (handle, cursor) ← tagHandle cursor.skipSpaces
    if cursor.peek != ' ' then .error .malformed
    else
      let (start, cursor) ← tagName cursor.skipSpaces
      demandGap cursor
      return (.tagHandle handle start, ← endOfLine cursor)
  | _ => return (.other, ← endOfLine cursor.skipLine)

/-- The kind of a node. -/
def tag (cursor : Cursor) : Except ReadFault (Token × Cursor) := do
  let next := cursor.peekAt 1
  let (token, after) ←
    if next == '<' then
      let (name, cursor) ← tagName (cursor.skip 2)
      if cursor.peek == '>' then pure (Token.tag none name, cursor.next) else .error .malformed
    else if isSeparator next then pure (Token.tag none "!", cursor.next)
    else
      let word := (cursor.rest.drop 1).takeWhile fun c => !(c == ' ' || isBreak c)
      let (handle, cursor) ← if word.contains '!' then tagHandle cursor else pure ("!", cursor.next)
      let (name, cursor) ← tagName cursor
      pure (Token.tag (some handle) name, cursor)
  demandGap after
  return (token, after)

/-- The name of a node, from behind its sign on. -/
def nodeName (cursor : Cursor) : Except ReadFault (String × Cursor) := do
  let (word, cursor) ← name cursor
  if isSeparator cursor.peek || ['?', ':', ',', ']', '\x7d', '%', '@', '\x60'].contains cursor.peek
  then return (word, cursor)
  else .error .malformed

/-! ## Steps -/

/-- Passes over spaces, comments and line breaks to the next token. -/
def toNextToken : Nat → Scanner → Scanner
  | 0, scanner => scanner
  | fuel + 1, scanner =>
    let cursor := scanner.cursor.skipSpaces
    let cursor := if cursor.peek == '#' then cursor.skipLine else cursor
    match cursor.lineBreak? with
    | none => { scanner with cursor }
    | some (_, cursor) =>
      toNextToken fuel { scanner with cursor, allowKey := scanner.allowKey || scanner.inBlock }

/-- A scalar may start here without quotes. -/
def startsPlain (scanner : Scanner) : Bool :=
  let c := scanner.cursor.peek
  let next := scanner.cursor.peekAt 1
  !(isSeparator c || "-?:,[]\x7b\x7d#&*!|>'\"%@\x60".toList.contains c) ||
    (!isSeparator next && (c == '-' || (scanner.inBlock && (c == '?' || c == ':'))))

/-- Closes all blocks before a directive, a mark or the end. -/
def atTop (scanner : Scanner) : Except ReadFault Scanner := do
  let scanner ← (scanner.closeBlocks (-1)).dropKey
  return { scanner with allowKey := false }

/-- The opening of a bracket. -/
def openBracket (scanner : Scanner) (token : Token) : Except ReadFault Scanner := do
  let scanner ← scanner.saveKey
  return { scanner.emitNext 1 token with flowLevel := scanner.flowLevel + 1, allowKey := true }

/-- The closing of a bracket. -/
def closeBracket (scanner : Scanner) (token : Token) : Except ReadFault Scanner := do
  let scanner ← scanner.dropKey
  if scanner.inBlock then .error .malformed
  else
    return { scanner.emitNext 1 token with flowLevel := scanner.flowLevel - 1, allowKey := false }

/-- A dash or a question mark, which may open a block. -/
def opener (scanner : Scanner) (block token : Token) (allowKey : Bool) :
    Except ReadFault Scanner := do
  if scanner.inBlock && !scanner.allowKey then .error .malformed
  else
    let scanner :=
      if scanner.inBlock then
        scanner.openBlock scanner.cursor.column scanner.count block
      else scanner
    let scanner ← { scanner with allowKey }.dropKey
    return scanner.emitNext 1 token

/-- The colon before a value. What stands before it turns out to be a key. -/
def colon (scanner : Scanner) : Except ReadFault Scanner := do
  match scanner.keys.lookup scanner.flowLevel with
  | some key =>
    let scanner :=
      { scanner with
        keys := scanner.keys.filter fun (level, _) => level != scanner.flowLevel
        allowKey := false }
    let scanner := scanner.insertAt key.tokenNumber .key
    let scanner :=
      if scanner.inBlock then scanner.openBlock key.column key.tokenNumber .blockMappingStart
      else scanner
    return scanner.emitNext 1 .value
  | none => scanner.opener .blockMappingStart .value scanner.inBlock

/-- A token that may be a key, and after which none may start. -/
def keyToken (scanner : Scanner) (read : Cursor → Except ReadFault (Token × Cursor)) :
    Except ReadFault Scanner := do
  let scanner ← scanner.saveKey
  let (token, cursor) ← read scanner.cursor
  return { scanner.emit token with cursor, allowKey := false }

/-- A block scalar. -/
def blockToken (scanner : Scanner) (folds : Bool) : Except ReadFault Scanner := do
  let scanner ← { scanner with allowKey := true }.dropKey
  let (text, cursor) ← blockScalar folds scanner.indent scanner.cursor.next
  return { scanner.emit (.scalar false (some text)) with cursor }

/-- A plain scalar. -/
def plainToken (scanner : Scanner) : Except ReadFault Scanner := do
  let scanner ← scanner.saveKey
  let (text, cursor, broken) := plainFrom (scanner.indent + 1) (!scanner.inBlock)
    scanner.bound [] false scanner.cursor
  return { scanner.emit (.scalar true (some text)) with cursor, allowKey := broken }

/-- The next token, with the tokens that its place calls for. -/
def step (scanner : Scanner) : Except ReadFault Scanner := do
  let scanner := toNextToken scanner.bound scanner
  let scanner ← scanner.dropStaleKeys
  let scanner := scanner.closeBlocks scanner.cursor.column
  let cursor := scanner.cursor
  let c := cursor.peek
  let gapBehind := isSeparator (cursor.peekAt 1)
  if cursor.rest.isEmpty then scanner.atTop
  else if c == '%' && cursor.column == 0 then
    let scanner ← scanner.atTop
    let (directive, cursor) ← directive cursor.next
    return { scanner.emit (.directive directive) with cursor }
  else if cursor.column == 0 && cursor.atMark '-' then
    return (← scanner.atTop).emitNext 3 .documentStart
  else if cursor.column == 0 && cursor.atMark '.' then
    return (← scanner.atTop).emitNext 3 .documentEnd
  else if c == '[' then scanner.openBracket .flowSequenceStart
  else if c == '\x7b' then scanner.openBracket .flowMappingStart
  else if c == ']' then scanner.closeBracket .flowSequenceEnd
  else if c == '\x7d' then scanner.closeBracket .flowMappingEnd
  else if c == ',' then
    let scanner ← { scanner with allowKey := true }.dropKey
    return scanner.emitNext 1 .flowEntry
  else if c == '-' && gapBehind then scanner.opener .blockSequenceStart .blockEntry true
  else if c == '?' && (gapBehind || !scanner.inBlock) then
    scanner.opener .blockMappingStart .key scanner.inBlock
  else if c == ':' && (gapBehind || !scanner.inBlock) then scanner.colon
  else if c == '*' then
    scanner.keyToken fun cursor =>
      (nodeName cursor.next).map fun (name, after) => (.reference name, after)
  else if c == '&' then
    scanner.keyToken fun cursor =>
      (nodeName cursor.next).map fun (name, after) => (.anchor name, after)
  else if c == '!' then scanner.keyToken tag
  else if c == '|' && scanner.inBlock then scanner.blockToken false
  else if c == '>' && scanner.inBlock then scanner.blockToken true
  else if c == '\x27' || c == '"' then
    scanner.keyToken fun cursor =>
      (quoted cursor).map fun (text, after) => (.scalar false text, after)
  else if scanner.startsPlain then scanner.plainToken
  else .error .malformed

/-- Steps until the text has ended. -/
def run : Nat → Scanner → Except ReadFault Scanner
  | 0, _ => .error .malformed
  | fuel + 1, scanner => do
    let ended := scanner.cursor.rest.isEmpty
    let scanner ← scanner.step
    if ended then return scanner else run fuel scanner

end Scanner

/-- The tokens of a text. -/
def tokens (text : Chars) : Except ReadFault (List Token) := do
  let start : Cursor := { rest := text }
  let cursor := if start.peek == '\ufeff' then start.next else start
  let bound := text.length + 1
  let scanner ← Scanner.run (bound + 1) { cursor, bound }
  return scanner.tokens.reverse

end Scaffold.Yaml
