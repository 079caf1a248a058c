import Scaffold.Shell.Syntax

/-!
# Reading scripts

A script is read a line at a time, since what is wrong in a later line does not keep the earlier
ones from being run. Some words are keywords, but only where a command may start or go on.
-/

namespace Scaffold.Shell

/-- Why a script cannot be read any further, and in which line. -/
structure SyntaxFault where
  line : Nat
  message : String
  deriving DecidableEq, Repr

/-- A text of the script that starts behind the line that asks for it. -/
structure Awaited where
  number : Nat
  ending : Chars
  cutsTabs : Bool
  quoted : Bool

/-- A token of a script. -/
inductive Token where
  | word (word : Word) (quoted : Bool)
  | keyword (name : String)
  | sign (text : String)
  | redirection (channel : Nat) (kind : Redirecting)
  | fromText (channel : Nat) (cutsTabs : Bool)
  | newline
  | finish

/-- A script that is being read. -/
structure Source where
  rest : Chars
  line : Nat := 1
  /-- A token that was looked at only. -/
  back : Option Token := none
  awaited : List Awaited := []
  /-- How many texts there are, those included that are still awaited. -/
  count : Nat := 0
  /-- The texts read so far, by their numbers. -/
  texts : List (Nat × Word) := []

/-- Reading of a script. -/
abbrev Reading := StateT Source (Except SyntaxFault)

namespace Reading

/-- Fails in the current line. -/
def fail {α : Type} (message : String) : Reading α := do
  throw ⟨(← get).line, message⟩

/-! ## Characters -/

/-- The text without line breaks that are masked, and how many there are. -/
def dropMasked : Chars → Chars × Nat
  | '\\' :: '\n' :: rest =>
    let (rest, count) := dropMasked rest
    (rest, count + 1)
  | text => (text, 0)

/-- The next character, which stays; masked line breaks before it are passed over. -/
def peek : Reading (Option Char) := do
  let source ← get
  let (rest, count) := dropMasked source.rest
  set { source with rest, line := source.line + count }
  return rest.head?

/-- The next character as it stands. -/
def takeRaw : Reading (Option Char) := do
  let source ← get
  match source.rest with
  | [] => return none
  | c :: rest =>
    set { source with rest, line := if c == '\n' then source.line + 1 else source.line }
    return some c

/-- The next character. -/
def take : Reading (Option Char) := do
  discard peek
  takeRaw

/-- Passes over the next character if it is the given one. -/
def accept (c : Char) : Reading Bool := do
  if (← peek) == some c then
    discard takeRaw
    return true
  else return false

/-- The characters with a property from here on. -/
def takeWhile (holds : Char → Bool) : Nat → Reading Chars
  | 0 => return []
  | fuel + 1 => do
    match ← peek with
    | some c =>
      if holds c then
        discard takeRaw
        return c :: (← takeWhile holds fuel)
      else return []
    | none => return []

/-- The text up to a single quote. -/
def singleQuoted : Reading Chars := do
  let source ← get
  let text := source.rest.takeWhile (· != '\x27')
  let line := source.line + text.count '\n'
  match source.rest.drop text.length with
  | _ :: rest =>
    set { source with rest, line }
    return text
  | [] =>
    set { source with rest := [], line }
    fail "Unterminated quoted string"

/-- The rest of the line without its end. -/
def takeLine : Reading (Option Chars) := do
  let source ← get
  if source.rest.isEmpty then return none
  else
    let text := source.rest.takeWhile (· != '\n')
    set { source with rest := source.rest.drop (text.length + 1), line := source.line + 1 }
    return some text

/-! ## Pieces -/

/-- Adds text to pieces that are kept backwards. -/
def push (quoted : Bool) (text : Chars) : List Piece → List Piece
  | .text q before :: rest =>
    if q == quoted then .text q (before ++ text) :: rest
    else .text quoted text :: .text q before :: rest
  | pieces => .text quoted text :: pieces

/-- Where pieces of words stand. -/
inductive Setting where
  /-- A word of a command. -/
  | plain
  /-- Inside double quotes. -/
  | quotes
  /-- Inside the braces of a parameter; quotes may be around or within them. -/
  | braces (quoted inner : Bool)
  /-- Inside an expression, and so many parentheses in it. -/
  | expression (depth : Nat)
  /-- A text of the script. -/
  | lines

/-- Quotes mean nothing in the setting, and nothing is split. -/
def Setting.quoted : Setting → Bool
  | .plain => false
  | .braces quoted _ => quoted
  | _ => true

/-- The character ends a word. -/
def endsWord (c : Char) : Bool :=
  " \t\n<>();&|".toList.contains c

/-- A backslash masks the character here. -/
def isMasked (setting : Setting) (c : Char) : Bool :=
  match setting with
  | .plain => true
  | .braces quoted _ => !quoted || "\\\x60$\"\x7d".toList.contains c
  | .lines => "\\\x60$".toList.contains c
  | _ => "\\\x60$\"".toList.contains c

/-- What a sign behind a parameter's name makes of it, and whether a word follows. -/
def useOf (orEmpty : Bool) : Char → Option Use
  | '-' => some (.orElse orEmpty)
  | '+' => some (.ifSet orEmpty)
  | '?' => some (.orFail orEmpty)
  | '=' => some (.orAssign orEmpty)
  | _ => none

/-- The name of a parameter in braces, and whether its length is asked for. -/
def bracedName (fuel : Nat) : Reading (Option (String × Bool)) := do
  match ← peek with
  | none => return none
  | some c =>
    if startsName c then return some (String.ofList (← takeWhile isNamePart fuel), false)
    else if c.isDigit then return some (String.ofList (← takeWhile Char.isDigit fuel), false)
    else if c == '#' then
      discard takeRaw
      match ← peek with
      | none => return none
      | some d =>
        if startsName d then return some (String.ofList (← takeWhile isNamePart fuel), true)
        else if d.isDigit then return some (String.ofList (← takeWhile Char.isDigit fuel), true)
        else if d == '\x7d' then return some ("#", false)
        else
          let source ← get
          discard takeRaw
          if isSpecial d && (← peek) == some '\x7d' then return some (String.ofList [d], true)
          else
            set source
            return some ("#", false)
    else if isSpecial c then
      discard takeRaw
      return some (String.ofList [c], false)
    else return none

/-- What is made of a parameter in braces, from behind its name on; a word follows unless the braces
are closed. -/
def bracedUse (isLength : Bool) : Reading (Use × Bool) := do
  match ← peek with
  | some '\x7d' =>
    discard takeRaw
    return (if isLength then .length else .value, false)
  | some c =>
    if isLength then return (.unknown, true)
    else
      discard takeRaw
      match c with
      | ':' =>
        match ← peek with
        | some d =>
          discard takeRaw
          return ((useOf true d).getD .unknown, true)
        | none => return (.unknown, true)
      | '#' => return (.without true (← accept '#'), true)
      | '%' => return (.without false (← accept '%'), true)
      | c => return ((useOf false c).getD .unknown, true)
  | none => return (.unknown, true)

/-- The text up to the closing one of two backquotes. A backslash masks some characters. -/
def backquoted (quoted : Bool) : Nat → Reading Chars
  | 0 => return []
  | fuel + 1 => do
    match ← take with
    | none => fail "EOF in backquote substitution"
    | some '\x60' => return []
    | some '\\' =>
      match ← take with
      | none => fail "EOF in backquote substitution"
      | some c =>
        let rest ← backquoted quoted fuel
        return if c == '\\' || c == '\x60' || c == '$' || (quoted && c == '"') then c :: rest
          else '\\' :: c :: rest
    | some c => return c :: (← backquoted quoted fuel)

/-- Spaces and comments are passed over. -/
def skipBlanks : Nat → Reading Unit
  | 0 => return ()
  | fuel + 1 => do
    match ← peek with
    | some '#' =>
      modify fun source => { source with rest := source.rest.dropWhile (· != '\n') }
    | some c =>
      if c == ' ' || c == '\t' then
        discard takeRaw
        skipBlanks fuel
    | none => return ()

/-- A word without its quotes. -/
def plainText (word : Word) : Chars :=
  word.flatMap fun piece =>
    match piece with
    | .text _ text => text
    | _ => []

/-- The words that are keywords where a command may stand. -/
def keywords : List String :=
  ["!", "case", "do", "done", "elif", "else", "esac", "fi", "for", "if", "in", "then", "until",
   "while", "\x7b", "\x7d"]

/-- A token as messages show it. -/
def Token.shown : Token → String
  | .word _ _ => "word"
  | .keyword name => "\"" ++ name ++ "\""
  | .sign text => "\"" ++ text ++ "\""
  | .redirection _ _ => "redirection"
  | .fromText _ _ => "redirection"
  | .newline => "newline"
  | .finish => "end of file"

/-- Fails at a token, and tells which one should stand there. -/
def unexpected {α : Type} (token : Token) (wanted : Option String) : Reading α :=
  fail (Token.shown token ++ " unexpected" ++
    wanted.elim "" fun wanted => " (expecting " ++ wanted ++ ")")

/-- A redirection from its sign on. -/
def redirection (channel : Option Nat) : Reading Token := do
  if ← accept '>' then
    let channel := channel.getD 1
    if ← accept '>' then return .redirection channel .append
    else if ← accept '|' then return .redirection channel .overwrite
    else if ← accept '&' then return .redirection channel .copy
    else return .redirection channel .write
  else
    discard (accept '<')
    let channel := channel.getD 0
    if ← accept '<' then return .fromText channel (← accept '-')
    else if ← accept '&' then return .redirection channel .copy
    else if ← accept '>' then return .redirection channel .readWrite
    else return .redirection channel .read

/-- A sign that is not a word. -/
def sign? : Reading (Option Token) := do
  let doubled (c : Char) (single double : String) : Reading (Option Token) := do
    if ← accept c then return some (.sign double) else return some (.sign single)
  match ← peek with
  | none => return some .finish
  | some '\n' =>
    discard takeRaw
    return some .newline
  | some '&' =>
    discard takeRaw
    doubled '&' "&" "&&"
  | some '|' =>
    discard takeRaw
    doubled '|' "|" "||"
  | some ';' =>
    discard takeRaw
    doubled ';' ";" ";;"
  | some '(' =>
    discard takeRaw
    return some (.sign "(")
  | some ')' =>
    discard takeRaw
    return some (.sign ")")
  | some _ => return none

/-- The lines of a text up to its ending. -/
def textLines (awaited : Awaited) : Nat → Reading Chars
  | 0 => return []
  | fuel + 1 => do
    match ← takeLine with
    | none => return []
    | some line =>
      let line := if awaited.cutsTabs then line.dropWhile (· == '\t') else line
      if line == awaited.ending then return []
      else return line ++ '\n' :: (← textLines awaited fuel)

/-- Where a list of commands stands. -/
inductive ListPlace where
  /-- A line of the script. -/
  | line
  /-- A part of a command that may not be empty. -/
  | body
  /-- A part of a command that may be empty. -/
  | optional
  deriving DecidableEq

/-- The token ends a list of commands. -/
def endsList : Token → Bool
  | .finish => true
  | .sign text => text == ")" || text == ";;"
  | .keyword name => ["do", "done", "elif", "else", "esac", "fi", "then", "\x7d"].contains name
  | _ => false

/-- The names of commands that functions may not have. -/
def specialNames : List String :=
  [".", ":", "break", "continue", "eval", "exec", "exit", "export", "local", "readonly", "return",
   "set", "shift", "times", "trap", "unset"]

/-- Puts a token back. -/
def putBack (token : Token) : Reading Unit :=
  modify fun source => { source with back := some token }

/-- A word as the words of one that is set, where it sets anything. -/
def sortWord (word : Word) (assignments : List (String × Word)) (words : List Word) :
    List (String × Word) × List Word :=
  match words, assignment? word with
  | [], some assignment => (assignments ++ [assignment], [])
  | _, _ => (assignments, words ++ [word])

mutual

/-- The pieces of a word up to its end, backwards, and whether any of them is quoted. The first
number bounds the steps. -/
def pieces (setting : Setting) (quoted : Bool) (done : List Piece) :
    Nat → Reading (List Piece × Bool)
  | 0 => fail "word too long"
  | fuel + 1 => do
    let mask := setting.quoted
    match setting, ← peek with
    | .plain, none => return (done, quoted)
    | .lines, none => return (done, quoted)
    | .quotes, none => fail "Unterminated quoted string"
    | .braces true _, none => fail "Unterminated quoted string"
    | .braces false _, none => fail "Missing '\x7d'"
    | .expression _, none => fail "Missing '))'"
    | _, some '\\' =>
      discard takeRaw
      match ← takeRaw with
      | none => pieces setting true (push true ['\\'] done) fuel
      | some c =>
        let text := if isMasked setting c then [c] else ['\\', c]
        pieces setting true (push true text done) fuel
    | _, some '$' =>
      discard takeRaw
      let piece ← dollar mask fuel
      match piece with
      | .text _ text => pieces setting quoted (push mask text done) fuel
      | piece => pieces setting quoted (piece :: done) fuel
    | _, some '\x60' =>
      discard takeRaw
      let inner ← backquoted mask fuel
      let source ← get
      let (command, after) ← (commands .optional fuel).run
        { rest := inner, line := source.line, count := source.count }
      let token ← (next false false fuel).run after
      match token with
      | (.finish, after) =>
        set { source with texts := source.texts ++ after.texts, count := after.count }
        pieces setting quoted (.output mask command :: done) fuel
      | (token, _) => unexpected token none
    | .plain, some c =>
      if endsWord c then return (done, quoted)
      else quoteOr setting quoted done c fuel
    | .braces false inner, some c =>
      if c == '\x7d' && !inner then
        discard takeRaw
        return (done, quoted)
      else quoteOr setting quoted done c fuel
    | .braces true inner, some c =>
      discard takeRaw
      if c == '\x7d' && !inner then return (done, quoted)
      else if c == '"' then pieces (.braces true (!inner)) true done fuel
      else pieces setting quoted (push true [c] done) fuel
    | .quotes, some c =>
      discard takeRaw
      if c == '"' then return (done, true) else pieces setting quoted (push true [c] done) fuel
    | .lines, some c =>
      discard takeRaw
      pieces setting quoted (push true [c] done) fuel
    | .expression depth, some c =>
      discard takeRaw
      if c == '(' then pieces (.expression (depth + 1)) quoted (push true [c] done) fuel
      else if c == ')' then
        match depth with
        | depth + 1 => pieces (.expression depth) quoted (push true [c] done) fuel
        | 0 =>
          if ← accept ')' then return (done, quoted)
          else pieces setting quoted (push true [c] done) fuel
      else pieces setting quoted (push true [c] done) fuel
termination_by structural fuel => fuel

/-- A quote or any other character outside quotes, and what follows it. -/
def quoteOr (setting : Setting) (quoted : Bool) (done : List Piece) (c : Char) :
    Nat → Reading (List Piece × Bool)
  | 0 => fail "word too long"
  | fuel + 1 => do
    discard takeRaw
    if c == '\x27' then
      let text ← singleQuoted
      pieces setting true (push true text done) fuel
    else if c == '"' then
      let (inner, _) ← pieces .quotes true [] fuel
      pieces setting true ((if inner.isEmpty then [.text true []] else inner) ++ done) fuel
    else pieces setting quoted (push false [c] done) fuel
termination_by structural fuel => fuel

/-- What a dollar sign starts, from behind it on. -/
def dollar (quoted : Bool) : Nat → Reading Piece
  | 0 => fail "word too long"
  | fuel + 1 => do
    match ← peek with
    | some '(' =>
      discard takeRaw
      if ← accept '(' then
        let (inner, _) ← pieces (.expression 0) false [] fuel
        return .value quoted inner.reverse
      else
        let awaited := (← get).awaited
        modify fun source => { source with awaited := [] }
        let command ← commands .optional fuel
        let token ← next false false fuel
        match token with
        | .sign ")" =>
          modify fun source => { source with awaited }
          return .output quoted command
        | token => unexpected token (some "\")\"")
    | some '\x7b' =>
      discard takeRaw
      let name ← bracedName fuel
      let (use, hasWord) ←
        match name with
        | some (_, isLength) => bracedUse isLength
        | none => pure (.unknown, true)
      let inQuotes :=
        match use with
        | .without _ _ => false
        | _ => quoted
      let word ← if hasWord then pieces (.braces inQuotes false) false [] fuel else pure ([], false)
      return .parameter quoted ((name.map Prod.fst).getD "") use word.1.reverse
    | some c =>
      if startsName c then
        return .parameter quoted (String.ofList (← takeWhile isNamePart fuel)) .value []
      else if isSpecial c then
        discard takeRaw
        return .parameter quoted (String.ofList [c]) .value []
      else return .text quoted ['$']
    | none => return .text quoted ['$']
termination_by structural fuel => fuel

/-- The next token. Keywords are looked for, and newlines passed over, only where that is asked
for. -/
def next (findsKeywords skipsNewlines : Bool) : Nat → Reading Token
  | 0 => fail "script too long"
  | fuel + 1 => do
    let token ← raw fuel
    match token with
    | .newline =>
      if skipsNewlines then
        readTexts fuel
        next findsKeywords skipsNewlines fuel
      else return .newline
    | .word [.text false text] false =>
      let name := String.ofList text
      if findsKeywords && keywords.contains name then return .keyword name else return token
    | token => return token
termination_by structural fuel => fuel

/-- The token that was put back, or the next one. -/
def raw : Nat → Reading Token
  | 0 => fail "script too long"
  | fuel + 1 => do
    match (← get).back with
    | some token =>
      modify fun source => { source with back := none }
      return token
    | none =>
      skipBlanks fuel
      match ← sign? with
      | some token => return token
      | none =>
        let (word, quoted) ← pieces .plain false [] fuel
        let follows ← peek
        if follows == some '<' || follows == some '>' then
          match word, quoted with
          | [], false => redirection none
          | [.text false [c]], false =>
            if c.isDigit then redirection (some (c.toNat - '0'.toNat))
            else return .word word.reverse quoted
          | _, _ => return .word word.reverse quoted
        else return .word word.reverse quoted
termination_by structural fuel => fuel

/-- Reads the texts that are awaited at the end of a line. -/
def readTexts : Nat → Reading Unit
  | 0 => fail "script too long"
  | fuel + 1 => do
    match (← get).awaited with
    | [] => return ()
    | awaited :: rest =>
      modify fun source => { source with awaited := rest }
      let body ← textLines awaited ((← get).rest.length + 1)
      let source ← get
      let (word, inner) ←
        if awaited.quoted then pure ([Piece.text true body], { source with texts := [] })
        else
          let lines := (body.filter (· == '\n')).length
          let (result, inner) ← (pieces .lines false [] fuel).run
            { rest := body, line := source.line - lines - 1, count := source.count }
          pure (result.1.reverse, inner)
      set { source with
        texts := source.texts ++ inner.texts ++ [(awaited.number, word)], count := inner.count }
      readTexts fuel
termination_by structural fuel => fuel

/-- The target of a redirection. -/
def target (token : Token) : Nat → Reading Redirection
  | 0 => fail "script too long"
  | fuel + 1 => do
    let found ← next false false fuel
    match token, found with
    | .redirection channel kind, .word word _ => return .toWord channel kind word
    | .fromText channel cutsTabs, .word word quoted =>
      let source ← get
      let number := source.count
      let awaited : Awaited := { number, ending := plainText word, cutsTabs, quoted }
      set { source with awaited := source.awaited ++ [awaited], count := number + 1 }
      return .fromText channel number
    | _, found => unexpected found none
termination_by structural fuel => fuel

/-- A list of commands. -/
def commands (place : ListPlace) : Nat → Reading (Option Command)
  | 0 => fail "script too long"
  | fuel + 1 => moreCommands place true none fuel
termination_by structural fuel => fuel

/-- The commands of a list behind those that were read. -/
def moreCommands (place : ListPlace) (first : Bool) (done : Option Command) :
    Nat → Reading (Option Command)
  | 0 => fail "script too long"
  | fuel + 1 => do
    let inLine := place == .line
    let token ← next true (!inLine) fuel
    match token with
    | .newline =>
      readTexts fuel
      return done
    | .finish =>
      readTexts fuel
      putBack .finish
      return done
    | token =>
      putBack token
      if !inLine && (place == .optional || !first) && endsList token then return done
      else
        let command ← chain fuel
        let token ← next false false fuel
        let isBackground :=
          match token with
          | .sign "&" => true
          | _ => false
        let command := if isBackground then .background command else command
        let done := done.elim command fun before => .sequence before command
        match token with
        | .finish =>
          readTexts fuel
          putBack .finish
          return some done
        | .newline =>
          putBack .newline
          moreCommands place false (some done) fuel
        | .sign "&" => moreCommands place false (some done) fuel
        | .sign ";" => moreCommands place false (some done) fuel
        | token =>
          if inLine then unexpected token none
          else
            putBack token
            return some done
termination_by structural fuel => fuel

/-- Pipelines joined by signs that depend on how the one before ended. -/
def chain : Nat → Reading Command
  | 0 => fail "script too long"
  | fuel + 1 => do
    let first ← pipeline false false fuel
    moreChain first fuel
termination_by structural fuel => fuel

/-- The pipelines of a chain behind those that were read. -/
def moreChain (done : Command) : Nat → Reading Command
  | 0 => fail "script too long"
  | fuel + 1 => do
    let token ← next false false fuel
    match token with
    | .sign "&&" => moreChain (.both done (← pipeline true true fuel)) fuel
    | .sign "||" => moreChain (.either done (← pipeline true true fuel)) fuel
    | token =>
      putBack token
      return done
termination_by structural fuel => fuel

/-- Commands each of which reads what the one before it writes. -/
def pipeline (findsKeywords skipsNewlines : Bool) : Nat → Reading Command
  | 0 => fail "script too long"
  | fuel + 1 => do
    let token ← next findsKeywords skipsNewlines fuel
    let (isNegated, findsKeywords) ←
      match token with
      | .keyword "!" => pure (true, true)
      | token =>
        putBack token
        pure (false, false)
    let first ← command findsKeywords false fuel
    let rest ← morePipeline fuel
    let whole := if rest.isEmpty then first else .pipeline (first :: rest)
    return if isNegated then .negated whole else whole
termination_by structural fuel => fuel

/-- The commands of a pipeline behind the first one. -/
def morePipeline : Nat → Reading (List Command)
  | 0 => fail "script too long"
  | fuel + 1 => do
    let token ← next false false fuel
    match token with
    | .sign "|" =>
      let command ← command true true fuel
      return command :: (← morePipeline fuel)
    | token =>
      putBack token
      return []
termination_by structural fuel => fuel

/-- A keyword that has to follow. -/
def demand (name : String) (skipsNewlines : Bool) : Nat → Reading Unit
  | 0 => fail "script too long"
  | fuel + 1 => do
    let token ← next true skipsNewlines fuel
    match token with
    | .keyword found =>
      if found == name then return () else unexpected token (some ("\"" ++ name ++ "\""))
    | token => unexpected token (some ("\"" ++ name ++ "\""))
termination_by structural fuel => fuel

/-- A list of commands that may not be empty. -/
def body : Nat → Reading Command
  | 0 => fail "script too long"
  | fuel + 1 => return (← commands .body fuel).getD default
termination_by structural fuel => fuel

/-- A command with the redirections behind it. -/
def command (findsKeywords skipsNewlines : Bool) : Nat → Reading Command
  | 0 => fail "script too long"
  | fuel + 1 => do
    let token ← next findsKeywords skipsNewlines fuel
    let line := (← get).line
    match token with
    | .keyword "if" => redirected line (← branch fuel) fuel
    | .keyword "while" => redirected line (← loop false fuel) fuel
    | .keyword "until" => redirected line (← loop true fuel) fuel
    | .keyword "for" => redirected line (← each line fuel) fuel
    | .keyword "case" => redirected line (← choice line fuel) fuel
    | .keyword "\x7b" =>
      let inner ← body fuel
      demand "\x7d" false fuel
      redirected line inner fuel
    | .sign "(" =>
      let inner ← body fuel
      match ← next false false fuel with
      | .sign ")" => redirected line (.subshell line inner []) fuel
      | token => unexpected token (some "\")\"")
    | .word _ _ =>
      putBack token
      simple line [] [] [] fuel
    | .redirection _ _ =>
      putBack token
      simple line [] [] [] fuel
    | .fromText _ _ =>
      putBack token
      simple line [] [] [] fuel
    | token => unexpected token none
termination_by structural fuel => fuel

/-- The redirections behind a command. -/
def redirected (line : Nat) (inner : Command) : Nat → Reading Command
  | 0 => fail "script too long"
  | fuel + 1 => do
    let redirections ← redirections fuel
    match inner, redirections with
    | inner, [] => return inner
    | .subshell line inner _, redirections => return .subshell line inner redirections
    | inner, redirections => return .redirected line inner redirections
termination_by structural fuel => fuel

/-- Redirections one after the other. -/
def redirections : Nat → Reading (List Redirection)
  | 0 => fail "script too long"
  | fuel + 1 => do
    let token ← next true false fuel
    match token with
    | .redirection _ _ =>
      let first ← target token fuel
      return first :: (← redirections fuel)
    | .fromText _ _ =>
      let first ← target token fuel
      return first :: (← redirections fuel)
    | token =>
      putBack token
      return []
termination_by structural fuel => fuel

/-- A branch from behind its first keyword on. -/
def branch : Nat → Reading Command
  | 0 => fail "script too long"
  | fuel + 1 => do
    let test ← body fuel
    demand "then" false fuel
    let yes ← body fuel
    match ← next true false fuel with
    | .keyword "elif" => return .branch test yes (some (← branch fuel))
    | .keyword "else" =>
      let no ← body fuel
      demand "fi" false fuel
      return .branch test yes (some no)
    | .keyword "fi" => return .branch test yes none
    | token => unexpected token (some "\"fi\"")
termination_by structural fuel => fuel

/-- A loop from behind its first keyword on. -/
def loop (endsWhenTrue : Bool) : Nat → Reading Command
  | 0 => fail "script too long"
  | fuel + 1 => do
    let test ← body fuel
    demand "do" false fuel
    let inner ← body fuel
    demand "done" false fuel
    return .loop endsWhenTrue test inner
termination_by structural fuel => fuel

/-- Words up to a token of another kind. -/
def wordsUntil : Nat → Reading (List Word × Token)
  | 0 => fail "script too long"
  | fuel + 1 => do
    match ← next false false fuel with
    | .word word _ =>
      let (words, token) ← wordsUntil fuel
      return (word :: words, token)
    | token => return ([], token)
termination_by structural fuel => fuel

/-- A loop over words from behind its first keyword on. -/
def each (line : Nat) : Nat → Reading Command
  | 0 => fail "script too long"
  | fuel + 1 => do
    let name ←
      match ← next false false fuel with
      | .word [.text false text] false =>
        if isName text then pure (String.ofList text) else fail "Bad for loop variable"
      | _ => fail "Bad for loop variable"
    let words ←
      match ← next true true fuel with
      | .keyword "in" =>
        let (words, token) ← wordsUntil fuel
        match token with
        | .newline => readTexts fuel
        | .sign ";" => pure ()
        | token => unexpected token none
        pure words
      | .sign ";" => pure [[.parameter true "@" .value []]]
      | token =>
        putBack token
        pure [[.parameter true "@" .value []]]
    demand "do" true fuel
    let inner ← body fuel
    demand "done" false fuel
    return .each line name words inner
termination_by structural fuel => fuel

/-- A choice by patterns from behind its first keyword on. -/
def choice (line : Nat) : Nat → Reading Command
  | 0 => fail "script too long"
  | fuel + 1 => do
    match ← next false false fuel with
    | .word word _ =>
      demand "in" true fuel
      return .choice line word (← cases fuel)
    | token => unexpected token (some "word")
termination_by structural fuel => fuel

/-- The cases of a choice. -/
def cases : Nat → Reading (List (List Word × Option Command))
  | 0 => fail "script too long"
  | fuel + 1 => do
    let token ← next true true fuel
    match token with
    | .keyword "esac" => return []
    | token =>
      let token ←
        match token with
        | .sign "(" => next false false fuel
        | token => pure token
      let patterns ← patterns token fuel
      let inner ← commands .optional fuel
      let token ← next true true fuel
      match token with
      | .keyword "esac" => return [(patterns, inner)]
      | .sign ";;" => return (patterns, inner) :: (← cases fuel)
      | token => unexpected token (some "\";;\"")
termination_by structural fuel => fuel

/-- The patterns of a case, up to the parenthesis behind them. -/
def patterns (token : Token) : Nat → Reading (List Word)
  | 0 => fail "script too long"
  | fuel + 1 => do
    let word ←
      match token with
      | .word word _ => pure word
      | .keyword name => pure [.text false name.toList]
      | token => unexpected token none
    match ← next false false fuel with
    | .sign "|" => return word :: (← patterns (← next false false fuel) fuel)
    | .sign ")" => return [word]
    | token => unexpected token (some "\")\"")
termination_by structural fuel => fuel

/-- A simple command from behind the parts that were read. A word and parentheses define a
function. -/
def simple (line : Nat) (assignments : List (String × Word)) (words : List Word)
    (redirections : List Redirection) : Nat → Reading Command
  | 0 => fail "script too long"
  | fuel + 1 => do
    let token ← next false false fuel
    match token with
    | .word word _ =>
      let (assignments, words) := sortWord word assignments words
      simple line assignments words redirections fuel
    | .redirection _ _ =>
      let redirection ← target token fuel
      simple line assignments words (redirections ++ [redirection]) fuel
    | .fromText _ _ =>
      let redirection ← target token fuel
      simple line assignments words (redirections ++ [redirection]) fuel
    | .sign "(" =>
      match assignments, words, redirections with
      | [], [name], [] =>
        match ← next false false fuel with
        | .sign ")" =>
          let text :=
            match name with
            | [.text false text] => text
            | _ => []
          if isName text && !specialNames.contains (String.ofList text) then
            return .define (String.ofList text) (← command true true fuel)
          else fail "Bad function name"
        | token => unexpected token (some "\")\"")
      | _, _, _ =>
        putBack token
        return .simple line assignments words redirections
    | token =>
      putBack token
      return .simple line assignments words redirections
termination_by structural fuel => fuel

end

end Reading

/-- A line of a script with what is left of the script, or nothing at its end. -/
def Source.line? (source : Source) : Except SyntaxFault (Option (Option Command × Source)) := do
  let fuel := 16 * source.rest.length + 64
  let (command, after) ← (Reading.commands .line fuel).run source
  match command, after.back with
  | none, some .finish => return none
  | command, _ => return some (command, after)

end Scaffold.Shell
