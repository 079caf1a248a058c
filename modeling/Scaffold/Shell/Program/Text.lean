import Scaffold.Digest
import Scaffold.Shell.Program.Files

/-!
# Showing text

Programs that show files, whole or in part, count what is in them, and put lines together.
-/

namespace Scaffold.Shell.Program

/-- Does something with the content of each of some files, or complains about it. The input is read
if there are none. -/
def withFiles (program : String) (words : List Chars) (complaint : Chars → PathFault → Chars)
    (step : Chars → Chars → Job → Job) (job : Job) : Job :=
  let words := if words.isEmpty then [['-']] else words
  forEach
    (fun word job =>
      match read job word with
      | .ok text => (step word text job).drain [word]
      | .error fault => job.complain program (complaint word fault))
    words job

/-- The usual complaint about a file. -/
def plainComplaint (word : Chars) (fault : PathFault) : Chars :=
  shown word ++ ": ".toList ++ fault.wording

/-- The contents of some files one after the other. -/
def gathered (program : String) (words : List Chars) (job : Job) : Chars × Job :=
  (if words.isEmpty then [['-']] else words).foldl
    (fun (text, job) word =>
      match read job word with
      | .ok more => (text ++ more, job.drain [word])
      | .error fault => (text, job.complain program (plainComplaint word fault)))
    ([], job)

/-- A byte as it is shown where nothing else can be. -/
def visibleByte (tabs : Bool) (c : Char) : Chars :=
  let low (n : Nat) : Chars :=
    if n < 32 then ['^', Char.ofNat (n + 64)] else if n == 127 then ['^', '?'] else [Char.ofNat n]
  if c == '\n' || (c == '\t' && !tabs) then [c]
  else if c.toNat < 128 then low c.toNat
  else "M-".toList ++ low (c.toNat - 128)

/-- A text with the marks that `cat` is asked for, and the number of the next line. -/
def decorated (given : Given) (text : Chars) (number : Nat) : Chars × Nat :=
  let has (letters : String) := letters.toList.any given.has
  let lines := linesOf text
  let lines :=
    if has "s" then
      (lines.foldl
        (fun (kept : List Chars) line =>
          if line == ['\n'] && kept.head? == some ['\n'] then kept else line :: kept) []).reverse
    else lines
  lines.foldl
    (fun (out, number) line =>
      let numbered := if has "b" then line != ['\n'] else has "n"
      let mark := if numbered then padded 6 number ++ ['\t'] else []
      let body := bare line
      let body :=
        if has "vAet" then body.flatMap (visibleByte (has "TAt"))
        else if has "T" then body.flatMap fun c => if c == '\t' then "^I".toList else [c]
        else body
      let ending :=
        if line.getLast? == some '\n' then if has "EAe" then "$\n".toList else ['\n'] else []
      (out ++ mark ++ body ++ ending, if numbered then number + 1 else number))
    ([], number)

/-- Prints files. -/
def cat : Program :=
  let known : Known :=
    { letters := "AbeEnstTuv"
      names := [("number", 'n'), ("number-nonblank", 'b'), ("show-ends", 'E'),
        ("squeeze-blank", 's'), ("show-tabs", 'T'), ("show-all", 'A')] }
  withOptions "cat" known fun given job =>
    let words := if given.words.isEmpty then [['-']] else given.words
    let step (task : Job × Nat) (word : Chars) : Job × Nat :=
      let (job, number) := task
      match read job word with
      | .ok text =>
        let (text, number) :=
          if given.options.isEmpty then (text, number) else decorated given text number
        let job := job.print text
        (if word == ['-'] then { job with input := [] } else job, number)
      | .error fault =>
        (job.complain "cat" (shown word ++ ": ".toList ++ fault.wording), number)
    (words.foldl step (job, 1)).1

/-- How many words a text has. -/
def wordCount (text : Chars) : Nat :=
  let isBlank (c : Char) := c == ' ' || ('\t' ≤ c && c ≤ '\r')
  (text.foldl
    (fun (count, inside) c =>
      if isBlank c then (count, false) else (if inside then count else count + 1, true))
    (0, false)).1

/-- How many characters a text has, and not bytes. -/
def characterCount (text : Chars) : Nat :=
  (text.filter fun c => c.toNat < 0x80 || 0xC0 ≤ c.toNat).length

/-- The counts of a text that are asked for. -/
def counts (given : Given) (text : Chars) : List Nat :=
  let asked (letters : String) (default : Bool) :=
    letters.toList.any given.has || (given.options.isEmpty && default)
  let lines := text.foldl (fun count c => if c == '\n' then count + 1 else count) 0
  let longest := ((bareLines text).map characterCount).foldl max 0
  (if asked "l" true then [lines] else []) ++ (if asked "w" true then [wordCount text] else []) ++
    (if asked "m" false then [characterCount text] else []) ++
    (if asked "c" true then [text.length] else []) ++ if asked "L" false then [longest] else []

/-- Counts lines, words and bytes. -/
def wc : Program := withOptions "wc"
    { letters := "clmwL"
      names := [("lines", 'l'), ("words", 'w'), ("bytes", 'c'), ("chars", 'm'),
        ("max-line-length", 'L')] }
  fun given job =>
    let words := if given.words.isEmpty then [['-']] else given.words
    let contents := words.map fun word => (word, read job word)
    let sizes := contents.map fun (_, outcome) =>
      match outcome with
      | .ok text => text.length
      | .error _ => 0
    let isOdd (word : Chars) (outcome : Except PathFault Chars) : Bool :=
      (word == ['-'] && !job.ofFile) ||
        match outcome with
        | .error .directory => true
        | _ => false
    let oneCount := (counts given []).length = 1
    let width :=
      if words.length = 1 && oneCount then 1
      else if contents.any fun (word, outcome) => isOdd word outcome then 7
      else (sizes.foldl (· + ·) 0).repr.length
    let line (numbers : List Nat) (name : Chars) : Chars :=
      [' '].intercalate (numbers.map (padded width)) ++ if name.isEmpty then [] else ' ' :: name
    let nameOf (word : Chars) : Chars := if given.words.isEmpty then [] else shown word
    let (job, total) := contents.foldl
      (fun (job, total) (word, outcome) =>
        let add (numbers : List Nat) := List.zipWith (· + ·) total numbers
        match outcome with
        | .ok text =>
          let numbers := counts given text
          (Job.printLine (line numbers (nameOf word)) job, add numbers)
        | .error fault =>
          let job := Job.complain "wc" (plainComplaint word fault) job
          if fault == .directory then
            (job.printLine (line ((counts given []).map fun _ => 0) (nameOf word)), total)
          else (job, total))
      (job, (counts given []).map fun _ => 0)
    let job := job.drain words
    if 1 < words.length then job.printLine (line total "total".toList) else job

/-- A number of units with a sign before it. -/
structure Amount where
  sign : Option Char
  value : Nat

/-- The amount that a text writes. -/
def amount? (text : Chars) : Option Amount :=
  let read (sign : Option Char) (text : Chars) : Option Amount :=
    let digits := text.takeWhile Char.isDigit
    let scale :=
      match text.drop digits.length with
      | [] => some 1
      | ['k'] | ['K'] => some 1024
      | ['b'] => some 512
      | ['M'] => some 1048576
      | _ => none
    match natural? digits, scale with
    | some value, some scale => some { sign, value := value * scale }
    | _, _ => none
  match text with
  | '-' :: rest => read (some '-') rest
  | '+' :: rest => read (some '+') rest
  | _ => read none text

/-- Turns an amount without its option, such as `-5`, into one with it. -/
def shortAmounts (isHead : Bool) (words : List Chars) : List Chars :=
  match words with
  | (sign :: c :: rest) :: others =>
    if !(c.isDigit && rest.all Char.isDigit) then words
    else if sign == '-' then ['-', 'n'] :: (c :: rest) :: others
    else if sign == '+' && !isHead && others.length ≤ 1 then
      ['-', 'n'] :: ('+' :: c :: rest) :: others
    else words
  | _ => words

/-- Prints parts of files, with titles if there are more than one. What is left of an input that is
a file can be read by others. -/
def printParts (program : String) (isHead : Bool) (given : Given) (part : Chars → Chars)
    (job : Job) : Job :=
  let words := if given.words.isEmpty then [['-']] else given.words
  let titled := given.has 'v' || (1 < words.length && !given.has 'q')
  let step (task : Job × Bool) (word : Chars) : Job × Bool :=
    let (job, isFirst) := task
    let title :=
      if titled then
        (if isFirst then [] else ['\n']) ++ "==> ".toList ++
          (if word == ['-'] then "standard input".toList else word) ++ " <==\n".toList
      else []
    match read job word with
    | .ok text =>
      let shown := part text
      let job := job.print (title ++ shown)
      let left := if job.ofFile && isHead then text.drop shown.length else []
      (if word == ['-'] then { job with input := left } else job, false)
    | .error .directory =>
      ((job.print title).complain program
        ("error reading ".toList ++ inQuotes word ++ ": Is a directory".toList), false)
    | .error fault =>
      (job.complain program
        ("cannot open ".toList ++ inQuotes word ++ " for reading: ".toList ++ fault.wording),
        isFirst)
  (words.foldl step (job, true)).1

/-- Prints a part at one end of files: so many lines or bytes. -/
def endPart (program : String) (isHead : Bool) : Program := fun words job =>
  let short := shortAmounts isHead words
  if !isHead && short != words && 3 < short.length then
    job.complain program
      ("option used in invalid context -- ".toList ++ (words.headD []).drop 1)
  else withOptions program
    { letters := "n:c:qvzf"
      names := [("lines", 'n'), ("bytes", 'c'), ("quiet", 'q'), ("verbose", 'v')] }
    (fun given job =>
      let ofBytes := (given.options.reverse.find? fun (c, _) => c == 'n' || c == 'c').any fun
        (c, _) => c == 'c'
      let text := (given.value? (if ofBytes then 'c' else 'n')).getD "10".toList
      match amount? text with
      | none =>
        job.complain program
          (("invalid number of " ++ if ofBytes then "bytes: " else "lines: ").toList ++
            inCurls text)
      | some amount =>
        let pick {α : Type} (units : List α) : List α :=
          match isHead, amount.sign with
          | true, some '-' => units.take (units.length - amount.value)
          | true, _ => units.take amount.value
          | false, some '+' => units.drop (amount.value - 1)
          | false, _ => units.drop (units.length - amount.value)
        let part (text : Chars) : Chars :=
          if ofBytes then pick text else (pick (linesOf text)).flatten
        printParts program isHead given part job)
    1 short job

/-- Prints lines backwards. -/
def tac : Program := withOptions "tac" { letters := "bs:r" } fun given job =>
  withFiles "tac" given.words
    (fun word fault =>
      if fault == .directory then shown word ++ ": read error: Invalid argument".toList
      else "failed to open ".toList ++ inQuotes word ++ " for reading: ".toList ++ fault.wording)
    (fun _ text job => job.print (linesOf text).reverse.flatten) job

/-- Prints the characters of lines backwards. -/
def rev : Program := withOptions "rev" { letters := "" } fun given job =>
  withFiles "rev" given.words
    (fun word fault => "cannot open ".toList ++ word ++ ": ".toList ++ fault.wording)
    (fun _ text job =>
      job.print ((linesOf text).flatMap fun line =>
        let body := bare line
        let reversed := bytesOf (String.ofList (textOf body).toList.reverse)
        reversed ++ line.drop body.length))
    job

/-- Prints lines with numbers. -/
def nl : Program := withOptions "nl" { letters := "b:n:w:s:v:i:" } fun given job =>
  let (text, job) := gathered "nl" given.words job
  let all := given.value? 'b' == some ['a']
  let width := ((given.value? 'w').bind natural?).getD 6
  let separator := (given.value? 's').getD ['\t']
  let (out, _) := (bareLines text).foldl
    (fun (out, number) line =>
      if all || !line.isEmpty then
        (out ++ padded width number ++ separator ++ line ++ ['\n'], number + 1)
      else (out ++ List.replicate (width + separator.length) ' ' ++ ['\n'], number))
    ([], 1)
  job.print out

/-- A text of `tr` with its backslashes read; characters that are read so mean themselves. The
number bounds the steps. -/
def unescaped : Nat → Chars → Marked
  | 0, _ => []
  | _ + 1, [] => []
  | fuel + 1, '\\' :: c :: rest =>
    let octal := (c :: rest).take 3 |>.takeWhile fun c => '0' ≤ c && c ≤ '7'
    if !octal.isEmpty then
      let value := octal.foldl (fun value c => 8 * value + (c.toNat - '0'.toNat)) 0
      (Char.ofNat (value % 256), true) :: unescaped fuel ((c :: rest).drop octal.length)
    else
      let read :=
        match c with
        | 'n' => '\n'
        | 't' => '\t'
        | 'r' => '\r'
        | 'a' => '\x07'
        | 'b' => '\x08'
        | 'f' => '\x0c'
        | 'v' => '\x0b'
        | c => c
      (read, true) :: unescaped fuel rest
  | fuel + 1, c :: rest => (c, false) :: unescaped fuel rest

/-- Joins texts with signs that are used one after the other. -/
def joinTurns (signs : Chars) (texts : List Chars) : Chars :=
  (texts.zipIdx).flatMap fun (text, place) =>
    if place = 0 then text else ((signs[(place - 1) % signs.length]?).toList ++ text)

/-- Joins lines. -/
def paste : Program := withOptions "paste"
    { letters := "d:sz", names := [("delimiters", 'd'), ("serial", 's')] }
  fun given job =>
    let raw := (given.value? 'd').getD ['\t']
    let signs := Pattern.plain (unescaped (raw.length + 1) raw)
    let words := if given.words.isEmpty then [['-']] else given.words
    let fault? := words.findSome? fun word =>
      match read job word with
      | .ok _ => none
      | .error fault => some (word, fault)
    match fault? with
    | some (word, fault) => job.complain "paste" (plainComplaint word fault)
    | none =>
      let linesIn (word : Chars) : List Chars :=
        match read job word with
        | .ok text => bareLines text
        | .error _ => []
      let job := job.drain words
      if given.has 's' then
        job.print (words.flatMap fun word => joinTurns signs (linesIn word) ++ ['\n'])
      else
        let inputs := (words.filter (· == ['-'])).length
        let columns := (words.zipIdx).map fun (word, place) =>
          if word == ['-'] then
            let turn := ((words.take place).filter (· == ['-'])).length
            ((linesIn word).zipIdx).filterMap fun (line, number) =>
              if number % inputs = turn then some line else none
          else linesIn word
        let height := (columns.map List.length).foldl max 0
        job.print ((List.range height).flatMap fun row =>
          joinTurns signs (columns.map fun column => column.getD row []) ++ ['\n'])

/-- Breaks long lines. -/
def fold : Program := withOptions "fold" { letters := "bsw:" } fun given job =>
  let width := max 1 (((given.value? 'w').bind natural?).getD 80)
  withFiles "fold" given.words plainComplaint
    (fun _ text job =>
      let (out, _) := text.foldl
        (fun (out, column) c =>
          if c == '\n' then (c :: out, 0)
          else if width ≤ column then (c :: '\n' :: out, 1)
          else (c :: out, column + 1))
        (([] : Chars), 0)
      job.print out.reverse)
    job

/-- Prints digests of files. -/
def digests : Program := withOptions "sha256sum" { letters := "bctwz" } fun given job =>
  withFiles "sha256sum" given.words plainComplaint
    (fun word text job =>
      job.printLine ((Digest.sha256 (toBytes text)).toList ++ "  ".toList ++ word))
    job

end Scaffold.Shell.Program
