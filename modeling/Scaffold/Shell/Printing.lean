import Scaffold.Number.Decimal
import Scaffold.Shell.Expression

/-!
# Printed texts

Words are printed as they are or by a format. Backslashes start signs for characters that are hard
to write.
-/

namespace Scaffold.Shell.Printing

/-- The characters that letters behind a backslash stand for. -/
def letters : List (Char × Char) :=
  [('\\', '\\'), ('a', '\x07'), ('b', '\x08'), ('e', '\x1b'), ('f', '\x0c'), ('n', '\n'),
   ('r', '\r'), ('t', '\t'), ('v', '\x0b')]

/-- The byte that at most so many octal digits write, and what follows them. -/
def octal (most : Nat) (text : Chars) : Char × Chars :=
  let run := (text.take most).takeWhile fun c => '0' ≤ c && c ≤ '7'
  let value := run.foldl (fun value c => value * 8 + (c.toNat - '0'.toNat)) 0
  (Char.ofNat (value % 256), text.drop run.length)

/-- What a backslash and the text behind it stand for, and what follows. A letter that means nothing
keeps its backslash. -/
def escaped (text : Chars) : Chars × Chars :=
  match text with
  | [] => (['\\'], [])
  | c :: rest =>
    if '0' ≤ c && c ≤ '7' then
      let (byte, after) := octal 3 text
      ([byte], after)
    else
      match letters.lookup c with
      | some byte => ([byte], rest)
      | none => (['\\', c], rest)

/-- The text with all signs replaced, and whether one of them ends all output. The number bounds the
steps. -/
def unescape : Nat → Chars → Chars × Bool
  | 0, _ => ([], false)
  | _ + 1, [] => ([], false)
  | fuel + 1, '\\' :: rest =>
    match rest with
    | 'c' :: _ => ([], true)
    | '0' :: digits =>
      let (byte, after) := octal 3 digits
      let (text, ended) := unescape fuel after
      (byte :: text, ended)
    | _ =>
      let (start, after) := escaped rest
      let (text, ended) := unescape fuel after
      (start ++ text, ended)
  | fuel + 1, c :: rest =>
    let (text, ended) := unescape fuel rest
    (c :: text, ended)

/-- Words with blanks between them. -/
def joined (words : List Chars) : Chars :=
  [' '].intercalate words

/-- The line that the shell's own command prints. -/
def echo (words : List Chars) : Chars :=
  let (newline, words) :=
    match words with
    | ['-', 'n'] :: words => (false, words)
    | words => (true, words)
  let text := joined words
  let (text, ended) := unescape (text.length + 1) text
  if newline && !ended then text ++ ['\n'] else text

/-- What a backslash stands for in the program of the same name, which also knows hexadecimal
digits. -/
def unescapeMore : Nat → Chars → Chars × Bool
  | 0, _ => ([], false)
  | _ + 1, [] => ([], false)
  | fuel + 1, '\\' :: rest =>
    let continued (start : Chars) (after : Chars) :=
      let (text, ended) := unescapeMore fuel after
      (start ++ text, ended)
    match rest with
    | 'c' :: _ => ([], true)
    | '0' :: digits =>
      let (byte, after) := octal 3 digits
      continued [byte] after
    | 'x' :: digits =>
      let run := (digits.take 2).takeWhile fun c => (Expression.digit? 16 c).isSome
      if run.isEmpty then continued ['\\', 'x'] digits
      else continued [Char.ofNat (Expression.digits 16 run).1] (digits.drop run.length)
    | _ =>
      let (start, after) := escaped rest
      continued start after
  | fuel + 1, c :: rest =>
    let (text, ended) := unescapeMore fuel rest
    (c :: text, ended)

/-- A word that holds options of the program. -/
def isOption (word : Chars) : Bool :=
  match word with
  | '-' :: letters => !letters.isEmpty && letters.all fun c => c == 'n' || c == 'e' || c == 'E'
  | _ => false

/-- The line that the program of the same name prints. -/
def echoProgram (words : List Chars) : Chars :=
  let options := words.takeWhile isOption
  let letters := options.flatten
  let text := joined (words.drop options.length)
  let escapes := (letters.filter fun c => c == 'e' || c == 'E').getLast? == some 'e'
  let (text, ended) := if escapes then unescapeMore (text.length + 1) text else (text, false)
  if letters.contains 'n' || ended then text else text ++ ['\n']

/-! ## Formats -/

/-- A directive of a format. -/
structure Directive where
  flags : Chars := []
  width : Nat := 0
  precision : Option Nat := none
  conversion : Char := 's'

/-- A text brought to a width. -/
def padded (directive : Directive) (text : Chars) : Chars :=
  let blanks := List.replicate (directive.width - text.length) ' '
  if directive.flags.contains '-' then text ++ blanks else blanks ++ text

/-- Digits with a sign or mark before them, brought to a width. -/
def paddedDigits (directive : Directive) (mark digits : Chars) : Chars :=
  let zeros (count : Nat) := List.replicate count '0'
  match directive.precision with
  | some precision => padded directive (mark ++ zeros (precision - digits.length) ++ digits)
  | none =>
    if directive.flags.contains '0' && !directive.flags.contains '-' then
      mark ++ zeros (directive.width - mark.length - digits.length) ++ digits
    else padded directive (mark ++ digits)

/-- A number with its sign. -/
def signMark (directive : Directive) (negative : Bool) : Chars :=
  if negative then ['-']
  else if directive.flags.contains '+' then ['+']
  else if directive.flags.contains ' ' then [' ']
  else []

/-- A whole number by a directive. -/
def wholeNumber (directive : Directive) (value : Int) : Chars :=
  let unsigned := (value % 18446744073709551616).toNat
  let hash := directive.flags.contains '#' && unsigned != 0
  match directive.conversion with
  | 'o' =>
    let digits := Nat.toDigits 8 unsigned
    paddedDigits directive [] (if hash then '0' :: digits else digits)
  | 'u' => paddedDigits directive [] (Nat.toDigits 10 unsigned)
  | 'x' => paddedDigits directive (if hash then ['0', 'x'] else []) (Nat.toDigits 16 unsigned)
  | 'X' =>
    paddedDigits directive (if hash then ['0', 'X'] else [])
      ((Nat.toDigits 16 unsigned).map Char.toUpper)
  | _ => paddedDigits directive (signMark directive (value < 0)) (Nat.toDigits 10 value.natAbs)

/-- The decimal number that a text starts with, and how long it is. -/
def decimal (text : Chars) : Number.Decimal × Nat :=
  let blanks := (text.takeWhile Expression.isBlank).length
  let body := text.drop blanks
  let negative := body.head? == some '-'
  let signs := if negative || body.head? == some '+' then 1 else 0
  let whole := (body.drop signs).takeWhile Char.isDigit
  let afterWhole := body.drop (signs + whole.length)
  let places :=
    match afterWhole with
    | '.' :: rest => rest.takeWhile Char.isDigit
    | _ => []
  let point := if afterWhole.head? == some '.' then 1 else 0
  if whole.isEmpty && places.isEmpty then ({ digits := 0 }, 0)
  else
    let afterPlaces := afterWhole.drop (point + places.length)
    let (exponent, length) : Int × Nat :=
      match afterPlaces with
      | e :: rest =>
        let minus := rest.head? == some '-'
        let signs := if minus || rest.head? == some '+' then 1 else 0
        let run := (rest.drop signs).takeWhile Char.isDigit
        if (e == 'e' || e == 'E') && !run.isEmpty then
          let value : Int := (Expression.digits 10 run).1
          (if minus then -value else value, 1 + signs + run.length)
        else (0, 0)
      | [] => (0, 0)
    ({ negative
       digits := (Expression.digits 10 (whole ++ places)).1
       exponent := exponent - places.length },
     blanks + signs + whole.length + point + places.length + length)

/-- A number with a point by a directive. -/
def realNumber (directive : Directive) (value : Number.Decimal) : Chars :=
  let shown := ((value.toDouble?.map fun double => double.fixed (directive.precision.getD 6)).getD
    "inf").toList
  let shown := if directive.precision == some 0 then shown.takeWhile (· != '.') else shown
  let negative := shown.head? == some '-'
  paddedDigits { directive with precision := none } (signMark directive negative)
    (if negative then shown.drop 1 else shown)

/-- What a format prints. -/
structure Printed where
  out : Chars := []
  /-- Messages, which do not end the printing. -/
  complaints : List Chars := []
  /-- A message that does. -/
  fault : Option Chars := none
  words : List Chars := []
  ended : Bool := false

/-- Adds a text. -/
def Printed.add (printed : Printed) (text : Chars) : Printed :=
  { printed with out := printed.out ++ text }

/-- The next word, and the rest of them. -/
def Printed.next (printed : Printed) : Option Chars × Printed :=
  (printed.words.head?, { printed with words := printed.words.tail })

/-- A complaint about a number of which only a part could be read. -/
def conversionComplaint? (word : Chars) (length : Nat) (inRange : Bool) : Option Chars :=
  if length < word.length then
    if length = 0 then some (word ++ ": expected numeric value".toList)
    else some (word ++ ": not completely converted".toList)
  else if inRange then none
  else some (word ++ ": Numerical result out of range".toList)

/-- The whole number that the next word writes. A quote stands for the number of the character
behind it. -/
def Printed.nextWhole (printed : Printed) (isSigned : Bool) : Int × Printed :=
  match printed.next with
  | (none, printed) => (0, printed)
  | (some word, printed) =>
    match word with
    | '"' :: rest => ((rest.headD '\x00').toNat, printed)
    | '\x27' :: rest => ((rest.headD '\x00').toNat, printed)
    | _ =>
      let blanks := (word.takeWhile Expression.isBlank).length
      let body := word.drop blanks
      let negative := body.head? == some '-'
      let signs := if negative || body.head? == some '+' then 1 else 0
      let (value, digits) := Expression.number (body.drop signs)
      let length := if digits = 0 then 0 else blanks + signs + digits
      let most : Int := if isSigned then Expression.greatest else 18446744073709551615
      let least : Int := if isSigned then Expression.least else -most
      let exact : Int := if negative then -(value : Int) else value
      let clamped := if exact < least then least else if most < exact then most else exact
      let complaint := conversionComplaint? word length (clamped == exact)
      (clamped, { printed with complaints := printed.complaints ++ complaint.toList })

/-- The number with a point that the next word writes. -/
def Printed.nextReal (printed : Printed) : Number.Decimal × Printed :=
  match printed.next with
  | (none, printed) => ({ digits := 0 }, printed)
  | (some word, printed) =>
    let (value, length) := decimal word
    let complaint := conversionComplaint? word length true
    (value, { printed with complaints := printed.complaints ++ complaint.toList })

/-- A width or a precision that stands in a format or is taken from the words. -/
def number? (format : Chars) (printed : Printed) : Option Int × Chars × Printed :=
  match format with
  | '*' :: rest =>
    let (value, printed) := printed.nextWhole true
    (some value, rest, printed)
  | _ =>
    let run := format.takeWhile Char.isDigit
    (if run.isEmpty then none else some ((Expression.digits 10 run).1 : Int),
     format.drop run.length, printed)

/-- Prints by a directive. -/
def Printed.direct (printed : Printed) (directive : Directive) (source : Chars) : Printed :=
  let cut (text : Chars) := directive.precision.elim text fun precision => text.take precision
  match directive.conversion with
  | 's' =>
    let (word, printed) := printed.next
    printed.add (padded directive (cut (word.getD [])))
  | 'b' =>
    let (word, printed) := printed.next
    let word := word.getD []
    let (text, ended) := unescape (word.length + 1) word
    { printed.add (padded directive (cut text)) with ended }
  | 'c' =>
    let (word, printed) := printed.next
    printed.add (padded directive [(word.getD []).headD '\x00'])
  | c =>
    if c == 'd' || c == 'i' then
      let (value, printed) := printed.nextWhole true
      printed.add (wholeNumber directive value)
    else if c == 'o' || c == 'u' || c == 'x' || c == 'X' then
      let (value, printed) := printed.nextWhole false
      printed.add (wholeNumber directive value)
    else if "aAeEfFgG".toList.contains c then
      let (value, printed) := printed.nextReal
      printed.add (realNumber directive value)
    else { printed with fault := some (source ++ ": invalid directive".toList) }

/-- Goes through a format once. The number bounds the steps. -/
def pass : Nat → Chars → Printed → Printed
  | 0, _, printed => printed
  | _ + 1, [], printed => printed
  | fuel + 1, c :: rest, printed =>
    if printed.ended || printed.fault.isSome then printed
    else if c == '\\' then
      let (text, after) := escaped rest
      pass fuel after (printed.add text)
    else if c != '%' then pass fuel rest (printed.add [c])
    else if rest.head? == some '%' then pass fuel (rest.drop 1) (printed.add ['%'])
    else
      let flags := rest.takeWhile fun c => "#-+ 0".toList.contains c
      let (width, afterWidth, printed) := number? (rest.drop flags.length) printed
      let (precision, afterPrecision, printed) :=
        match afterWidth with
        | '.' :: after =>
          let (value, after, printed) := number? after printed
          (some (value.getD 0), after, printed)
        | after => (none, after, printed)
      match afterPrecision with
      | [] => { printed with fault := some "missing format character".toList }
      | conversion :: after =>
        let width := width.getD 0
        let directive : Directive :=
          { flags := if width < 0 then '-' :: flags else flags
            width := width.natAbs
            precision := (precision.filter fun value => 0 ≤ value).map Int.toNat
            conversion }
        let source := '%' :: rest.take (rest.length - after.length)
        pass fuel after (printed.direct directive source)

/-- Prints words by a format, which is gone through as long as it takes words and there are some
left. -/
def format : Nat → Chars → Printed → Printed
  | 0, _, printed => printed
  | fuel + 1, pattern, printed =>
    let after := pass (pattern.length + 1) pattern printed
    if after.ended || after.fault.isSome || after.words.isEmpty ||
        after.words.length = printed.words.length then after
    else format fuel pattern after

end Scaffold.Shell.Printing
