import Scaffold.Shell.Program.Text
import Scaffold.Shell.Regex

/-!
# Numbers

Programs that print sequences of numbers and compute expressions.
-/

namespace Scaffold.Shell.Program

/-- A number with places behind a point. -/
structure Fixed where
  value : Int
  places : Nat

/-- The number that a text writes. -/
def fixed? (text : Chars) : Option Fixed :=
  let (negative, digits) :=
    match text with
    | '-' :: rest => (true, rest)
    | '+' :: rest => (false, rest)
    | _ => (false, text)
  let whole := digits.takeWhile Char.isDigit
  let places? :=
    match digits.drop whole.length with
    | [] => some []
    | '.' :: rest => if rest.all Char.isDigit then some rest else none
    | _ => none
  match places? with
  | none => none
  | some places =>
    (natural? (whole ++ places)).map fun value =>
      { value := if negative then -(value : Int) else value, places := places.length }

/-- A number with so many places, at least so wide. -/
def fixedText (places width : Nat) (value : Int) : Chars :=
  let digits := value.natAbs.repr.toList
  let digits := List.replicate (places + 1 - digits.length) '0' ++ digits
  let whole := digits.take (digits.length - places)
  let body := if places = 0 then whole else whole ++ '.' :: digits.drop (digits.length - places)
  let sign := if value < 0 then ['-'] else []
  sign ++ List.replicate (width - body.length - sign.length) '0' ++ body

/-- The word is a number with a sign, and no option. -/
def isNegativeNumber (word : Chars) : Bool :=
  match word with
  | '-' :: c :: _ => c.isDigit || c == '.'
  | _ => false

/-- Prints a sequence of numbers. -/
def seq : Program := fun words job =>
  let (front, rest) := words.span fun word =>
    word.head? == some '-' && word != ['-', '-'] && !isNegativeNumber word
  let takesNext := front.getLast? == some ['-', 's'] || front.getLast? == some ['-', 'f']
  let (front, rest) := if takesNext then (front ++ rest.take 1, rest.drop 1) else (front, rest)
  withOptions "seq"
    { letters := "f:s:w", names := [("separator", 's'), ("equal-width", 'w'), ("format", 'f')] }
    (fun given job =>
      let operands := given.words
      match operands.find? fun word => (fixed? word).isNone with
      | some word =>
        job.misused "seq" ("invalid floating point argument: ".toList ++ inCurls word) 1
      | none =>
        let numbers := operands.filterMap fixed?
        let ends? : Option (Fixed × Fixed × Fixed) :=
          match numbers with
          | [last] => some ({ value := 1, places := 0 }, { value := 1, places := 0 }, last)
          | [first, last] => some (first, { value := 1, places := 0 }, last)
          | [first, step, last] => some (first, step, last)
          | _ => none
        match ends? with
        | none =>
          if operands.isEmpty then job.misused "seq" "missing operand".toList 1
          else job.misused "seq" ("extra operand ".toList ++ inCurls (operands.getD 3 [])) 1
        | some (first, step, last) =>
          if step.value = 0 then
            job.misused "seq"
              ("invalid Zero increment value: ".toList ++ inCurls (operands.getD 1 [])) 1
          else
            let places := max first.places step.places
            let scale := max places last.places
            let scaled (number : Fixed) : Int :=
              number.value * Int.ofNat (Nat.pow 10 (scale - number.places))
            let distance := scaled last - scaled first
            let count :=
              if (distance < 0 && 0 < step.value) || (0 < distance && step.value < 0) then 0
              else distance.natAbs / (scaled step).natAbs + 1
            let values := (List.range count).map fun place =>
              (scaled first + Int.ofNat place * scaled step) /
                Int.ofNat (Nat.pow 10 (scale - places))
            let width :=
              if given.has 'w' then
                (values.map fun value => (fixedText places 0 value).length).foldl max 0
              else 0
            let separator := (given.value? 's').getD ['\n']
            if values.isEmpty then job
            else job.printLine (separator.intercalate (values.map (fixedText places width))))
    1 (front ++ [['-', '-']] ++ (if rest.head? == some ['-', '-'] then rest.drop 1 else rest)) job

/-- The value of an expression, and the words behind it. -/
abbrev Calculated := Except (Nat × Chars) (Chars × List Chars)

/-- The value counts as false. -/
def isNull (value : Chars) : Bool :=
  value.isEmpty || (integer? value).any (· == 0)

/-- A comparison or computation of two values. -/
def calculate (operator : String) (a b : Chars) : Except (Nat × Chars) Chars :=
  let numbers : Option (Int × Int) :=
    match integer? a, integer? b with
    | some a, some b => some (a, b)
    | _, _ => none
  let truth (value : Bool) : Except (Nat × Chars) Chars := .ok (if value then ['1'] else ['0'])
  let compared (byNumber : Int → Int → Bool) (byText : Chars → Chars → Bool) :=
    match numbers with
    | some (a, b) => truth (byNumber a b)
    | none => truth (byText a b)
  let computed (f : Int → Int → Int) (needsNonzero : Bool) : Except (Nat × Chars) Chars :=
    match numbers with
    | none => .error (2, "non-integer argument".toList)
    | some (a, b) =>
      if needsNonzero && b = 0 then .error (2, "division by zero".toList)
      else .ok (toString (f a b)).toList
  let least (a b : Chars) := Pattern.precedes a b
  match operator with
  | "=" | "==" => compared (· == ·) (· == ·)
  | "!=" => compared (· != ·) (· != ·)
  | "<" => compared (· < ·) fun a b => least a b && a != b
  | "<=" => compared (· ≤ ·) least
  | ">" => compared (fun a b => b < a) fun a b => least b a && a != b
  | ">=" => compared (fun a b => b ≤ a) fun a b => least b a
  | "+" => computed (· + ·) false
  | "-" => computed (· - ·) false
  | "*" => computed (· * ·) false
  | "/" => computed Int.tdiv true
  | _ => computed Int.tmod true

/-- What an expression finds at the start of a text: the part in the first group, or how much it
fits. -/
def matchStart (text pattern : Chars) : Except (Nat × Chars) Chars :=
  match Regex.parse? false pattern with
  | none => .error (2, "Unmatched ( or \\(".toList)
  | some regex =>
    let grouped := 1 < (Text.splitOn "\\(" pattern).length
    match regex.matchAt? false { before := [], after := text } with
    | none => .ok (if grouped then [] else ['0'])
    | some finish =>
      if grouped then .ok ((finish.kept.lookup 1).getD [])
      else .ok (text.length - finish.after.length).repr.toList

/-- The operators from the loosest to the closest. -/
def operatorLevels : List (List String) :=
  [["|"], ["&"], ["=", "==", "!=", "<", "<=", ">", ">="], ["+", "-"], ["*", "/", "%"], [":"]]

mutual

/-- The value of operators of some levels. -/
def exprLevel : Nat → Option Chars → List (List String) → List Chars → Calculated
  | 0, _, _, _ => .error (2, "syntax error".toList)
  | fuel + 1, before, [], words => exprAtom fuel before words
  | fuel + 1, before, level :: closer, words => do
    let (value, rest) ← exprLevel fuel before closer words
    exprChain fuel level closer value rest
termination_by structural fuel => fuel

/-- Operators of one level behind a value. -/
def exprChain : Nat → List String → List (List String) → Chars → List Chars → Calculated
  | 0, _, _, _, _ => .error (2, "syntax error".toList)
  | fuel + 1, level, closer, value, words =>
    match words with
    | word :: rest =>
      let operator := String.ofList word
      if !level.contains operator then .ok (value, words)
      else do
        let (other, rest) ← exprLevel fuel (some word) closer rest
        let joined ←
          match operator with
          | "|" => .ok (if !isNull value then value else if isNull other then ['0'] else other)
          | "&" => .ok (if isNull value || isNull other then ['0'] else value)
          | ":" => matchStart value other
          | _ => calculate operator value other
        exprChain fuel level closer joined rest
    | [] => .ok (value, [])
termination_by structural fuel => fuel

/-- A value that is not made of operators. -/
def exprAtom : Nat → Option Chars → List Chars → Calculated
  | 0, _, _ => .error (2, "syntax error".toList)
  | fuel + 1, before, words =>
    match words with
    | [] =>
      .error (2, "syntax error: missing argument after ".toList ++ inCurls (before.getD []))
    | word :: rest =>
      match String.ofList word with
      | "(" => do
        let (value, after) ← exprLevel fuel (some word) operatorLevels rest
        match after with
        | [')'] :: after => .ok (value, after)
        | other :: _ =>
          .error (2, "syntax error: expecting ')' instead of ".toList ++ inCurls other)
        | [] =>
          let last := (words.getLast?).getD []
          .error (2, "syntax error: expecting ')' after ".toList ++ inCurls last)
      | ")" => .error (2, "syntax error: unexpected ')'".toList)
      | "+" =>
        match rest with
        | value :: rest => .ok (value, rest)
        | [] => .ok (word, [])
      | "length" =>
        if rest.isEmpty then .ok (word, [])
        else do
          let (value, rest) ← exprAtom fuel (some word) rest
          .ok (value.length.repr.toList, rest)
      | "index" =>
        if rest.isEmpty then .ok (word, [])
        else do
          let (text, rest) ← exprAtom fuel (some word) rest
          let (set, rest) ← exprAtom fuel (some text) rest
          let place := (text.findIdx? set.contains).elim 0 (· + 1)
          .ok (place.repr.toList, rest)
      | "match" =>
        if rest.isEmpty then .ok (word, [])
        else do
          let (text, rest) ← exprAtom fuel (some word) rest
          let (pattern, rest) ← exprAtom fuel (some text) rest
          .ok (← matchStart text pattern, rest)
      | "substr" =>
        if rest.isEmpty then .ok (word, [])
        else do
          let (text, rest) ← exprAtom fuel (some word) rest
          let (start, rest) ← exprAtom fuel (some text) rest
          let (count, rest) ← exprAtom fuel (some start) rest
          match natural? start, natural? count with
          | some (start + 1), some count => .ok ((text.drop start).take count, rest)
          | _, _ => .ok ([], rest)
      | _ => .ok (word, rest)
termination_by structural fuel => fuel

end

/-- Computes an expression. -/
def expr : Program := fun words job =>
  if words.isEmpty then job.misused "expr" "missing operand".toList 2
  else
    match exprLevel (16 * words.length + 32) none operatorLevels words with
    | .error (status, message) => job.fail status ("expr: ".toList ++ message)
    | .ok (value, []) => { job.printLine value with status := if isNull value then 1 else 0 }
    | .ok (_, extra :: _) =>
      job.fail 2 ("expr: syntax error: unexpected argument ".toList ++ inCurls extra)

end Scaffold.Shell.Program
