import Scaffold.Shell.Expression
import Scaffold.Shell.Pattern

/-!
# Conditions

Conditions compare texts and numbers and ask for entries of a file tree. What a word means may
depend on the words behind it.
-/

namespace Scaffold.Shell.Condition

/-- The kinds of operators. -/
inductive Kind where
  | unary
  | binary
  | negation
  | conjunction
  | disjunction
  | opening
  | closing
  deriving DecidableEq, Repr

/-- The kind of operator that a word is. -/
def kind? (word : Chars) : Option Kind :=
  let text := String.ofList word
  if ["-r", "-w", "-x", "-e", "-f", "-d", "-c", "-b", "-p", "-u", "-g", "-k", "-s", "-t", "-z",
      "-n", "-h", "-L", "-S", "-O", "-G"].contains text then some .unary
  else if ["=", "!=", "<", ">", "-eq", "-ne", "-ge", "-gt", "-le", "-lt", "-nt", "-ot",
      "-ef"].contains text then some .binary
  else if text == "!" then some .negation
  else if text == "-a" then some .conjunction
  else if text == "-o" then some .disjunction
  else if text == "(" then some .opening
  else if text == ")" then some .closing
  else none

/-- A unary operator is only a text if nothing or a binary operator follows it. -/
def isOperand (behind : List Chars) : Bool :=
  match behind with
  | [] => true
  | [_] => false
  | word :: _ => kind? word == some .binary

/-- The operator that the first of some words is. -/
def operator? (words : List Chars) : Option Kind :=
  match words with
  | [] => none
  | word :: rest =>
    match kind? word with
    | some .unary => if isOperand rest then none else some .unary
    | some .opening => if rest.isEmpty then none else some .opening
    | kind => kind

/-- The number that a word writes. -/
def number (word : Chars) : Except Chars Int :=
  match Expression.ofText? (some 10) word with
  | some value => .ok value
  | none => .error ("Illegal number: ".toList ++ word)

/-- A question about an entry of a file tree. -/
def entryHas (disk : Disk) (question : Chars) (path : Chars) : Bool :=
  let isLink := question == ['-', 'h'] || question == ['-', 'L']
  match locate disk (!isLink) path with
  | .ok (.taken _ node) =>
    match String.ofList question, node with
    | "-f", .file _ _ => true
    | "-f", _ => false
    | "-d", .directory _ => true
    | "-d", _ => false
    | "-s", .file content _ => content.size != 0
    | "-r", node => node.grants .read
    | "-w", node => node.grants .write
    | "-x", node => node.grants .pass
    | "-h", .link _ => true
    | "-L", .link _ => true
    | text, _ => ["-e", "-s", "-O", "-G"].contains text
  | _ => false

/-- The value of a binary operator. -/
def compare (disk : Disk) (first operator second : Chars) : Except Chars Bool := do
  let numbers (test : Int → Int → Bool) : Except Chars Bool := do
    let a ← number first
    let b ← number second
    return test a b
  match String.ofList operator with
  | "=" => return first == second
  | "!=" => return first != second
  | "<" => return first != second && Pattern.precedes first second
  | ">" => return first != second && Pattern.precedes second first
  | "-eq" => numbers (· == ·)
  | "-ne" => numbers (· != ·)
  | "-ge" => numbers fun a b => b ≤ a
  | "-gt" => numbers fun a b => b < a
  | "-le" => numbers fun a b => a ≤ b
  | "-lt" => numbers fun a b => a < b
  | "-ef" =>
    match locate disk true first, locate disk true second with
    | .ok (.taken a _), .ok (.taken b _) => return a == b
    | _, _ => return false
  | _ => return false

mutual

/-- The value of conditions of which one has to hold, and the words from the last one used on. -/
def disjunction (disk : Disk) (operator : Option Kind) :
    Nat → List Chars → Except Chars (Bool × List Chars)
  | 0, words => .ok (false, words)
  | fuel + 1, words => do
    let (value, words) ← conjunction disk operator fuel words
    if operator? (words.drop 1) == some .disjunction then
      let (other, words) ← disjunction disk (operator? (words.drop 2)) fuel (words.drop 2)
      return (value || other, words)
    else return (value, words)
termination_by structural fuel => fuel

/-- The value of conditions all of which have to hold. -/
def conjunction (disk : Disk) (operator : Option Kind) :
    Nat → List Chars → Except Chars (Bool × List Chars)
  | 0, words => .ok (false, words)
  | fuel + 1, words => do
    let (value, words) ← negation disk operator fuel words
    if operator? (words.drop 1) == some .conjunction then
      let (other, words) ← conjunction disk (operator? (words.drop 2)) fuel (words.drop 2)
      return (value && other, words)
    else return (value, words)
termination_by structural fuel => fuel

/-- The value of a condition that may be negated. -/
def negation (disk : Disk) (operator : Option Kind) :
    Nat → List Chars → Except Chars (Bool × List Chars)
  | 0, words => .ok (false, words)
  | fuel + 1, words => do
    if operator == some .negation then
      let rest := words.drop 1
      if rest.isEmpty then return (true, words)
      else
        let (value, words) ← negation disk (operator? rest) fuel rest
        return (!value, words)
    else primary disk operator fuel words
termination_by structural fuel => fuel

/-- The value of a single condition. -/
def primary (disk : Disk) (operator : Option Kind) :
    Nat → List Chars → Except Chars (Bool × List Chars)
  | 0, words => .ok (false, words)
  | fuel + 1, words =>
    match words with
    | [] => .ok (false, [])
    | word :: rest =>
      match operator with
      | some .opening => do
        if operator? rest == some .closing then return (false, rest)
        else
          let (value, words) ← disjunction disk (operator? rest) fuel rest
          if operator? (words.drop 1) == some .closing then return (value, words.drop 1)
          else .error "closing paren expected".toList
      | some .unary =>
        match rest with
        | [] => .error (word ++ ": argument expected".toList)
        | argument :: _ =>
          match String.ofList word with
          | "-z" => .ok (argument.isEmpty, rest)
          | "-n" => .ok (!argument.isEmpty, rest)
          | "-t" => do
            discard (number argument)
            return (false, rest)
          | _ => .ok (entryHas disk word argument, rest)
      | _ =>
        if operator? rest == some .binary then
          match rest with
          | sign :: second :: after => do
            return (← compare disk word sign second, second :: after)
          | _ => .error (rest.headD [] ++ ": argument expected".toList)
        else .ok (!word.isEmpty, words)
termination_by structural fuel => fuel

end

/-- The value of a whole condition. Conditions of few words have rules of their own; a sign that
negates one counts once. -/
def evalFrom (disk : Disk) (negated : Bool) : Nat → List Chars → Except Chars Bool
  | 0, _ => .ok false
  | fuel + 1, words => do
    let whole (operator : Option Kind) (words : List Chars) : Except Chars Bool := do
      let (value, left) ← disjunction disk operator (4 * words.length + 8) words
      match left with
      | word :: _ :: _ => .error (word ++ ": unexpected operator".toList)
      | _ => return value != negated
    let few := words.length = 3 || words.length = 4
    match words with
    | [] => return false
    | first :: rest =>
      if words.length = 3 && (rest.head?.bind kind?) == some .binary then whole none words
      else if few && first == ['('] && words.getLast? == some [')'] then
        let inner := rest.dropLast
        whole (operator? inner) inner
      else if few && first == ['!'] then evalFrom disk true fuel rest
      else whole (operator? words) words

/-- The value of a whole condition. -/
def eval (disk : Disk) (words : List Chars) : Except Chars Bool :=
  evalFrom disk false (words.length + 1) words

end Scaffold.Shell.Condition
