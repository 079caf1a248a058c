import Scaffold.Shell.Variable

/-!
# Expressions

Expressions work on whole numbers of 64 bits that wrap around. They are worked out while they are
read, so that what fails first is told first.
-/

namespace Scaffold.Shell

/-- Why an expression has no value. -/
inductive ExpressionFault where
  /-- The expression as a whole is to blame. -/
  | reading (message : String)
  /-- A variable does not hold a number. -/
  | illegal (value : Chars)
  | readOnly (name : String)
  deriving DecidableEq, Repr

namespace Expression

/-- A token of an expression. -/
inductive Atom where
  | number (value : Int)
  | name (name : String)
  | operator (text : String)
  deriving DecidableEq, Repr

/-- A number of 64 bits with a sign. -/
def wrap (value : Int) : Int :=
  value.bmod 18446744073709551616

/-- The greatest number of 64 bits. -/
def greatest : Int := 9223372036854775807

/-- The least number of 64 bits. -/
def least : Int := -9223372036854775808

/-- The value of a digit. -/
def digit? (base : Nat) (c : Char) : Option Nat :=
  let value :=
    if c.isDigit then c.toNat - '0'.toNat
    else if c.isAlpha then c.toLower.toNat - 'a'.toNat + 10
    else base
  if value < base then some value else none

/-- The value of the digits that a text starts with, and how many there are. -/
def digits (base : Nat) (text : Chars) : Nat × Nat :=
  let run := text.takeWhile fun c => (digit? base c).isSome
  (run.foldl (fun value c => value * base + (digit? base c).getD 0) 0, run.length)

/-- The number that a text starts with, and how long it is. A leading zero makes it octal, and an x
behind that hexadecimal. -/
def number (text : Chars) : Nat × Nat :=
  match text with
  | '0' :: x :: rest =>
    if (x == 'x' || x == 'X') && rest.head?.any fun c => (digit? 16 c).isSome then
      let (value, length) := digits 16 rest
      (value, length + 2)
    else digits 8 text
  | '0' :: _ => digits 8 text
  | _ => digits 10 text

/-- The operators, longer ones before those that they start with. -/
def operators : List String :=
  ["<<=", ">>=", "<<", ">>", "<=", ">=", "==", "!=", "&&", "||", "+=", "-=", "*=", "/=", "%=",
   "&=", "^=", "|=", "<", ">", "=", "+", "-", "*", "/", "%", "&", "^", "|", "!", "~", "(", ")",
   "?", ":"]

/-- The tokens of an expression; `skip` characters still belong to the last one. -/
def atomsFrom (skip : Nat) : Chars → List Atom
  | [] => []
  | c :: rest =>
    match skip with
    | skip + 1 => atomsFrom skip rest
    | 0 =>
      if c == ' ' || c == '\t' || c == '\n' then atomsFrom 0 rest
      else if c.isDigit then
        let (value, length) := number (c :: rest)
        .number (min value greatest) :: atomsFrom (length - 1) rest
      else if startsName c then
        let name := (c :: rest).takeWhile isNamePart
        .name (String.ofList name) :: atomsFrom (name.length - 1) rest
      else
        match operators.find? fun operator => operator.toList.isPrefixOf (c :: rest) with
        | some operator => .operator operator :: atomsFrom (operator.length - 1) rest
        | none => .operator "" :: atomsFrom 0 rest

/-- How tightly an operator between two numbers binds; a lower number binds first. -/
def rank? (operator : String) : Option Nat :=
  if ["*", "/", "%"].contains operator then some 0
  else if ["+", "-"].contains operator then some 1
  else if ["<<", ">>"].contains operator then some 2
  else if ["<", "<=", ">", ">="].contains operator then some 3
  else if ["==", "!="].contains operator then some 4
  else if operator == "&" then some 5
  else if operator == "^" then some 6
  else if operator == "|" then some 7
  else none

/-- A truth value as a number. -/
def ofBool (value : Bool) : Int :=
  if value then 1 else 0

/-- The bits of a number. -/
def bits (value : Int) : Nat :=
  (value % 18446744073709551616).toNat

/-- The value of an operator on two numbers. -/
def apply (operator : String) (a b : Int) : Except ExpressionFault Int :=
  let divided (value : Int) : Except ExpressionFault Int :=
    if b = 0 then .error (.reading "division by zero") else .ok (wrap value)
  let shift := bits b % 64
  match operator with
  | "*" => .ok (wrap (a * b))
  | "/" => divided (a.tdiv b)
  | "%" => divided (a.tmod b)
  | "+" => .ok (wrap (a + b))
  | "-" => .ok (wrap (a - b))
  | "<<" => .ok (wrap (a * Nat.pow 2 shift))
  | ">>" => .ok (a >>> shift)
  | "<" => .ok (ofBool (a < b))
  | "<=" => .ok (ofBool (a ≤ b))
  | ">" => .ok (ofBool (b < a))
  | ">=" => .ok (ofBool (b ≤ a))
  | "==" => .ok (ofBool (a = b))
  | "!=" => .ok (ofBool (a ≠ b))
  | "&" => .ok (wrap (bits a &&& bits b : Nat))
  | "^" => .ok (wrap (bits a ^^^ bits b : Nat))
  | _ => .ok (wrap (bits a ||| bits b : Nat))

/-- A character that may stand around a number. -/
def isBlank (c : Char) : Bool :=
  c == ' ' || ('\t' ≤ c && c ≤ '\r')

/-- The number that a whole text writes, in a given base or in the one that its start tells; an
empty one is zero then. -/
def ofText? (base : Option Nat) (text : Chars) : Option Int :=
  let body := text.dropWhile isBlank
  let negative := body.head? == some '-'
  let unsigned := if negative || body.head? == some '+' then body.drop 1 else body
  let (value, length) := base.elim (number unsigned) (digits · unsigned)
  let value : Int := if negative then -(value : Int) else value
  let rest := if length = 0 then text else unsigned.drop length
  if rest.all isBlank && (base.isNone || length != 0) && least ≤ value && value ≤ greatest then
    some value
  else none

/-- An expression that is being read. -/
structure Work where
  atoms : List Atom
  bindings : Variables

/-- Working out of an expression. -/
abbrev Working := StateT Work (Except ExpressionFault)

/-- The next token, which stays. -/
def peek : Working (Option Atom) := do
  return (← get).atoms.head?

/-- The next operator, which stays. -/
def operator? : Working (Option String) := do
  match ← peek with
  | some (.operator text) => return some text
  | _ => return none

/-- Passes over the next token. -/
def advance : Working Unit :=
  modify fun work => { work with atoms := work.atoms.tail }

/-- Fails with a message. -/
def fail {α : Type} (message : String) : Working α :=
  throw (.reading message)

/-- The number that a variable holds. -/
def lookup (name : String) : Working Int := do
  let value := ((← get).bindings.get? name).getD []
  match ofText? none value with
  | some value => return value
  | none => throw (.illegal value)

/-- Sets a variable to a number. -/
def assign (name : String) (value : Int) : Working Int := do
  let work ← get
  if work.bindings.isReadOnly name then throw (.readOnly name)
  else
    set { work with bindings := work.bindings.set name (toString value).toList }
    return value

/-- The operator of an assignment that works on the old value. -/
def assigning? (operator : String) : Option String :=
  if ["+=", "-=", "*=", "/=", "%=", "&=", "^=", "|=", "<<=", ">>="].contains operator then
    some (String.ofList operator.toList.dropLast)
  else none

mutual

/-- A value without operators between numbers. Where `skipped` is set nothing is looked up or
changed. -/
def primary (skipped : Bool) : Nat → Working Int
  | 0 => fail "expecting primary"
  | fuel + 1 => do
    let atom ← peek
    match atom with
    | some (.number value) =>
      advance
      return value
    | some (.name name) =>
      advance
      if skipped then return 0 else lookup name
    | some (.operator "(") =>
      advance
      let value ← assignment skipped fuel
      if (← operator?) == some ")" then
        advance
        return value
      else fail "expecting ')'"
    | some (.operator "+") =>
      advance
      primary skipped fuel
    | some (.operator "-") =>
      advance
      return wrap (-(← primary skipped fuel))
    | some (.operator "!") =>
      advance
      return ofBool ((← primary skipped fuel) == 0)
    | some (.operator "~") =>
      advance
      return -(← primary skipped fuel) - 1
    | _ => fail "expecting primary"
termination_by structural fuel => fuel

/-- The value of what follows an operator, applied to a number, as far as operators bind tighter
than a rank. -/
def operated (skipped : Bool) (a : Int) (operator : String) (rank : Nat) : Nat → Working Int
  | 0 => fail "expecting primary"
  | fuel + 1 => do
    let b ← primary skipped fuel
    let here := (rank? operator).getD 0
    let b ←
      match ← operator? with
      | some later =>
        if (rank? later).any (· < here) then
          advance
          operated skipped b later here fuel
        else pure b
      | none => pure b
    let value ← if skipped then pure b else liftM (apply operator a b)
    match ← operator? with
    | some later =>
      if (rank? later).any (· < rank) then
        advance
        operated skipped value later rank fuel
      else return value
    | none => return value
termination_by structural fuel => fuel

/-- Numbers with operators between them. -/
def binary (skipped : Bool) : Nat → Working Int
  | 0 => fail "expecting primary"
  | fuel + 1 => do
    let value ← primary skipped fuel
    match ← operator? with
    | some operator =>
      if (rank? operator).isSome then
        advance
        operated skipped value operator 8 fuel
      else return value
    | none => return value
termination_by structural fuel => fuel

/-- Values that all have to be true. -/
def conjunction (skipped : Bool) : Nat → Working Int
  | 0 => fail "expecting primary"
  | fuel + 1 => do
    let a ← binary skipped fuel
    if (← operator?) == some "&&" then
      advance
      let b ← conjunction (skipped || a == 0) fuel
      return ofBool (a != 0 && b != 0)
    else return a
termination_by structural fuel => fuel

/-- Values one of which has to be true. -/
def disjunction (skipped : Bool) : Nat → Working Int
  | 0 => fail "expecting primary"
  | fuel + 1 => do
    let a ← conjunction skipped fuel
    if (← operator?) == some "||" then
      advance
      let b ← disjunction (skipped || a != 0) fuel
      return ofBool (a != 0 || b != 0)
    else return a
termination_by structural fuel => fuel

/-- One of two values. -/
def conditional (skipped : Bool) : Nat → Working Int
  | 0 => fail "expecting primary"
  | fuel + 1 => do
    let a ← disjunction skipped fuel
    if (← operator?) == some "?" then
      advance
      let b ← assignment (skipped || a == 0) fuel
      if (← operator?) == some ":" then
        advance
        let c ← conditional (skipped || a != 0) fuel
        return if a != 0 then b else c
      else fail "expecting ':'"
    else return a
termination_by structural fuel => fuel

/-- A value, perhaps given to a variable. -/
def assignment (skipped : Bool) : Nat → Working Int
  | 0 => fail "expecting primary"
  | fuel + 1 => do
    match (← get).atoms with
    | .name name :: .operator operator :: _ =>
      let change := assigning? operator
      if operator == "=" || change.isSome then
        advance
        advance
        let value ← assignment skipped fuel
        if skipped then return value
        else
          match change with
          | none => assign name value
          | some change =>
            let before ← lookup name
            assign name (← liftM (apply change before value))
      else conditional skipped fuel
    | _ => conditional skipped fuel
termination_by structural fuel => fuel

end

/-- The value of an expression, and the variables after it. -/
def eval (bindings : Variables) (text : Chars) : Except ExpressionFault (Int × Variables) := do
  let atoms := atomsFrom 0 text
  let whole : Working Int := do
    let value ← assignment false (8 * atoms.length + 16)
    if (← peek).isSome then fail "expecting EOF" else return value
  let (value, work) ← whole.run { atoms, bindings }
  return (value, work.bindings)

end Expression

end Scaffold.Shell
