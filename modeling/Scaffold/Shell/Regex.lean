import Scaffold.Shell.Pattern

/-!
# Regular expressions

The expressions that programs search lines by, in their basic and their extended spelling. Of the
ways to match, the first one found by trying the longest repetitions first is taken.
-/

namespace Scaffold.Shell

/-- A regular expression. -/
inductive Regex where
  | exactly (c : Char)
  | anyChar
  | oneOf (negated : Bool) (ranges : List (Char × Char))
  | lineStart
  | lineEnd
  /-- What fits one of some alternatives is kept under a number. -/
  | group (number : Nat) (alternatives : List (List Regex))
  | repeated (least : Nat) (most : Option Nat) (inner : Regex)
  /-- What was kept under a number. -/
  | back (number : Nat)

namespace Regex

/-- A place in a line: what stands before it, backwards, and behind it, and what was kept. -/
structure Place where
  before : Chars
  after : Chars
  kept : List (Nat × Chars) := []

/-- Moves over one character that passes a test. -/
def step (place : Place) (test : Char → Bool) : Option Place :=
  match place.after with
  | [] => none
  | c :: rest =>
    if test c then some { place with before := c :: place.before, after := rest } else none

/-- The characters between two places. -/
def between (start finish : Place) : Chars :=
  start.after.take (start.after.length - finish.after.length)

/-- Matches parts from a place on, and then what follows. The number bounds the steps. -/
def run (foldsCase : Bool) : Nat → List Regex → Place → (Place → Option Place) → Option Place
  | 0, _, _, _ => none
  | _ + 1, [], place, next => next place
  | fuel + 1, part :: rest, place, next =>
    let same (a b : Char) := if foldsCase then a.toLower == b.toLower else a == b
    let go (place : Place) := run foldsCase fuel rest place next
    match part with
    | .exactly c => (step place (same c)).bind go
    | .anyChar => (step place fun _ => true).bind go
    | .oneOf negated ranges =>
      let fits (c : Char) := ranges.any fun (first, last) => first ≤ c && c ≤ last
      (step place fun c =>
        (fits c || (foldsCase && (fits c.toLower || fits c.toUpper))) != negated).bind go
    | .lineStart => if place.before.isEmpty then go place else none
    | .lineEnd => if place.after.isEmpty then go place else none
    | .group number alternatives =>
      alternatives.findSome? fun parts =>
        run foldsCase fuel parts place fun finish =>
          go { finish with kept := (number, between place finish) :: finish.kept }
    | .back number =>
      let text := (place.kept.lookup number).getD []
      if text.isPrefixOf place.after then
        go { place with
          before := text.reverse ++ place.before, after := place.after.drop text.length }
      else none
    | .repeated least most inner =>
      let more : Option Place :=
        if most == some 0 then none
        else
          run foldsCase fuel [inner] place fun finish =>
            if finish.after.length = place.after.length && least = 0 then none
            else
              let again := .repeated (least - 1) (most.map (· - 1)) inner
              run foldsCase fuel (again :: rest) finish next
      more.orElse fun _ => if least = 0 then go place else none

/-- A regular expression that is being read. -/
structure Source where
  rest : Chars
  groups : Nat := 0
  extended : Bool

/-- Whether the rest starts with a sign that has a backslash in one of the spellings. -/
def sign? (source : Source) (c : Char) : Option Chars :=
  match source.extended, source.rest with
  | true, d :: rest => if c == d then some rest else none
  | false, '\\' :: d :: rest => if c == d then some rest else none
  | _, _ => none

/-- A set from behind its bracket on. -/
def set? (text : Chars) : Option (Regex × Chars) :=
  let (negated, body) :=
    match text with
    | '^' :: body => (true, body)
    | _ => (false, text)
  let marked := body.map fun c => (c, c == '\\')
  (Pattern.ranges? (marked.length + 1) true marked).map fun (ranges, after) =>
    (.oneOf negated ranges, Pattern.plain after)

/-- The bounds of a repetition from behind its brace on. -/
def bounds? (text : Chars) (extended : Bool) : Option (Nat × Option Nat × Chars) :=
  let digits (text : Chars) := text.takeWhile Char.isDigit
  let value (text : Chars) := (String.ofList text).toNat?.getD 0
  let least := digits text
  let closed (most : Option Nat) (rest : Chars) :=
    match extended, rest with
    | true, '\x7d' :: rest => some (value least, most, rest)
    | false, '\\' :: '\x7d' :: rest => some (value least, most, rest)
    | _, _ => none
  match text.drop least.length with
  | ',' :: rest =>
    let most := digits rest
    closed (if most.isEmpty then none else some (value most)) (rest.drop most.length)
  | rest => closed (some (value least)) rest

mutual

/-- Alternatives up to the end or a closing parenthesis. -/
def alternatives : Nat → Source → Option (List (List Regex) × Source)
  | 0, _ => none
  | fuel + 1, source => do
    let (first, source) ← parts fuel [] source
    match sign? source '|' with
    | some rest =>
      let (others, source) ← alternatives fuel { source with rest }
      return (first :: others, source)
    | none => return ([first], source)
termination_by structural fuel => fuel

/-- Parts one after the other, behind those read so far. -/
def parts : Nat → List Regex → Source → Option (List Regex × Source)
  | 0, _, _ => none
  | fuel + 1, done, source =>
    if source.rest.isEmpty || (sign? source '|').isSome || (sign? source ')').isSome then
      some (done, source)
    else do
      let (part, source) ← part fuel done.isEmpty source
      let (part, source) ← suffixes fuel part source
      parts fuel (done ++ [part]) source
termination_by structural fuel => fuel

/-- One part. -/
def part : Nat → Bool → Source → Option (Regex × Source)
  | 0, _, _ => none
  | fuel + 1, isFirst, source =>
    match sign? source '(' with
    | some rest => do
      let number := source.groups + 1
      let (inner, after) ← alternatives fuel { source with rest, groups := number }
      let rest ← sign? after ')'
      return (.group number inner, { after with rest })
    | none =>
      match source.rest with
      | '\\' :: c :: rest =>
        if c.isDigit then some (.back (c.toNat - '0'.toNat), { source with rest })
        else if c == 'n' then some (.exactly '\n', { source with rest })
        else if c == 't' then some (.exactly '\t', { source with rest })
        else if c == 's' then
          some (.oneOf false (Pattern.classRanges "space"), { source with rest })
        else if c == 'w' then
          some (.oneOf false (('_', '_') :: Pattern.classRanges "alnum"), { source with rest })
        else some (.exactly c, { source with rest })
      | '.' :: rest => some (.anyChar, { source with rest })
      | '[' :: rest => (set? rest).map fun (set, rest) => (set, { source with rest })
      | '^' :: rest =>
        some (if source.extended || isFirst then .lineStart else .exactly '^', { source with rest })
      | '$' :: rest =>
        let ends := source.extended || rest.isEmpty || (sign? { source with rest } ')').isSome ||
          (sign? { source with rest } '|').isSome
        some (if ends then .lineEnd else .exactly '$', { source with rest })
      | c :: rest => some (.exactly c, { source with rest })
      | [] => none
termination_by structural fuel => fuel

/-- The repetitions behind a part. -/
def suffixes : Nat → Regex → Source → Option (Regex × Source)
  | 0, _, _ => none
  | fuel + 1, part, source =>
    let anchored :=
      match part with
      | .lineStart => !source.extended
      | _ => false
    let again (least : Nat) (most : Option Nat) (rest : Chars) :=
      suffixes fuel (.repeated least most part) { source with rest }
    match source.rest with
    | '*' :: rest => if anchored then some (part, source) else again 0 none rest
    | _ =>
      match sign? source '+', sign? source '?', sign? source '\x7b' with
      | some rest, _, _ => again 1 none rest
      | _, some rest, _ => again 0 (some 1) rest
      | _, _, some rest =>
        match bounds? rest source.extended with
        | some (least, most, rest) => again least most rest
        | none => if source.extended then some (part, source) else none
      | _, _, _ => some (part, source)
termination_by structural fuel => fuel

end

/-- The expression that a text writes. -/
def parse? (extended : Bool) (text : Chars) : Option Regex := do
  let (inner, source) ← alternatives (4 * text.length + 8) { rest := text, extended }
  if source.rest.isEmpty then some (.group 0 inner) else none

/-- The expression that fits a text only. -/
def ofText (text : Chars) : Regex :=
  .group 0 [text.map .exactly]

/-- A match in a line. -/
structure Match where
  before : Chars
  text : Chars
  after : Chars
  kept : List (Nat × Chars)

/-- A match from a place on, if there is one right there. -/
def matchAt? (regex : Regex) (foldsCase : Bool) (place : Place) : Option Place :=
  run foldsCase (64 * (place.after.length + 8)) [regex] { place with kept := [] } some

/-- The first match from a place on, as far as so many characters ahead. -/
def find? (regex : Regex) (foldsCase : Bool) : Nat → Place → Option Match
  | 0, _ => none
  | fuel + 1, place =>
    match regex.matchAt? foldsCase place with
    | some finish =>
      some { before := place.before.reverse, text := between place finish
             after := finish.after, kept := finish.kept }
    | none => (step place fun _ => true).bind (regex.find? foldsCase fuel)

/-- The first match in a line. -/
def search? (regex : Regex) (foldsCase : Bool) (line : Chars) : Option Match :=
  regex.find? foldsCase (line.length + 1) { before := [], after := line }

end Regex

end Scaffold.Shell
