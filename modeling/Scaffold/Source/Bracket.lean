import Scaffold.Source.Fault
import Scaffold.Text.Blank

/-!
# Brackets

Lists, clauses and bodies end where their brackets do. `splitAtClose` finds the bracket that closes
the first one of a text, with kinds matched; `splitTop` and `splitTokens` cut a text where no
bracket is open, counting depth alone.
-/

namespace Scaffold.Source

/-- The three kinds of brackets. -/
inductive Bracket where
  | round
  | square
  | curly
  deriving DecidableEq, Repr

/-- The kind that a character opens. -/
def Bracket.opened? : Char → Option Bracket
  | '(' => some round
  | '[' => some square
  | '{' => some curly
  | _ => none

/-- The kind that a character closes. -/
def Bracket.closed? : Char → Option Bracket
  | ')' => some round
  | ']' => some square
  | '}' => some curly
  | _ => none

/-- The character opens a bracket. -/
def opens (c : Char) : Bool :=
  (Bracket.opened? c).isSome

/-- The character closes a bracket. -/
def closes (c : Char) : Bool :=
  (Bracket.closed? c).isSome

/-- Why a bracket has no partner. -/
inductive CloseFault where
  | wrongKind (close : Char)
  | endOfText
  deriving DecidableEq, Repr

/-- The text before and after the bracket that closes the outermost of the open ones. The stack
holds the open brackets, innermost first. -/
def closeFrom (stack : List Bracket) : Chars → Except CloseFault (Chars × Chars)
  | [] => .error .endOfText
  | c :: rest =>
    match Bracket.opened? c with
    | some kind => (closeFrom (kind :: stack) rest).map fun (inside, after) => (c :: inside, after)
    | none =>
      match Bracket.closed? c with
      | none => (closeFrom stack rest).map fun (inside, after) => (c :: inside, after)
      | some kind =>
        match stack with
        | [] => .error (.wrongKind c)
        | top :: below =>
          if top ≠ kind then .error (.wrongKind c)
          else if below.isEmpty then .ok ([], rest)
          else (closeFrom below rest).map fun (inside, after) => (c :: inside, after)

/-- The start of a text as faults show it. -/
def snippet (length : Nat) (text : Chars) : String :=
  String.ofList (Text.trim (text.take length))

/-- For a text that begins with an opening bracket: the text up to the closing bracket, and the
text after it. -/
def splitAtClose (text : Chars) : Except SourceFault (Chars × Chars) :=
  match closeFrom [] text with
  | .ok parts => .ok parts
  | .error (.wrongKind close) => .error (.unbalancedClose close (snippet 60 text))
  | .error .endOfText => .error (.unclosedBracket (text.headD ' ') (snippet 60 text))

/-- Why a text has no top level to split at. -/
inductive DepthFault where
  | tooManyClosed (close : Char)
  | leftOpen
  deriving DecidableEq, Repr

/-- The pieces between separators that stand outside brackets; `depth` brackets are open. -/
def topPieces (separator : Option Char) (depth : Nat) : Chars → Except DepthFault (List Chars)
  | [] => if depth = 0 then .ok [[]] else .error .leftOpen
  | c :: rest =>
    if closes c && depth = 0 then .error (.tooManyClosed c)
    else
      let depth := if opens c then depth + 1 else if closes c then depth - 1 else depth
      if separator = some c && depth = 0 then (topPieces separator depth rest).map ([] :: ·)
      else (topPieces separator depth rest).map (Text.consHead c)

/-- The trimmed, non-empty pieces of a text between separators outside brackets. A separator that
is not one character never splits. -/
def splitTop (separator : Option Char) (text : Chars) : Except SourceFault (List Chars) :=
  match topPieces separator 0 text with
  | .ok pieces => .ok ((pieces.map Text.trim).filter fun piece => !piece.isEmpty)
  | .error (.tooManyClosed close) => .error (.strayClose close (String.ofList (Text.trim text)))
  | .error .leftOpen => .error (.openBrackets (String.ofList (Text.trim text)))

/-- How a character changes the bracket depth. -/
def depthStep (c : Char) : Int :=
  if opens c then 1 else if closes c then -1 else 0

/-- The first token and those after it; a blank ends a token where the depth is zero. -/
def tokensFrom (depth : Int) : Chars → Chars × List Chars
  | [] => ([], [])
  | c :: rest =>
    let depth := depth + depthStep c
    let (token, others) := tokensFrom depth rest
    if Text.isBlank c && depth == 0 then
      ([], if token.isEmpty then others else token :: others)
    else (c :: token, others)

/-- The pieces of a text between blanks outside brackets. -/
def splitTokens (text : Chars) : List Chars :=
  let (token, others) := tokensFrom 0 (Text.trim text)
  if token.isEmpty then others else token :: others

end Scaffold.Source
