import Scaffold.Source.Params
import Scaffold.Text.Cased
import Scaffold.Text.Line

/-!
# Reading methods and functions

A method begins a line with its receiver and name; its parameters end at the matching parenthesis
and its results at the brace that opens its body. Interface bodies list methods one a line.
-/

namespace Scaffold.Source

/-- A method as declared in a source: its receiver, its name and the texts of its lists. -/
structure Method where
  receiverName : String
  receiverType : String
  name : String
  params : String
  results : String
  text : String
  deriving DecidableEq, Repr

/-- The method is visible outside its package. -/
def Method.isPublic (method : Method) : Bool :=
  method.name.toList.head?.any Text.isUpper

/-- The start of a method, with the source from its first character and from its parameter list. -/
structure MethodStart where
  receiverName : Chars
  receiverType : Chars
  name : Chars
  whole : Chars
  list : Chars

/-- The start of a method, up to its parameter list. -/
def methodStart? (text : Chars) : Option (MethodStart × Chars) := do
  let rest ← literal "(" (skipSpaces (← literal "func" text))
  let (receiverName, rest) ← word? (skipSpaces rest)
  let rest ← someSpaces rest
  let rest := skipSpaces ((literal "*" rest).getD rest)
  let (receiverType, rest) ← word? rest
  let rest ← literal ")" (skipSpaces rest)
  let (name, rest) ← word? (skipSpaces rest)
  let list := skipSpaces rest
  if list.head? == some '(' then some (⟨receiverName, receiverType, name, text, list⟩, list)
  else none

/-- The text, written backwards, ends in a keyword whose braces belong to a type. -/
def endsInTypeKeyword (backwards : Chars) : Bool :=
  let backwards := backwards.dropWhile Text.isBlank
  ["interface", "struct"].any fun keyword => keyword.toList.reverse.isPrefixOf backwards

/-- The result clause before the brace that opens a body. `seen` is the clause so far, backwards;
`skip` characters still belong to a bracketed part. -/
def clauseFrom (whole : Chars) (skip : Nat) (seen : Chars) : Chars → Except SourceFault Chars
  | [] => .error (.noMethodBody (snippet 40 whole))
  | c :: rest =>
    match skip with
    | skip + 1 => clauseFrom whole skip (c :: seen) rest
    | 0 =>
      if c == '{' && !endsInTypeKeyword seen then .ok seen.reverse
      else if c == '{' || c == '(' || c == '[' then do
        let (inside, _) ← splitAtClose (c :: rest)
        clauseFrom whole inside.length (c :: seen) rest
      else clauseFrom whole 0 (c :: seen) rest

/-- The result clause at the front of a text, up to the brace that opens a body. -/
def resultClause (text : Chars) : Except SourceFault Chars :=
  clauseFrom text 0 [] text

/-- The method that begins at a start. -/
def readMethod (start : MethodStart) : Except SourceFault Method := do
  let (inside, after) ← splitAtClose start.list
  let clause ← resultClause after
  let body := after.drop clause.length
  return {
    receiverName := String.ofList start.receiverName
    receiverType := String.ofList start.receiverType
    name := String.ofList start.name
    params := String.ofList (Text.collapse (inside.drop 1))
    results := String.ofList (Text.collapse clause)
    text := String.ofList (Text.trim (start.whole.take (start.whole.length - body.length))) }

/-- The methods that a source declares, in order. -/
def findMethods (source : Chars) : Except SourceFault (List Method) :=
  (allMatches (onLineStart methodStart?) source).mapM readMethod

/-- A function without a receiver, up to its parameter list. -/
def function? (name : Chars) (text : Chars) : Option (Unit × Chars) := do
  let text ← literal "func" text
  backtrackSpaces 1
    (fun text => do
      let rest ← literal "(" (skipSpaces (← name.isPrefixOf? text))
      return ((), rest)) text

/-- A source declares a function of that name without a receiver. -/
def hasFunction (name source : Chars) : Bool :=
  (firstMatch? (onLineStart (function? name)) source).isSome

/-- The interface that adds methods to an entity: the owner's name and the body. -/
def extraInterface? (text : Chars) : Option ((Chars × Chars) × Chars) := do
  let (word, text) ← word? (← someSpaces (← literal "type" text))
  let owner := word.take (word.length - "Methods".length)
  let text ← literal "interface" (← someSpaces text)
  let text ← lineEnd (← literal "\x7b" (skipSpaces text))
  let (body, rest) ← blockBody '}' text
  if "Methods".toList.isSuffixOf word && owner.head?.any (fun c => 'a' ≤ c && c ≤ 'z') then
    some ((owner, body), rest)
  else none

/-- The body of the first interface that adds methods to the owner. -/
def findExtraInterface (owner source : Chars) : Option Chars :=
  (allMatches (onLineStart extraInterface?) source).lookup owner

/-- The method that a line of an interface body declares; embedded interfaces declare none. -/
def readInterfaceLine (line : Chars) : Except SourceFault (Option SignatureText) :=
  let line := Text.trim (Text.before "//" line)
  if line.contains '(' then (splitSignature line).map some else .ok none

/-- The methods that an interface body declares, in order. -/
def readInterface (body : Chars) : Except SourceFault (List SignatureText) :=
  ((Text.lines body).mapM readInterfaceLine).map fun methods => methods.filterMap id

/-- The text that a method of the given name returns as its only statement. -/
def returnedText? (method : String) (_previous : Option Char) (text : Chars) :
    Option (Chars × Chars) := do
  let text ← literal ")" text
  let text ← literal "()" (← literal method (skipSpaces text))
  let text ← literal "string" (← someSpaces text)
  let text ← literal "\x7b" (skipSpaces text)
  let text ← literal "return" (text.dropWhile Text.isBlank)
  let text ← literal "\"" (← someSpaces text)
  let value := text.takeWhile (· != '"')
  let rest ← literal "\"" (text.drop value.length)
  return (value, rest)

/-- The table name that a source sets by hand. -/
def findTableName (source : Chars) : Option String :=
  (firstMatch? (returnedText? "TableName") source).map String.ofList

/-- The table alias that a source sets by hand. -/
def findTableAlias (source : Chars) : Option String :=
  (firstMatch? (returnedText? "TableAlias") source).map String.ofList

end Scaffold.Source
