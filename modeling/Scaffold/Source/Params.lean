import Scaffold.Model.Signature
import Scaffold.Source.Bracket
import Scaffold.Source.Scan

/-!
# Reading parameter and result lists

A list is cut at its commas outside brackets. Each entry is a bare type or a name and a type; names
without a type take the type of the next entry that has one.
-/

namespace Scaffold.Source

/-- The keywords that begin a type of several words. -/
def typeKeywords : List String := ["chan", "func", "struct", "interface"]

/-- The token begins a type of several words, such as a channel or a function type. -/
def startsLongType (token : Chars) : Bool :=
  let token := (literal "<-" token).getD token
  typeKeywords.any fun keyword =>
    (literal keyword token).any fun rest => !(rest.head?.any Text.isWord)

/-- Tokens with one space between neighbours. -/
def joinTokens (tokens : List Chars) : String :=
  String.ofList ([' '].intercalate tokens)

/-- One entry of a list; the name is empty where the entry is a bare type. -/
def readEntry (item : Chars) : Except SourceFault Param :=
  let tokens := splitTokens item
  match tokens with
  | [] => .error (.emptyEntry (String.ofList item))
  | first :: others =>
    if startsLongType first || others.isEmpty then .ok ⟨"", joinTokens tokens⟩
    else if isIdentifier first && (others.length = 1 || others.head?.any startsLongType) then
      .ok ⟨String.ofList first, joinTokens others⟩
    else .error (.entryParts (String.ofList (Text.trim item)) tokens.length)

/-- Gives every entry of a list with names its type; `pending` names wait for one. -/
def shareTypes (text : String) (pending : List String) :
    List Param → Except SourceFault (List Param)
  | [] => if pending.isEmpty then .ok [] else .error (.namesWithoutType text)
  | entry :: rest =>
    if entry.name.isEmpty then
      if isIdentifier entry.type.toList then shareTypes text (pending ++ [entry.type]) rest
      else .error (.mixedEntries text)
    else
      (shareTypes text [] rest).map fun others =>
        pending.map (fun name => ⟨name, entry.type⟩) ++ entry :: others

/-- A parameter or result list without its outer parentheses. -/
def readParams (text : Chars) : Except SourceFault (List Param) := do
  let items ← splitTop (some ',') text
  let entries ← items.mapM readEntry
  if entries.any fun entry => !entry.name.isEmpty then
    shareTypes (String.ofList (Text.trim text)) [] entries
  else return entries

/-- The results that the text after a parameter list declares: none, one bare type, or a
parenthesized list. -/
def readResults (text : Chars) : Except SourceFault (List Param) :=
  let clause := Text.trim text
  match clause with
  | [] => .ok []
  | '(' :: _ => do
    let (inside, after) ← splitAtClose clause
    if (Text.trim after).isEmpty then readParams (inside.drop 1)
    else .error (.trailingResults (String.ofList clause))
  | _ => do
    let entry ← readEntry clause
    if entry.name.isEmpty then return [entry]
    else .error (.bareResults (String.ofList clause))

/-- A signature cut into its name and the texts of its two lists. -/
structure SignatureText where
  name : String
  params : String
  results : String
  deriving DecidableEq, Repr

/-- Cuts `Name(params) results` into its parts. -/
def splitSignature (text : Chars) : Except SourceFault SignatureText :=
  let text := Text.trim text
  let head := text.takeWhile (· != '(')
  let rest := text.drop head.length
  if head.isEmpty || rest.isEmpty then .error (.notSignature (String.ofList text))
  else
    let name := Text.trim head
    if !isIdentifier name then
      .error (.methodName (String.ofList name) (String.ofList text))
    else do
      let (inside, after) ← splitAtClose rest
      return {
        name := String.ofList name
        params := String.ofList (Text.trim (inside.drop 1))
        results := String.ofList (Text.trim after) }

end Scaffold.Source
