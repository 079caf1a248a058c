/-!
# Faults in source text

Every way in which source text can fail to have the shape that a reader expects, and the wording of
each.
-/

namespace Scaffold

/-- What is wrong with a piece of source text. -/
inductive SourceFault where
  /-- A bracket closes one of another kind. -/
  | unbalancedClose (close : Char) (snippet : String)
  /-- A bracket is never closed. -/
  | unclosedBracket (opener : Char) (snippet : String)
  /-- A bracket closes none. -/
  | strayClose (close : Char) (text : String)
  /-- Brackets remain open at the end of a list. -/
  | openBrackets (text : String)
  | emptyEntry (item : String)
  | entryParts (item : String) (count : Nat)
  | mixedEntries (text : String)
  | namesWithoutType (text : String)
  | trailingResults (clause : String)
  | bareResults (clause : String)
  | notSignature (text : String)
  | methodName (name text : String)
  | markerCount (marker : String) (count : Nat)
  | noMarkedStruct (marker : String)
  | fieldDeclaration (line : String)
  | fieldComments (count : Nat) (field : String)
  | fieldWithoutType (field : String)
  | noStruct
  | noMethodBody (snippet : String)
  | noTestLiteral (type entity field : String)
  deriving DecidableEq, Repr

/-- The sentence that tells of a fault. -/
def SourceFault.message : SourceFault → String
  | unbalancedClose close snippet => s!"Unbalanced `{close}` after `{snippet}`"
  | unclosedBracket opener snippet => s!"Unclosed `{opener}` in `{snippet}`"
  | strayClose close text => s!"Unbalanced `{close}` in `{text}`"
  | openBrackets text => s!"Unbalanced brackets in `{text}`"
  | emptyEntry item => s!"Empty parameter or return value in `{item}`"
  | entryParts item count => s!"`{item}` should split into 1 or 2 parts, not {count}"
  | mixedEntries text => s!"Mixed named and unnamed entries in `({text})`"
  | namesWithoutType text => s!"Names without a type in `({text})`"
  | trailingResults clause => s!"Trailing text after return clause `{clause}`"
  | bareResults clause =>
    s!"Return clause `{clause}` should be a single type or a parenthesized list"
  | notSignature text => s!"Not a method signature: `{text}`"
  | methodName name text => s!"Invalid method name `{name}` in `{text}`"
  | markerCount marker count =>
    s!"Entity files must have one and only one {marker} marking, found {count}"
  | noMarkedStruct marker => s!"No struct declaration follows the {marker} marking"
  | fieldDeclaration line => s!"Unsupported field declaration `{line}`"
  | fieldComments count field =>
    s!"Found {count} chunks in field `{field}`; this is probably caused by multiple comment `//`"
  | fieldWithoutType field => s!"Field `{field}` has no type"
  | noStruct => "Not one struct found in the store file"
  | noMethodBody snippet => s!"Method body not found after `{snippet}`"
  | noTestLiteral type entity field => s!"No test literal for type `{type}` of `{entity}.{field}`"

end Scaffold
