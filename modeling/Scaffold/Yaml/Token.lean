import Scaffold.Text.Basic

/-!
# Tokens of block documents

Indentation is turned into tokens that open and close blocks, so that what is built from tokens
does not depend on columns.
-/

namespace Scaffold.Yaml

/-- A line that speaks about the document. -/
inductive Directive where
  | version (major : Nat)
  /-- A handle of kinds and what it stands for. -/
  | tagHandle (handle start : String)
  | other
  deriving DecidableEq, Repr

/-- The text of a scalar; nothing where it holds half of a character. -/
abbrev ScalarText := Option Chars

/-- A piece of a document. -/
inductive Token where
  | directive (directive : Directive)
  | documentStart
  | documentEnd
  | blockSequenceStart
  | blockMappingStart
  | blockEnd
  | flowSequenceStart
  | flowSequenceEnd
  | flowMappingStart
  | flowMappingEnd
  | blockEntry
  | flowEntry
  | key
  | value
  /-- A name for the node that follows. -/
  | anchor (name : String)
  /-- The node that has a name. -/
  | reference (name : String)
  /-- The kind of the node that follows: a handle, if there is one, and a name. -/
  | tag (handle : Option String) (name : String)
  | scalar (plain : Bool) (text : ScalarText)
  deriving DecidableEq, Repr

end Scaffold.Yaml
