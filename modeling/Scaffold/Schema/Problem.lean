import Scaffold.Text.Basic

/-!
# Problems in documents

A value read from a document may have several problems at once; all of them are reported. Each one
is a kind and the place where it was met.
-/

namespace Scaffold

/-- What can be wrong with a value of a document. -/
inductive ProblemKind where
  | missing
  | extraForbidden
  | modelType
  | listType
  | dictType
  | tooShort
  | stringType
  | stringTooShort
  | stringUnicode
  | intType
  | intParsing
  | intParsingSize
  | intFromFloat
  | finiteNumber
  | greaterThanEqual
  | lessThanEqual
  | boolType
  | boolParsing
  | noSuchAttribute
  | invalidKey
  deriving DecidableEq, Repr

/-- The code that stands for a kind of problem. -/
def ProblemKind.code : ProblemKind → String
  | missing => "missing"
  | extraForbidden => "extra_forbidden"
  | modelType => "model_type"
  | listType => "list_type"
  | dictType => "dict_type"
  | tooShort => "too_short"
  | stringType => "string_type"
  | stringTooShort => "string_too_short"
  | stringUnicode => "string_unicode"
  | intType => "int_type"
  | intParsing => "int_parsing"
  | intParsingSize => "int_parsing_size"
  | intFromFloat => "int_from_float"
  | finiteNumber => "finite_number"
  | greaterThanEqual => "greater_than_equal"
  | lessThanEqual => "less_than_equal"
  | boolType => "bool_type"
  | boolParsing => "bool_parsing"
  | noSuchAttribute => "no_such_attribute"
  | invalidKey => "invalid_key"

/-- One step into a document. -/
inductive Step where
  | key (name : String)
  | index (number : Int)
  deriving DecidableEq, Repr

/-- The text by which steps are compared. -/
def Step.text : Step → String
  | key name => name
  | index number => toString number

/-- A problem and the way to it from the top of the document. -/
structure Problem where
  place : List Step
  kind : ProblemKind
  deriving DecidableEq, Repr

/-- What problems are sorted by: the steps of the place, then the kind. -/
def Problem.key (problem : Problem) : List String × String :=
  (problem.place.map Step.text, problem.kind.code)

/-- Problems in the order in which they are reported. -/
def Problem.sort (problems : List Problem) : List Problem :=
  problems.mergeSort fun a b =>
    if a.key.1 = b.key.1 then a.key.2 ≤ b.key.2 else a.key.1 < b.key.1

/-- The result of checking a value: the value, or everything that is wrong with it. -/
inductive Checked (α : Type) where
  | good (value : α)
  | bad (problems : List Problem)
  deriving Repr

namespace Checked

/-- A single problem with the value itself. -/
def fail {α : Type} (kind : ProblemKind) : Checked α :=
  .bad [⟨[], kind⟩]

/-- Applies a checked function to a checked value; the problems of both are kept. -/
def apply {α β : Type} (f : Checked (α → β)) (x : Checked α) : Checked β :=
  match f, x with
  | .good f, .good x => .good (f x)
  | .good _, .bad problems => .bad problems
  | .bad problems, .good _ => .bad problems
  | .bad problems, .bad others => .bad (problems ++ others)

instance : Applicative Checked where
  pure := .good
  seq f x := apply f (x ())

/-- The problems seen from one step further out. -/
def within {α : Type} (step : Step) : Checked α → Checked α
  | .good value => .good value
  | .bad problems => .bad (problems.map fun problem => ⟨step :: problem.place, problem.kind⟩)

/-- A further check of a value that is good so far. -/
def andThen {α β : Type} (x : Checked α) (f : α → Checked β) : Checked β :=
  match x with
  | .good value => f value
  | .bad problems => .bad problems

/-- The value as an outcome. -/
def toExcept {α ε : Type} (wrap : List Problem → ε) : Checked α → Except ε α
  | .good value => .ok value
  | .bad problems => .error (wrap problems)

/-- All values of a list, or the problems of all its elements. -/
def all {α : Type} : List (Checked α) → Checked (List α)
  | [] => .good []
  | x :: rest => List.cons <$> x <*> all rest

end Checked

end Scaffold
