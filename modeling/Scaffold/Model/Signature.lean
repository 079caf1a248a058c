/-!
# Signatures

A signature is a name with parameters and results. Its text is the line that stands for it in an
interface.
-/

namespace Scaffold

/-- A parameter or a result; the name is empty where there is none. -/
structure Param where
  name : String := ""
  type : String
  deriving DecidableEq, Repr, Inhabited

/-- The name and the type, or the type alone. -/
def Param.render (param : Param) : String :=
  if param.name.isEmpty then param.type else param.name ++ " " ++ param.type

/-- A callable name with its parameters and results. -/
structure Signature where
  name : String
  params : List Param := []
  results : List Param := []
  deriving DecidableEq, Repr, Inhabited

namespace Signature

/-- Some result has a name. -/
def hasNamedResults (signature : Signature) : Bool :=
  signature.results.any fun result => !result.name.isEmpty

/-- The entries of a list with a comma and a space between neighbours. -/
def renderList (entries : List Param) : String :=
  ", ".intercalate (entries.map Param.render)

/-- The results: parenthesized when one of them is named or when there are several. -/
def renderResults (signature : Signature) : String :=
  let list := renderList signature.results
  if signature.hasNamedResults || 1 < signature.results.length then "(" ++ list ++ ")" else list

/-- The signature as it stands in an interface. -/
def render (signature : Signature) : String :=
  let head := signature.name ++ "(" ++ renderList signature.params ++ ")"
  if signature.results.isEmpty then head else head ++ " " ++ signature.renderResults

/-- A one-line description. -/
def describe (signature : Signature) : String :=
  "<Function " ++ signature.name ++ " (" ++ toString signature.params.length ++ " params, " ++
    toString signature.results.length ++ " returns)>"

end Signature

end Scaffold
