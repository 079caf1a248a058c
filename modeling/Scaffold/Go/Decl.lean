import Scaffold.Model.Signature
import Scaffold.Source.Import
import Scaffold.Text.Line

/-!
# Declarations and files

Generated files are values before they are text: a header, imports and a list of declarations. A
file is written as sections with one blank line between neighbours.
-/

namespace Scaffold.Go

/-- Text between braces. -/
def braced (text : String) : String :=
  "\x7b" ++ text ++ "\x7d"

/-- A line that opens a block. -/
def opening (line : String) : String :=
  line ++ " \x7b"

/-- A line that closes a block. -/
def closing : String := "\x7d"

/-- A line further in. -/
def indent (line : String) : String :=
  "\t" ++ line

/-- A block as the lines of its opening, its body one step further in, and its closing. -/
def block (line : String) (body : List String) : List String :=
  opening line :: body.map indent ++ [closing]

/-- The pointer receiver of a method. -/
structure Receiver where
  name : String
  type : String
  deriving DecidableEq, Repr

/-- A function or a method. -/
structure Func where
  /-- The sentence above the declaration. -/
  doc : Option String := none
  receiver : Option Receiver := none
  signature : Signature
  /-- The lines of the body, as they stand inside the function. -/
  body : List String
  deriving DecidableEq, Repr

namespace Func

/-- The receiver in parentheses, with a space after it. -/
def renderReceiver (func : Func) : String :=
  match func.receiver with
  | none => ""
  | some receiver => "(" ++ receiver.name ++ " *" ++ receiver.type ++ ") "

/-- The line of a comment. -/
def docLines (doc : Option String) : List String :=
  doc.toList.map fun sentence => "// " ++ sentence

/-- The function as text. -/
def render (func : Func) : String :=
  Text.joinLines (docLines func.doc ++
    block ("func " ++ func.renderReceiver ++ func.signature.render) func.body)

end Func

/-- A declaration of a generated file. -/
inductive Decl where
  /-- The struct implements the interface. -/
  | implements (interfaceName structName : String)
  | interface (doc : Option String) (name : String) (members : List String)
  /-- A struct without fields. -/
  | emptyStruct (doc : Option String) (name : String)
  | func (declaration : Func)
  deriving DecidableEq, Repr

/-- The declaration as text. -/
def Decl.render : Decl → String
  | implements interfaceName structName =>
    "var _ " ++ interfaceName ++ " = &" ++ structName ++ braced ""
  | interface doc name members =>
    Text.joinLines (Func.docLines doc ++ block ("type " ++ name ++ " interface") members)
  | emptyStruct doc name =>
    Text.joinLines (Func.docLines doc ++ ["type " ++ name ++ " struct" ++ braced ""])
  | func declaration => declaration.render

/-- The line of an import. -/
def importLine (item : Import) : String :=
  let path := "\"" ++ item.path ++ "\""
  indent (if item.localName.isEmpty then path else item.localName ++ " " ++ path)

/-- Imports in the order of their paths. -/
def sortImports (imports : List Import) : List Import :=
  imports.mergeSort fun a b => a.path ≤ b.path

/-- An import block: the standard library, a blank line, and the rest, each part sorted. Nothing
where there is nothing to import. -/
def importBlock (imports : List Import) : String :=
  if imports.isEmpty then ""
  else
    let standard := sortImports (imports.filter fun item => Import.isStandard item.path)
    let others := sortImports (imports.filter fun item => !Import.isStandard item.path)
    let gap := if standard.isEmpty || others.isEmpty then [] else [""]
    Text.joinLines ("import (" :: standard.map importLine ++ gap ++ others.map importLine ++ [")"])

/-- Sections with one blank line between neighbours. -/
def joinSections (sections : List String) : String :=
  "\n\n".intercalate sections

/-- The lines that open every generated file. -/
def header (generator package : String) : String :=
  Text.joinLines
    ["// Code generated by " ++ generator ++ ". DO NOT EDIT.", "package " ++ package]

/-- A generated source file. -/
structure File where
  generator : String
  package : String
  imports : List Import := []
  decls : List Decl := []
  deriving DecidableEq, Repr

namespace File

/-- The declarations as text. -/
def renderDecls (file : File) : String :=
  joinSections (file.decls.map Decl.render)

/-- The file as text; it ends in one line feed. -/
def render (file : File) : String :=
  let imports := importBlock file.imports
  let head := header file.generator file.package ::
    (if imports.isEmpty then [] else [imports])
  joinSections (head ++ file.decls.map Decl.render) ++ "\n"

end File

end Scaffold.Go
