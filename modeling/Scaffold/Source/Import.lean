import Scaffold.Source.Scan

/-!
# Reading imports

An import names a path and perhaps a local name. Code reaches it by its qualifier: the local name,
or the last segment of the path with version marks left out.
-/

namespace Scaffold

/-- An imported path; the local name is empty where the import keeps its own. -/
structure Import where
  path : String
  localName : String := ""
  deriving DecidableEq, Repr, Inhabited

namespace Import

/-- The segments of a path. -/
def segments (path : String) : List Chars :=
  Text.splitOn "/" (Text.dropEndWhile (· == '/') path.toList)

/-- The text without one line feed at its end, and that line feed. -/
def cutFinalLineFeed (text : Chars) : Chars × Chars :=
  if text.getLast? == some '\n' then (text.dropLast, ['\n']) else (text, [])

/-- The segment is a major version such as `v2`. -/
def isMajorVersion (segment : Chars) : Bool :=
  match (cutFinalLineFeed segment).1 with
  | 'v' :: digits => !digits.isEmpty && digits.all Text.isDecimalDigit
  | _ => false

/-- The segment without a version at its end, as in `yaml.v3`. -/
def dropVersion (segment : Chars) : Chars :=
  let (text, ending) := cutFinalLineFeed segment
  let digits := text.reverse.takeWhile Text.isDecimalDigit
  match text.reverse.drop digits.length with
  | 'v' :: '.' :: rest => if digits.isEmpty then segment else rest.reverse ++ ending
  | _ => segment

/-- The local name is one that code can use. -/
def renames (localName : String) : Bool :=
  !(localName.isEmpty || localName == "." || localName == "_")

/-- The name by which code reaches the import. -/
def qualifier (item : Import) : String :=
  if renames item.localName then item.localName
  else
    let segments := segments item.path
    let segments :=
      if 1 < segments.length && isMajorVersion (Text.lastOr [] segments) then segments.dropLast
      else segments
    String.ofList (dropVersion (Text.lastOr [] segments))

/-- The path belongs to the standard library: its first segment has no dot. -/
def isStandard (path : String) : Bool :=
  !(Text.before "/" path.toList).contains '.'

end Import

namespace Source

/-- A local name with the spaces after it. -/
def localName? (text : Chars) : Option (Chars × Chars) := do
  let (name, rest) ←
    match text with
    | '.' :: rest => some (['.'], rest)
    | _ => identifier? text
  return (name, ← someSpaces rest)

/-- An optional local name and a quoted path. -/
def importSpec? (text : Chars) : Option (Import × Chars) := do
  let (name, rest) := (localName? text).getD ([], text)
  let (path, rest) ← quotedText? rest
  return (⟨String.ofList path, String.ofList name⟩, rest)

/-- A line of an import block. -/
def importLine? (text : Chars) : Option (Import × Chars) :=
  importSpec? (skipSpaces text)

/-- An import on a line of its own. -/
def singleImport? (text : Chars) : Option (Import × Chars) := do
  importSpec? (← someSpaces (← literal "import" text))

/-- The body of an import block. -/
def importBlock? (text : Chars) : Option (Chars × Chars) := do
  let text ← literal "(" (skipSpaces (← literal "import" text))
  blockBody ')' (← lineEnd text)

/-- The imports of a source: those of its blocks, then those on lines of their own. -/
def findImports (source : Chars) : List Import :=
  (allMatches (onLineStart importBlock?) source).flatMap (allMatches (onLineStart importLine?)) ++
    allMatches (onLineStart singleImport?) source

/-- A qualified name such as `time.Time`; what is found is the qualifier. -/
def qualified? (previous : Option Char) (text : Chars) : Option (Chars × Chars) :=
  if previous.any Text.isWord then none
  else do
    let (package, rest) ← identifier? text
    let (_, rest) ← identifier? (← literal "." rest)
    return (package, rest)

/-- The qualifiers that a text uses, each once, in the order of their first use. -/
def findQualifiers (text : Chars) : List String :=
  ((allMatches qualified? text).map String.ofList).eraseDups

end Source

end Scaffold
