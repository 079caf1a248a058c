import Scaffold.Build.Construct
import Scaffold.Config
import Scaffold.Go.Decl

/-!
# The test file of an entity

Four fixed tests, and for every stored field one test that sets a value and gets it back. A field
whose type has no test value makes the file impossible.
-/

namespace Scaffold.Entity

/-- The type of raw bytes. -/
def bytesType : String := "[]byte"

/-- The test values of plain types. -/
def testLiterals : List (String × String) :=
  [("float32", "float32(3.14)"), ("float64", "6.28"), ("int", "int(1e8)"), ("int8", "int8(127)"),
   ("int16", "int16(32000)"), ("int32", "int32(1e6)"), ("int64", "int64(1e12)"),
   ("uint", "uint(1e9)"), ("uint8", "uint8(255)"), ("uint16", "uint16(65000)"),
   ("uint32", "uint32(1e6)"), ("uint64", "uint64(1e12)"), ("string", "\"testValue\""),
   ("bool", "true"), ("time.Time", "time.Now()"), ("time.Duration", "time.Second*8")]

/-- The test value of a type. A pointer shares the value of what it points to; raw bytes have one
only as they are. -/
def testLiteral? (type : String) : Option String :=
  if type == bytesType then some "[]byte(\"testData\")"
  else
    testLiterals.lookup
      (match type.toList with
       | '*' :: base => String.ofList base
       | _ => type)

/-- The last parts of the names of the tests that every entity has. -/
def fixedTestSuffixes : List String := ["Table", "TableAlias", "IsUpdated", "ID"]

/-- The field is stored and gets a test of its own. -/
def isTestable (config : Config) (property : Property) : Bool :=
  property.name != identityField && !Text.contains property.comment config.noDbFieldDirective

/-- The fields that get a test of their own. -/
def testableProperties (config : Config) (entity : Entity) : List Property :=
  entity.properties.filter (isTestable config)

/-- A test function that begins by making a record. -/
def testFunc (entity : Entity) (suffix : String) (body : List String) : Go.Func :=
  { signature := ⟨"Test" ++ entity.name ++ suffix, [⟨"t", "*testing.T"⟩], []⟩
    body := (entity.testVariableName ++ " := " ++ entity.packageName ++ "." ++
      entity.publicConstructorName ++ "()") :: body }

/-- A condition under which a test fails with a sentence. -/
def failIf (condition sentence : String) : List String :=
  Go.block ("if " ++ condition) ["t.Fatal(\"" ++ sentence ++ "\")"]

/-- The tests that every entity has. -/
def fixedTests (entity : Entity) : List Go.Func :=
  let record := entity.testVariableName
  [entity.testFunc "Table" (failIf (record ++ ".TableName() == \"\"")
     "TableName shouldn't be empty"),
   entity.testFunc "TableAlias" (failIf (record ++ ".TableAlias() == \"\"")
     "TableAlias shouldn't be empty"),
   entity.testFunc "IsUpdated" [record ++ ".IsUpdated()"],
   entity.testFunc "ID" [record ++ ".ID()"]]

/-- The test that sets a field and gets it back. -/
def roundTripTest (entity : Entity) (property : Property) (literal : String) : Go.Func :=
  let record := entity.testVariableName
  let reference := if property.isPointer then "&" else ""
  let got := record ++ "." ++ property.getterName ++ "()"
  let condition :=
    if property.type == bytesType then "!bytes.Equal(testValue, " ++ got ++ ")"
    else reference ++ "testValue != " ++ got
  entity.testFunc property.getterName
    (["testValue := " ++ literal,
      record ++ "." ++ property.setterName ++ "(" ++ reference ++ "testValue)"] ++
      failIf condition "Getter did not return the Set value")

/-- A field with its test value. -/
def withLiteral (entity : Entity) (property : Property) : Except Error (Property × String) :=
  match testLiteral? property.type with
  | some literal => .ok (property, literal)
  | none =>
    .error (.fault (.source (.noTestLiteral property.type entity.name property.name))
      entity.sourcePath)

/-- The imports of the test file. -/
def testImports (entity : Entity) (literals : List (Property × String)) : List Import :=
  let own := if entity.importPath.isEmpty then entity.packageName else entity.importPath
  let bytes := literals.any fun (property, _) => property.type == bytesType
  let time := literals.any fun (_, literal) => Text.startsWith literal "time."
  [⟨"testing", ""⟩, ⟨own, ""⟩] ++ (if bytes then [⟨"bytes", ""⟩] else []) ++
    (if time then [⟨"time", ""⟩] else [])

/-- The entity's test file. -/
def testFile (config : Config) (entity : Entity) : Except Error Go.File := do
  let literals ← (entity.testableProperties config).mapM entity.withLiteral
  return {
    generator := config.generatorName
    package := entity.packageName ++ "_test"
    imports := entity.testImports literals
    decls := (entity.fixedTests ++
      literals.map fun (property, literal) => entity.roundTripTest property literal).map .func }

/-- The text of the entity's test file. -/
def renderTest (config : Config) (entity : Entity) : Except Error String :=
  (entity.testFile config).map Go.File.render

end Scaffold.Entity
