import Scaffold.Proofs.TimeImport

/-!
# The tests of an entity

The test file of an entity has four tests that every entity has and then one for each stored field,
in the order of declaration. It cannot be made where the type of a stored field has no test value,
and the error names the first such field. What the file imports is decided by looking at types and
test values, while what it uses depends on the lines that are written: the two agree for the
packages `testing`, `bytes` and `time`, whatever the fields are.
-/

namespace Scaffold

/-! ## Lines -/

namespace Source

theorem isSingleLine_append {text rest : Chars} :
    IsSingleLine (text ++ rest) ↔ IsSingleLine text ∧ IsSingleLine rest :=
  List.forall_mem_append

theorem isSingleLine_of_isIdentifier {name : Chars} (h : isIdentifier name = true) :
    IsSingleLine name := by
  intro c hc
  have hblank := Text.isBlank_of_isWord (isWord_of_isIdentifier h c hc)
  rw [Bool.eq_false_iff]
  intro hbreak
  rw [isBlank_of_isLineBreak hbreak] at hblank
  cases hblank

theorem newline_not_mem_of_isSingleLine {text : Chars} (h : IsSingleLine text) : '\n' ∉ text :=
  fun hmem => absurd (h '\n' hmem) (by decide)

/-- Lines that no line ends within are the lines of their text. -/
theorem lines_linesText {lines : List String} (h : ∀ line ∈ lines, IsSingleLine line.toList) :
    Text.lines (linesText lines) = lines.map String.toList := by
  induction lines with
  | nil => rfl
  | cons line others ih =>
    obtain ⟨hline, hothers⟩ := List.forall_mem_cons.mp h
    rw [linesText_cons, lines_append hline, ih hothers, List.map_cons]

/-- Cut at line feeds, lines without one are what their text falls into, with nothing after the
last. -/
theorem splitOn_linesText {lines : List String} (h : ∀ line ∈ lines, '\n' ∉ line.toList) :
    Text.splitOn "\n" (linesText lines) = lines.map String.toList ++ [[]] := by
  induction lines with
  | nil => rfl
  | cons line others ih =>
    obtain ⟨hline, hothers⟩ := List.forall_mem_cons.mp h
    have hfree : ¬ "\n".toList <:+: line.toList ++ "\n".toList.dropLast := by
      intro hinfix
      exact hline (by simpa using hinfix.subset (List.mem_singleton_self '\n'))
    have hcut := Text.splitFrom_append (by decide : "\n".toList ≠ []) hfree (linesText others)
    have htext : linesText (line :: others) = line.toList ++ "\n".toList ++ linesText others := by
      simp
    rw [Text.splitOn, htext, hcut, ← Text.splitOn, ih hothers]
    rfl

/-- Where a text has one dot, and a name right before it, it uses no other qualifier. -/
theorem not_mem_qualifiersIn_member {package record : String} {front rest : Chars}
    (hrecord : isIdentifier record.toList = true) (hfront : '.' ∉ front)
    (hlast : front.getLast?.any Text.isWord = false) (hrest : '.' ∉ rest)
    (hne : package ≠ record) : package ∉ qualifiersIn (front ++ record.toList ++ '.' :: rest) := by
  intro hmem
  obtain ⟨before, after, htext, hlast', hwords⟩ := exists_of_mem_qualifiersIn hmem
  have hword := isWord_of_isIdentifier hrecord
  have hdot : '.' ∉ front ++ record.toList := by
    rw [List.mem_append, not_or]
    exact ⟨hfront, not_mem_dot_of_isWord hword⟩
  obtain ⟨hparts, -, -⟩ := (List.append_cons_inj_of_notMem hdot hrest).mp htext
  exact hne (String.toList_inj.mp (eq_of_append_words hparts hword hwords hlast hlast').symm)

end Source

namespace Entity

open Source

variable {entity : Entity} {property : Property} {suffix literal package : String}
  {body : List String} {imported : List String}

/-! ## Test functions -/

/-- The first line of a test. -/
def testHeading (entity : Entity) (suffix : String) : String :=
  "func Test" ++ entity.name ++ suffix ++ "(t *testing.T) \x7b"

/-- The line that makes the record of a test. -/
def makingLine (entity : Entity) : String :=
  entity.testVariableName ++ " := " ++ entity.packageName ++ "." ++
    entity.publicConstructorName ++ "()"

/-- The line begins a test. -/
def beginsTest (line : Chars) : Bool :=
  "func Test".toList.isPrefixOf line

theorem beginsTest_eq_false {line : Chars} (h : line.head? ≠ some 'f') :
    beginsTest line = false := by
  cases line with
  | nil => rfl
  | cons c rest =>
    have hc : 'f' ≠ c := fun heq => h (congrArg some heq.symm)
    simp [beginsTest, List.isPrefixOf, hc]

theorem lines_testFunc (entity : Entity) (suffix : String) (body : List String) :
    (Go.Decl.func (entity.testFunc suffix body)).lines =
      entity.testHeading suffix ::
        (entity.makingLine :: body).map Go.indent ++ [Go.closing] := by
  have hheading : Go.opening ("func " ++ (entity.testFunc suffix body).renderReceiver ++
      (entity.testFunc suffix body).signature.render) = entity.testHeading suffix := by
    apply String.toList_inj.mp
    simp [testFunc, Go.Func.renderReceiver, Go.opening, Signature.render, Signature.renderList,
      Param.render, testHeading]
  rw [Go.Decl.lines, Go.block, hheading]
  rfl

/-- A test function has one line that begins a test. -/
theorem filter_lines_testFunc (entity : Entity) (suffix : String) (body : List String) :
    (Go.Decl.func (entity.testFunc suffix body)).lines.filter (fun line => beginsTest line.toList) =
      [entity.testHeading suffix] := by
  have hheading : beginsTest (entity.testHeading suffix).toList = true := by
    simp [beginsTest, testHeading]
  have hbody : ∀ line, beginsTest (Go.indent line).toList = false :=
    fun line => beginsTest_eq_false (by simp [Go.indent])
  have hclosing : beginsTest Go.closing.toList = false := by decide
  simp only [lines_testFunc, List.cons_append, List.filter_cons, hheading, if_true,
    List.filter_append, List.filter_map, Function.comp_def, hbody, hclosing, List.filter_false,
    Bool.false_eq_true, if_false, List.filter_nil, List.map_nil, List.append_nil]

/-- The names that an entity's tests are written with are identifiers. -/
structure IsTestNamed (entity : Entity) : Prop extends entity.IsNamed where
  packageName : isIdentifier entity.packageName.toList = true

theorem IsTestNamed.testVariableName (h : entity.IsTestNamed) :
    isIdentifier entity.testVariableName.toList = true := by
  unfold Entity.testVariableName
  split_ifs
  · decide
  · exact Naming.isIdentifier_initial h.name

theorem IsTestNamed.publicConstructorName (h : entity.IsTestNamed) :
    isIdentifier entity.publicConstructorName.toList = true :=
  Naming.isIdentifier_append (by decide)
    (Naming.isIdentifier_append (Naming.isIdentifier_titled h.name) h.interfaceSuffix)

/-- The variable of a test is too short for the name of a package. -/
theorem IsTestNamed.ne_testVariableName (h : entity.IsTestNamed) (hlong : 2 < package.length) :
    package ≠ entity.testVariableName := by
  have hinitial : entity.variableName.length = 1 := Naming.length_initial h.name
  rintro rfl
  unfold Entity.testVariableName at hlong
  split_ifs at hlong
  · exact absurd hlong (by decide)
  · omega

/-- A sign that takes the address of what follows, for a field that holds a pointer. -/
def addressSign (property : Property) : String :=
  if property.isPointer then "&" else ""

/-- The line that sets a field to its test value. -/
def settingLine (entity : Entity) (property : Property) : String :=
  entity.testVariableName ++ "." ++ property.setterName ++ "(" ++ addressSign property ++
    "testValue)"

/-- The expression that gets a field back. -/
def gettingText (entity : Entity) (property : Property) : String :=
  entity.testVariableName ++ "." ++ property.getterName ++ "()"

/-- The condition that a field comes back changed. -/
def changedCondition (entity : Entity) (property : Property) : String :=
  if property.type == bytesType then
    "!bytes.Equal(testValue, " ++ entity.gettingText property ++ ")"
  else addressSign property ++ "testValue != " ++ entity.gettingText property

theorem roundTripTest_eq (entity : Entity) (property : Property) (literal : String) :
    entity.roundTripTest property literal = entity.testFunc property.getterName
      (["testValue := " ++ literal, entity.settingLine property] ++
        failIf (entity.changedCondition property) "Getter did not return the Set value") :=
  rfl

/-! ## What tests are written on -/

theorem isSingleLine_failIf {condition sentence : String}
    (hcondition : IsSingleLine condition.toList) (hsentence : IsSingleLine sentence.toList) :
    ∀ line ∈ failIf condition sentence, IsSingleLine line.toList := by
  simp only [failIf, Go.block, List.map_cons, List.map_nil, List.cons_append, List.nil_append,
    List.forall_mem_cons, Go.opening, Go.indent, Go.closing, String.toList_append,
    isSingleLine_append]
  exact ⟨⟨⟨by decide, hcondition⟩, by decide⟩, ⟨by decide, ⟨by decide, hsentence⟩, by decide⟩,
    by decide, List.forall_mem_nil _⟩

/-- A test stays on its lines where its body does. -/
theorem IsTestNamed.isSingleLine_testFunc (h : entity.IsTestNamed)
    (hsuffix : IsSingleLine suffix.toList) (hbody : ∀ line ∈ body, IsSingleLine line.toList) :
    ∀ line ∈ (Go.Decl.func (entity.testFunc suffix body)).lines, IsSingleLine line.toList := by
  have hname := isSingleLine_of_isIdentifier h.name
  have hpackage := isSingleLine_of_isIdentifier h.packageName
  have hrecord := isSingleLine_of_isIdentifier h.testVariableName
  have hmaker := isSingleLine_of_isIdentifier h.publicConstructorName
  have hheading : IsSingleLine (entity.testHeading suffix).toList := by
    simp only [testHeading, String.toList_append, isSingleLine_append]
    exact ⟨⟨⟨by decide, hname⟩, hsuffix⟩, by decide⟩
  have hmaking : IsSingleLine entity.makingLine.toList := by
    simp only [makingLine, String.toList_append, isSingleLine_append]
    exact ⟨⟨⟨⟨⟨hrecord, by decide⟩, hpackage⟩, by decide⟩, hmaker⟩, by decide⟩
  rw [lines_testFunc]
  simp only [List.map_cons, List.cons_append, List.forall_mem_cons, List.forall_mem_append,
    List.forall_mem_map, Go.indent, Go.closing, String.toList_append, isSingleLine_append]
  exact ⟨hheading, ⟨by decide, hmaking⟩, fun line hline => ⟨by decide, hbody line hline⟩, by decide,
    List.forall_mem_nil _⟩

theorem IsTestNamed.isSingleLine_fixedTests (h : entity.IsTestNamed) :
    ∀ func ∈ entity.fixedTests, ∀ line ∈ (Go.Decl.func func).lines, IsSingleLine line.toList := by
  have hrecord := isSingleLine_of_isIdentifier h.testVariableName
  have hcall : ∀ {call : String}, IsSingleLine call.toList →
      IsSingleLine (entity.testVariableName ++ call).toList := by
    intro call hcall
    rw [String.toList_append, isSingleLine_append]
    exact ⟨hrecord, hcall⟩
  simp only [fixedTests, List.forall_mem_cons]
  refine ⟨?_, ?_, ?_, ?_, List.forall_mem_nil _⟩
  · exact h.isSingleLine_testFunc (by decide) (isSingleLine_failIf (hcall (by decide)) (by decide))
  · exact h.isSingleLine_testFunc (by decide) (isSingleLine_failIf (hcall (by decide)) (by decide))
  · exact h.isSingleLine_testFunc (by decide) (List.forall_mem_singleton.mpr (hcall (by decide)))
  · exact h.isSingleLine_testFunc (by decide) (List.forall_mem_singleton.mpr (hcall (by decide)))

/-- The texts of the test values. -/
def literalTexts : List String :=
  "[]byte(\"testData\")" :: testLiterals.map Prod.snd

theorem mem_literalTexts {type : String} (h : testLiteral? type = some literal) :
    literal ∈ literalTexts := by
  unfold testLiteral? at h
  split_ifs at h
  · obtain rfl := Option.some.inj h
    exact List.mem_cons_self
  · obtain ⟨before, after, htable, -⟩ := List.lookup_eq_some_iff.mp h
    rw [literalTexts, htable]
    simp

theorem IsTestNamed.isSingleLine_roundTripTest (h : entity.IsTestNamed)
    (hproperty : isIdentifier property.name.toList = true) (hliteral : literal ∈ literalTexts) :
    ∀ line ∈ (Go.Decl.func (entity.roundTripTest property literal)).lines,
      IsSingleLine line.toList := by
  have hrecord := isSingleLine_of_isIdentifier h.testVariableName
  have hgetter := isSingleLine_of_isIdentifier (IsPlain.isIdentifier_getterName hproperty)
  have hsetter := isSingleLine_of_isIdentifier (IsPlain.isIdentifier_setterName hproperty)
  have hvalue : IsSingleLine literal.toList := by
    have htable : ∀ literal ∈ literalTexts, IsSingleLine literal.toList := by decide
    exact htable literal hliteral
  have hsign : IsSingleLine (addressSign property).toList := by
    unfold addressSign
    split_ifs <;> decide
  have hgetting : IsSingleLine (entity.gettingText property).toList := by
    simp only [gettingText, String.toList_append, isSingleLine_append]
    exact ⟨⟨⟨hrecord, by decide⟩, hgetter⟩, by decide⟩
  have hchanged : IsSingleLine (entity.changedCondition property).toList := by
    unfold changedCondition
    split_ifs
    · simp only [String.toList_append, isSingleLine_append]
      exact ⟨⟨by decide, hgetting⟩, by decide⟩
    · simp only [String.toList_append, isSingleLine_append]
      exact ⟨⟨hsign, by decide⟩, hgetting⟩
  rw [roundTripTest_eq]
  refine h.isSingleLine_testFunc hgetter
    (List.forall_mem_append.mpr ⟨?_, isSingleLine_failIf hchanged (by decide)⟩)
  simp only [settingLine, List.forall_mem_cons, String.toList_append, isSingleLine_append]
  exact ⟨⟨by decide, hvalue⟩, ⟨⟨⟨⟨⟨hrecord, by decide⟩, hsetter⟩, by decide⟩, hsign⟩, by decide⟩,
    List.forall_mem_nil _⟩

/-! ## What tests use -/

/-- A call on the record of a test, with text around it, uses no package. -/
theorem IsTestNamed.not_mem_call (h : entity.IsTestNamed) (hlong : 2 < package.length)
    (front rest : Chars) (hfront : '.' ∉ front) (hlast : front.getLast?.any Text.isWord = false)
    (hrest : '.' ∉ rest) :
    package ∉ qualifiersIn (front ++ entity.testVariableName.toList ++ '.' :: rest) :=
  not_mem_qualifiersIn_member h.testVariableName hfront hlast hrest (h.ne_testVariableName hlong)

/-- A test uses `testing`, its own package and what the lines of its body use. -/
theorem IsTestNamed.mem_qualifiersIn_testFunc (h : entity.IsTestNamed)
    (hsuffix : '.' ∉ suffix.toList) (hpackage : package ≠ entity.packageName) :
    package ∈ qualifiersIn (Go.Decl.func (entity.testFunc suffix body)).render.toList ↔
      package = "testing" ∨
        package ∈ body.flatMap fun line => qualifiersIn line.toList := by
  have hname : '.' ∉ ("Test" ++ entity.name ++ suffix).toList := by
    simp [not_mem_dot_of_isIdentifier h.name, hsuffix]
  have hparam : paramQualifiers ⟨"t", "*testing.T"⟩ = ["testing"] := by decide
  have hmaking : package ∉ qualifiersIn entity.makingLine.toList := by
    have hline : entity.makingLine.toList = (entity.testVariableName ++ " := ").toList ++
        entity.packageName.toList ++ '.' :: (entity.publicConstructorName ++ "()").toList := by
      simp [makingLine]
    rw [hline]
    refine not_mem_qualifiersIn_member h.packageName ?_ ?_ ?_ hpackage
    · simp [not_mem_dot_of_isIdentifier h.testVariableName]
    · rw [String.toList_append, List.getLast?_append_of_ne_nil _ (by decide)]
      decide
    · simp [not_mem_dot_of_isIdentifier h.publicConstructorName]
  have hfunc : (entity.testFunc suffix body).doc = none ∧
      (entity.testFunc suffix body).body = entity.makingLine :: body := ⟨rfl, rfl⟩
  rw [Go.qualifiersIn_func (by simp [testFunc]), hfunc.1, hfunc.2, Signature.qualifiersIn_render,
    testFunc, qualifiersIn_of_not_mem_dot hname]
  simp [hparam, hmaking]

/-- A step that may fail uses what its condition uses. -/
theorem mem_qualifiersIn_failIf {condition sentence : String} (hlong : 2 < package.length)
    (hsentence : '.' ∉ sentence.toList) :
    package ∈ (failIf condition sentence).flatMap (fun line => qualifiersIn line.toList) ↔
      package ∈ qualifiersIn condition.toList := by
  have hcondition : qualifiersIn ("if " ++ condition).toList = qualifiersIn condition.toList := by
    have hline : ("if " ++ condition).toList = "if".toList ++ ' ' :: condition.toList := by simp
    rw [hline, qualifiersIn_append_cons (by decide)]
    rfl
  have hfatal : package ∉ qualifiersIn ("t.Fatal(\"" ++ sentence ++ "\")").toList := by
    have hline : ("t.Fatal(\"" ++ sentence ++ "\")").toList =
        [] ++ "t".toList ++ '.' :: ("Fatal(\"" ++ sentence ++ "\")").toList := by simp
    have hshort : package ≠ "t" := by
      rintro rfl
      exact absurd hlong (by decide)
    rw [hline]
    exact not_mem_qualifiersIn_member (by decide) List.not_mem_nil rfl (by simp [hsentence]) hshort
  rw [failIf, Go.qualifiersIn_block, hcondition, List.flatMap_singleton, List.mem_append]
  exact or_iff_left hfatal

/-- The fixed tests use no package but `testing` and their own. -/
theorem IsTestNamed.mem_qualifiersIn_fixedTests (h : entity.IsTestNamed)
    (hlong : 2 < package.length) (hpackage : package ≠ entity.packageName) :
    ∀ func ∈ entity.fixedTests,
      (package ∈ qualifiersIn (Go.Decl.func func).render.toList ↔ package = "testing") := by
  have hcall : ∀ {call : String}, '.' ∈ call.toList.head? → '.' ∉ call.toList.tail →
      package ∉ qualifiersIn (entity.testVariableName ++ call).toList := by
    intro call hhead hrest
    rw [String.toList_append, ← List.cons_head?_tail hhead]
    exact h.not_mem_call hlong [] call.toList.tail List.not_mem_nil rfl hrest
  simp only [fixedTests, List.forall_mem_cons]
  refine ⟨?_, ?_, ?_, ?_, List.forall_mem_nil _⟩
  · rw [h.mem_qualifiersIn_testFunc (by decide) hpackage, mem_qualifiersIn_failIf hlong (by decide)]
    exact or_iff_left (hcall (by decide) (by decide))
  · rw [h.mem_qualifiersIn_testFunc (by decide) hpackage, mem_qualifiersIn_failIf hlong (by decide)]
    exact or_iff_left (hcall (by decide) (by decide))
  · rw [h.mem_qualifiersIn_testFunc (by decide) hpackage, List.flatMap_singleton]
    exact or_iff_left (hcall (by decide) (by decide))
  · rw [h.mem_qualifiersIn_testFunc (by decide) hpackage, List.flatMap_singleton]
    exact or_iff_left (hcall (by decide) (by decide))

/-- The line of a test value uses `time` where the value does, and nothing else. -/
theorem qualifiersIn_valueLine (h : literal ∈ literalTexts) :
    qualifiersIn ("testValue := " ++ literal).toList =
      if Text.startsWith literal "time." then ["time"] else [] := by
  have htable : ∀ literal ∈ literalTexts, qualifiersIn ("testValue := " ++ literal).toList =
      if Text.startsWith literal "time." then ["time"] else [] := by decide +kernel
  exact htable literal h

theorem IsTestNamed.not_mem_qualifiersIn_settingLine (h : entity.IsTestNamed)
    (hlong : 2 < package.length) (hproperty : isIdentifier property.name.toList = true) :
    package ∉ qualifiersIn (entity.settingLine property).toList := by
  have hsetter := not_mem_dot_of_isIdentifier (IsPlain.isIdentifier_setterName hproperty)
  have hsign : '.' ∉ (addressSign property).toList := by
    unfold addressSign
    split_ifs <;> decide
  have hline : (entity.settingLine property).toList = [] ++ entity.testVariableName.toList ++
      '.' :: (property.setterName ++ "(" ++ addressSign property ++ "testValue)").toList := by
    simp [settingLine]
  rw [hline]
  exact h.not_mem_call hlong _ _ List.not_mem_nil rfl (by simp [hsetter, hsign])

/-- Fields are compared with the help of `bytes` where they hold raw bytes. -/
theorem IsTestNamed.mem_qualifiersIn_changedCondition (h : entity.IsTestNamed)
    (hlong : 2 < package.length) (hproperty : isIdentifier property.name.toList = true) :
    package ∈ qualifiersIn (entity.changedCondition property).toList ↔
      package = "bytes" ∧ property.type = bytesType := by
  have hgetter := not_mem_dot_of_isIdentifier (IsPlain.isIdentifier_getterName hproperty)
  by_cases hbytes : property.type = bytesType
  · have htext : (entity.changedCondition property).toList = "!bytes.Equal(testValue,".toList ++
        ' ' :: ([] ++ entity.testVariableName.toList ++
          '.' :: (property.getterName ++ "())").toList) := by
      simp [changedCondition, gettingText, hbytes]
    have hequal : qualifiersIn "!bytes.Equal(testValue,".toList = ["bytes"] := by decide +kernel
    have hgetting := h.not_mem_call hlong [] (property.getterName ++ "())").toList List.not_mem_nil
      rfl (by simp [hgetter])
    rw [htext, qualifiersIn_append_cons (by decide), hequal, List.mem_append, List.mem_singleton,
      or_iff_left hgetting, and_iff_left hbytes]
  · have hsign : '.' ∉ (addressSign property ++ "testValue != ").toList := by
      unfold addressSign
      split_ifs <;> decide
    have hlast : (addressSign property ++ "testValue != ").toList.getLast?.any Text.isWord =
        false := by
      unfold addressSign
      split_ifs <;> decide
    have htext : (entity.changedCondition property).toList =
        (addressSign property ++ "testValue != ").toList ++ entity.testVariableName.toList ++
          '.' :: (property.getterName ++ "()").toList := by
      simp [changedCondition, gettingText, hbytes]
    rw [htext]
    exact iff_of_false (h.not_mem_call hlong _ _ hsign hlast (by simp [hgetter]))
      fun hboth => hbytes hboth.2

/-- Beside its own package, the test of a field uses `testing`, `time` where its value does, and
`bytes` where the field holds raw bytes. -/
theorem IsTestNamed.mem_qualifiersIn_roundTripTest (h : entity.IsTestNamed)
    (hlong : 2 < package.length) (hpackage : package ≠ entity.packageName)
    (hproperty : isIdentifier property.name.toList = true) (hliteral : literal ∈ literalTexts) :
    package ∈ qualifiersIn (Go.Decl.func (entity.roundTripTest property literal)).render.toList ↔
      package = "testing" ∨ (package = "bytes" ∧ property.type = bytesType) ∨
        (package = "time" ∧ Text.startsWith literal "time." = true) := by
  have hgetter := not_mem_dot_of_isIdentifier (IsPlain.isIdentifier_getterName hproperty)
  have hsetting := h.not_mem_qualifiersIn_settingLine hlong hproperty
  have hvalue : package ∈ qualifiersIn ("testValue := " ++ literal).toList ↔
      package = "time" ∧ Text.startsWith literal "time." = true := by
    rw [qualifiersIn_valueLine hliteral]
    split_ifs with htime <;> simp [htime]
  rw [roundTripTest_eq, h.mem_qualifiersIn_testFunc hgetter hpackage, List.flatMap_append,
    List.mem_append, mem_qualifiersIn_failIf hlong (by decide),
    h.mem_qualifiersIn_changedCondition hlong hproperty, List.flatMap_cons, List.mem_append,
    List.flatMap_singleton, hvalue, or_iff_left hsetting, @or_comm (package = "time" ∧ _)]

/-! ## The test file -/

/-- The field is stored: it is not the identity, and no note keeps it out of the database. -/
def IsStored (property : Property) : Prop :=
  property.name ≠ "id" ∧ ¬ "@synthesize-no-db-field".toList <:+: property.comment.toList

instance : DecidablePred IsStored :=
  fun _ => inferInstanceAs (Decidable (_ ∧ _))

/-- The field is stored, and its type has no test value. -/
def LacksValue (property : Property) : Prop :=
  IsStored property ∧ testLiteral? property.type = none

instance : DecidablePred LacksValue :=
  fun _ => inferInstanceAs (Decidable (_ ∧ _))

/-- The stored fields, in the order of declaration. -/
def storedProperties (entity : Entity) : List Property :=
  entity.properties.filter fun property => IsStored property

theorem isTestable_eq (property : Property) :
    isTestable {} property = decide (IsStored property) := by
  rw [Bool.eq_iff_iff, decide_eq_true_iff]
  simp [isTestable, IsStored, identityField, Text.contains, ← Text.occursIn_iff]

theorem testableProperties_eq (entity : Entity) :
    entity.testableProperties {} = entity.storedProperties :=
  List.filter_congr fun property _ => isTestable_eq property

/-- The stored fields with their test values. -/
def storedValues (entity : Entity) : List (Property × String) :=
  entity.storedProperties.map fun property => (property, (testLiteral? property.type).getD "")

/-- The test file of an entity whose stored fields have test values. -/
def tests (entity : Entity) : Go.File where
  generator := "storesynth"
  package := entity.packageName ++ "_test"
  imports := entity.testImports entity.storedValues
  decls := (entity.fixedTests ++ entity.storedValues.map fun pair =>
    entity.roundTripTest pair.1 pair.2).map .func

/-- Where no stored field lacks a test value, there is a test file. -/
theorem renderTest_of_values (h : ∀ property ∈ entity.properties, ¬ LacksValue property) :
    entity.renderTest {} = .ok entity.tests.render := by
  have hliterals := @mapM_withLiteral {} entity fun property hproperty => by
    rw [testableProperties_eq, storedProperties, List.mem_filter, decide_eq_true_iff] at hproperty
    rw [Option.isSome_iff_ne_none]
    exact fun hnone => h property hproperty.1 ⟨hproperty.2, hnone⟩
  rw [testableProperties_eq] at hliterals
  simp only [renderTest, testFile, testableProperties_eq, hliterals]
  rfl

/-- The first stored field without a test value is the one that the error names. -/
theorem renderTest_of_lacksValue
    (h : entity.properties.find? (fun property => LacksValue property) = some property) :
    entity.renderTest {} =
      .error (.fault (.source (.noTestLiteral property.type entity.name property.name))
        entity.sourcePath) := by
  have hlacks : LacksValue property := by simpa using List.find?_some h
  have hfirst : (entity.testableProperties {}).find?
      (fun property => (testLiteral? property.type).isNone) = some property := by
    rw [testableProperties_eq, storedProperties, List.find?_filter, ← h]
    congr 1
    funext other
    simp only [Option.isNone_iff_eq_none, decide_eq_true_iff]
    rfl
  have hliterals := Outcome.mapM_eq_error_of_find? (fun other hother => ?_) hfirst
    (by rw [withLiteral, hlacks.2] : entity.withLiteral property = _)
  · simp only [renderTest, testFile, hliterals]
    rfl
  · obtain ⟨literal, hliteral⟩ := Option.isSome_iff_exists.mp (by simpa using hother)
    exact ⟨(other, literal), by rw [withLiteral, hliteral]⟩

/-- The names of an entity are identifiers, and no stored field lacks a test value. -/
structure HasTests (entity : Entity) : Prop extends entity.IsTestNamed where
  values : ∀ property ∈ entity.properties, ¬ LacksValue property

/-- What the stored fields and their test values are. -/
theorem HasTests.of_mem_storedValues (h : entity.HasTests) :
    ∀ pair ∈ entity.storedValues,
      isIdentifier pair.1.name.toList = true ∧ pair.2 ∈ literalTexts := by
  intro pair hpair
  obtain ⟨property, hproperty, rfl⟩ := List.mem_map.mp hpair
  rw [storedProperties, List.mem_filter, decide_eq_true_iff] at hproperty
  refine ⟨h.properties property hproperty.1, ?_⟩
  cases hliteral : testLiteral? property.type with
  | none => exact absurd ⟨hproperty.2, hliteral⟩ (h.values property hproperty.1)
  | some literal => exact mem_literalTexts hliteral

/-- The tests use `testing`, `bytes` where a stored field holds raw bytes, and `time` where a test
value does. -/
theorem HasTests.mem_qualifiersIn_tests (h : entity.HasTests) (hlong : 2 < package.length)
    (hpackage : package ≠ entity.packageName) :
    package ∈ qualifiersIn entity.tests.renderDecls.toList ↔
      package = "testing" ∨
        (package = "bytes" ∧ ∃ pair ∈ entity.storedValues, pair.1.type = bytesType) ∨
        (package = "time" ∧
          ∃ pair ∈ entity.storedValues, Text.startsWith pair.2 "time." = true) := by
  have hfixed := h.mem_qualifiersIn_fixedTests hlong hpackage
  have hfields : ∀ pair ∈ entity.storedValues, _ := fun pair hpair =>
    h.mem_qualifiersIn_roundTripTest hlong hpackage (h.of_mem_storedValues pair hpair).1
      (h.of_mem_storedValues pair hpair).2
  rw [Go.qualifiersIn_renderDecls, List.mem_flatMap]
  constructor
  · rintro ⟨decl, hdecl, hused⟩
    obtain ⟨func, hfunc, rfl⟩ := List.mem_map.mp hdecl
    rcases List.mem_append.mp hfunc with hfunc | hfunc
    · exact .inl ((hfixed func hfunc).mp hused)
    · obtain ⟨pair, hpair, rfl⟩ := List.mem_map.mp hfunc
      rcases (hfields pair hpair).mp hused with htesting | ⟨hbytes, htype⟩ | ⟨htime, hvalue⟩
      · exact .inl htesting
      · exact .inr (.inl ⟨hbytes, pair, hpair, htype⟩)
      · exact .inr (.inr ⟨htime, pair, hpair, hvalue⟩)
  · have hmem : ∀ pair ∈ entity.storedValues,
        Go.Decl.func (entity.roundTripTest pair.1 pair.2) ∈ entity.tests.decls := fun pair hpair =>
      List.mem_map_of_mem (List.mem_append_right _ (List.mem_map_of_mem hpair))
    rintro (htesting | ⟨hbytes, pair, hpair, htype⟩ | ⟨htime, pair, hpair, hvalue⟩)
    · obtain ⟨func, others, hfuncs⟩ : ∃ func others, entity.fixedTests = func :: others :=
        ⟨_, _, rfl⟩
      have hfunc : func ∈ entity.fixedTests := hfuncs ▸ List.mem_cons_self
      exact ⟨.func func, List.mem_map_of_mem (List.mem_append_left _ hfunc),
        (hfixed func hfunc).mpr htesting⟩
    · exact ⟨_, hmem pair hpair, (hfields pair hpair).mpr (.inr (.inl ⟨hbytes, htype⟩))⟩
    · exact ⟨_, hmem pair hpair, (hfields pair hpair).mpr (.inr (.inr ⟨htime, hvalue⟩))⟩

/-- The path by which tests import the package that they test. -/
def ownPath (entity : Entity) : String :=
  if entity.importPath.isEmpty then entity.packageName else entity.importPath

theorem mem_imports_tests {item : Import} :
    item ∈ entity.tests.imports ↔ item.localName = "" ∧
      (item.path = "testing" ∨ item.path = entity.ownPath ∨
        (item.path = "bytes" ∧ ∃ pair ∈ entity.storedValues, pair.1.type = bytesType) ∨
        (item.path = "time" ∧
          ∃ pair ∈ entity.storedValues, Text.startsWith pair.2 "time." = true)) := by
  obtain ⟨path, localName⟩ := item
  have himports : entity.tests.imports = [⟨"testing", ""⟩, ⟨entity.ownPath, ""⟩] ++
      (if entity.storedValues.any fun pair => pair.1.type == bytesType then [⟨"bytes", ""⟩]
        else []) ++
      (if entity.storedValues.any fun pair => Text.startsWith pair.2 "time." then [⟨"time", ""⟩]
        else []) := rfl
  rw [himports]
  simp only [List.mem_append, List.mem_cons, List.mem_ite_nil_right, List.not_mem_nil, or_false,
    List.any_eq_true, beq_iff_eq, Import.mk.injEq]
  grind

/-- What the test file imports has an identifier for its path, but for the package that it tests. -/
theorem IsTestNamed.path_of_mem_imports (h : entity.IsTestNamed) {item : Import}
    (hitem : item ∈ entity.tests.imports) :
    isIdentifier item.path.toList = true ∨
      item.path = entity.importPath ∧ entity.importPath ≠ "" := by
  rcases (mem_imports_tests.mp hitem).2 with hpath | hpath | ⟨hpath, -⟩ | ⟨hpath, -⟩
  · exact .inl (hpath ▸ by decide)
  · rw [hpath, ownPath]
    split_ifs with hempty
    · exact .inl h.packageName
    · exact .inr ⟨rfl, by simpa using hempty⟩
  · exact .inl (hpath ▸ by decide)
  · exact .inl (hpath ▸ by decide)

theorem HasTests.isSingleLine_decls (h : entity.HasTests) :
    ∀ decl ∈ entity.tests.decls, ∀ line ∈ decl.lines, IsSingleLine line.toList := by
  intro decl hdecl
  obtain ⟨func, hfunc, rfl⟩ := List.mem_map.mp hdecl
  rcases List.mem_append.mp hfunc with hfunc | hfunc
  · exact h.isSingleLine_fixedTests func hfunc
  · obtain ⟨pair, hpair, rfl⟩ := List.mem_map.mp hfunc
    obtain ⟨hname, hliteral⟩ := h.of_mem_storedValues pair hpair
    exact h.isSingleLine_roundTripTest hname hliteral

/-- Of the lines of the tests, those that begin a test are in the order of the fields. -/
theorem filter_declLines_tests (entity : Entity) :
    entity.tests.declLines.filter (fun line => beginsTest line.toList) =
      (fixedTestSuffixes ++ entity.storedProperties.map Property.getterName).map
        entity.testHeading := by
  have hempty : beginsTest [] = false := rfl
  have hdecls : ∀ funcs : List Go.Func, ((funcs.map Go.Decl.func).flatMap fun decl =>
      "" :: decl.lines).filter (fun line => beginsTest line.toList) =
        funcs.flatMap fun func =>
          (Go.Decl.func func).lines.filter fun line => beginsTest line.toList := by
    intro funcs
    rw [List.filter_flatMap, List.flatMap_map]
    simp [hempty]
  rw [Go.File.declLines, tests, hdecls, List.flatMap_append, List.map_append, storedValues]
  simp only [fixedTests, fixedTestSuffixes, roundTripTest_eq, List.flatMap_cons, List.flatMap_nil,
    List.flatMap_map, List.map_map, Function.comp_apply, filter_lines_testFunc]
  simp [List.map_eq_flatMap]

/-- The lines of the test file, given those of its import block. -/
def testLines (entity : Entity) (imported : List String) : List String :=
  entity.tests.headLines ++ "" :: "import (" :: (imported ++ [")"]) ++ entity.tests.declLines

theorem filter_testLines
    (h : ∀ line ∈ imported, line = "" ∨ ∃ item ∈ entity.tests.imports, line = Go.importLine item) :
    (entity.testLines imported).filter (fun line => beginsTest line.toList) =
      (fixedTestSuffixes ++ entity.storedProperties.map Property.getterName).map
        entity.testHeading := by
  have hfront : ∀ line ∈ entity.tests.headLines ++ "" :: "import (" :: (imported ++ [")"]),
      line.toList.head? ≠ some 'f' := by
    have himported : ∀ line ∈ imported, line.toList.head? ≠ some 'f' := by
      intro line hline
      rcases h line hline with rfl | ⟨item, -, rfl⟩
      · decide
      · simp [toList_importLine]
    simp only [List.forall_mem_append, List.forall_mem_cons]
    exact ⟨by simp [Go.File.headLines], by decide, by decide, himported, by decide, by simp⟩
  rw [testLines, List.filter_append, filter_declLines_tests, List.filter_eq_nil_iff.mpr]
  · rfl
  · intro line hline
    rw [beginsTest_eq_false (hfront line hline)]
    exact Bool.false_ne_true

/-- What holds of every character that ends no line, and of those of the import path, holds of the
lines of the test file. -/
theorem HasTests.forall_mem_testLines (h : entity.HasTests)
    (himported : ∀ line ∈ imported, line = "" ∨
      ∃ item ∈ entity.tests.imports, line = Go.importLine item)
    {holds : Char → Prop} (hsafe : ∀ c, Text.isLineBreak c = false → holds c)
    (hpath : ∀ c ∈ entity.importPath.toList, holds c) :
    ∀ line ∈ entity.testLines imported, ∀ c ∈ line.toList, holds c := by
  have hsingle : ∀ {text : Chars}, IsSingleLine text → ∀ c ∈ text, holds c :=
    fun htext c hc => hsafe c (htext c hc)
  have hpackage := isSingleLine_of_isIdentifier h.packageName
  have hitem : ∀ item ∈ entity.tests.imports, ∀ c ∈ item.path.toList, holds c := by
    intro item hitem
    rcases h.path_of_mem_imports hitem with hname | ⟨hown, -⟩
    · exact hsingle (isSingleLine_of_isIdentifier hname)
    · exact hown ▸ hpath
  have hlines : ∀ line ∈ imported, ∀ c ∈ line.toList, holds c := by
    intro line hline
    rcases himported line hline with rfl | ⟨item, hmem, rfl⟩
    · exact fun c hc => absurd hc (by simp)
    · rw [toList_importLine, (mem_imports_tests.mp hmem).1]
      have hmark : holds '\t' ∧ holds '"' := ⟨hsafe _ (by decide), hsafe _ (by decide)⟩
      simpa [hmark.1, hmark.2, or_imp, forall_and] using hitem item hmem
  have hhead : ∀ line ∈ entity.tests.headLines, ∀ c ∈ line.toList, holds c := by
    simp only [Go.File.headLines, tests, List.forall_mem_cons]
    refine ⟨hsingle (by decide), hsingle ?_, List.forall_mem_nil _⟩
    simp only [String.toList_append, isSingleLine_append]
    exact ⟨by decide, hpackage, by decide⟩
  have hdecls : ∀ line ∈ entity.tests.declLines, ∀ c ∈ line.toList, holds c := by
    intro line hline
    obtain ⟨decl, hdecl, hline⟩ := List.mem_flatMap.mp hline
    rcases List.mem_cons.mp hline with rfl | hline
    · exact fun c hc => absurd hc (by simp)
    · exact hsingle (h.isSingleLine_decls decl hdecl line hline)
  simp only [testLines, List.forall_mem_append, List.forall_mem_cons]
  exact ⟨⟨hhead, hsingle (by decide), hsingle (by decide), hlines, hsingle (by decide),
    List.forall_mem_nil _⟩, hdecls⟩

theorem HasTests.newline_not_mem_testLines (h : entity.HasTests)
    (himported : ∀ line ∈ imported, line = "" ∨
      ∃ item ∈ entity.tests.imports, line = Go.importLine item)
    (hpath : '\n' ∉ entity.importPath.toList) :
    ∀ line ∈ entity.testLines imported, '\n' ∉ line.toList := by
  have hsafe : ∀ c, Text.isLineBreak c = false → c ≠ '\n' := by
    rintro c hc rfl
    cases hc
  have hfree : ∀ c ∈ entity.importPath.toList, c ≠ '\n' := by
    rintro c hc rfl
    exact hpath hc
  intro line hline hmem
  exact h.forall_mem_testLines himported hsafe hfree line hline '\n' hmem rfl

/-- What the test file imports, apart from the package that it tests, it uses, and the other way
round. -/
theorem HasTests.mem_imports_iff (h : entity.HasTests) (hlong : 2 < package.length)
    (hpackage : package ≠ entity.packageName) (hpath : package ≠ entity.importPath) :
    ⟨package, ""⟩ ∈ entity.tests.imports ↔
      package ∈ qualifiersIn entity.tests.renderDecls.toList := by
  have hown : package ≠ entity.ownPath := by
    unfold ownPath
    split_ifs
    · exact hpackage
    · exact hpath
  rw [mem_imports_tests, h.mem_qualifiersIn_tests hlong hpackage]
  simp only [true_and, hown, false_or]

/-- The import block has the line of an import exactly if the file has the import. -/
theorem importLine_mem_iff
    (hperm : (imported.filter (· != "")).Perm (entity.tests.imports.map Go.importLine)) :
    Go.importLine ⟨package, ""⟩ ∈ imported ↔ ⟨package, ""⟩ ∈ entity.tests.imports := by
  have hkept : Go.importLine ⟨package, ""⟩ ≠ "" :=
    ne_of_apply_ne String.toList (by simp [toList_importLine])
  have hfilter : Go.importLine ⟨package, ""⟩ ∈ imported ↔
      Go.importLine ⟨package, ""⟩ ∈ imported.filter (· != "") := by
    rw [List.mem_filter]
    exact (and_iff_left (by simpa using hkept)).symm
  rw [hfilter, hperm.mem_iff, List.mem_map]
  constructor
  · rintro ⟨⟨path, localName⟩, hitem, hline⟩
    obtain rfl : localName = "" := (mem_imports_tests.mp hitem).1
    have hchars := congrArg String.toList hline
    simp only [toList_importLine] at hchars
    obtain rfl : path = package := String.toList_inj.mp (by simpa using hchars)
    exact hitem
  · exact fun hitem => ⟨_, hitem, rfl⟩

/-- The test file can be read by its lines where no quote stands in the import path. -/
theorem HasTests.isLined_tests (h : entity.HasTests)
    (hpath : '\n' ∉ entity.importPath.toList) (hquote : '"' ∉ entity.importPath.toList) :
    entity.tests.IsLined := by
  have hpackage := newline_not_mem_of_isSingleLine (isSingleLine_of_isIdentifier h.packageName)
  refine ⟨by simp [tests], ?_, ?_, ?_⟩
  · simp [tests, hpackage]
  · exact fun decl hdecl line hline =>
      newline_not_mem_of_isSingleLine (h.isSingleLine_decls decl hdecl line hline)
  · intro item hitem
    have hlocal := (mem_imports_tests.mp hitem).1
    rcases h.path_of_mem_imports hitem with hname | ⟨hown, hne⟩
    · refine ⟨fun hempty => ?_, fun hmem => ?_, ?_, .inl hlocal⟩
      · rw [hempty] at hname
        exact absurd hname (by decide)
      · exact absurd (isWord_of_isIdentifier hname _ hmem) (by decide)
      · exact newline_not_mem_of_isSingleLine (isSingleLine_of_isIdentifier hname)
    · exact ⟨hown ▸ hne, hown ▸ hquote, hown ▸ hpath, .inl hlocal⟩

/-- The imports that are found in the test file are those that it has. -/
theorem HasTests.exists_findImports_iff (h : entity.HasTests)
    (hpath : '\n' ∉ entity.importPath.toList) (hquote : '"' ∉ entity.importPath.toList) :
    (∃ item ∈ findImports entity.tests.render.toList, item.path = package) ↔
      ⟨package, ""⟩ ∈ entity.tests.imports := by
  have hfound := (h.isLined_tests hpath hquote).findImports_render
  constructor
  · rintro ⟨⟨path, localName⟩, hitem, rfl⟩
    have hmem := hfound.mem_iff.mp hitem
    obtain rfl : localName = "" := (mem_imports_tests.mp hmem).1
    exact hmem
  · exact fun hmem => ⟨_, hfound.mem_iff.mpr hmem, rfl⟩

/-- The lines of the test file that begin a test. -/
theorem filter_splitOn_testLines
    (h : ∀ line ∈ imported, line = "" ∨ ∃ item ∈ entity.tests.imports, line = Go.importLine item)
    (hlines : ∀ line ∈ entity.testLines imported, '\n' ∉ line.toList) :
    (Text.splitOn "\n" (linesText (entity.testLines imported))).filter beginsTest =
      (fixedTestSuffixes ++ entity.storedProperties.map Property.getterName).map
        fun suffix => (entity.testHeading suffix).toList := by
  have hend : [([] : Chars)].filter beginsTest = [] := rfl
  rw [splitOn_linesText hlines, List.filter_append, hend, List.append_nil, List.filter_map]
  simp only [Function.comp_def, filter_testLines h, List.map_map]

/-- The file of an entity's tests cannot be made exactly if a stored field lacks a test value, and
the error names the first such field. Otherwise its tests are the four fixed ones and then one for
each stored field, in the order of declaration, and of `testing`, `bytes` and `time` it imports just
what the text after the import block uses, unless that is the tested package. -/
theorem test_file_shape (h : entity.IsTestNamed) (hpath : '\n' ∉ entity.importPath.toList) :
    ((∃ error, entity.renderTest {} = .error error) ↔
      ∃ property ∈ entity.properties, LacksValue property) ∧
    (∀ property, entity.properties.find? (fun property => LacksValue property) = some property →
      entity.renderTest {} =
        .error (.fault (.source (.noTestLiteral property.type entity.name property.name))
          entity.sourcePath)) ∧
    ((∀ property ∈ entity.properties, ¬ LacksValue property) →
      ∃ text imported later, entity.renderTest {} = .ok text ∧
        text = Go.header "storesynth" (entity.packageName ++ "_test") ++ "\n\n" ++
          Text.joinLines ("import (" :: (imported ++ [")"])) ++ later ∧
        (∀ line ∈ imported, line ≠ ")" ∧ '\n' ∉ line.toList) ∧
        (Text.splitOn "\n" text.toList).filter beginsTest =
          (["Table", "TableAlias", "IsUpdated", "ID"] ++
            entity.storedProperties.map Property.getterName).map
              (fun suffix => (entity.testHeading suffix).toList) ∧
        ((Text.splitOn "\n" text.toList).filter beginsTest).length =
          4 + entity.storedProperties.length ∧
        (IsSingleLine entity.importPath.toList →
          Text.splitOn "\n" text.toList = Text.lines text.toList ++ [[]]) ∧
        ∀ package ∈ ["testing", "bytes", "time"],
          package ≠ entity.packageName → package ≠ entity.importPath →
            (Go.importLine ⟨package, ""⟩ ∈ imported ↔ package ∈ findQualifiers later.toList) ∧
            ('"' ∉ entity.importPath.toList →
              ((∃ item ∈ findImports text.toList, item.path = package) ↔
                package ∈ findQualifiers later.toList))) := by
  refine ⟨⟨?_, ?_⟩, fun property => renderTest_of_lacksValue, ?_⟩
  · rintro ⟨error, herror⟩
    by_contra hnone
    push Not at hnone
    rw [renderTest_of_values hnone] at herror
    cases herror
  · rintro ⟨property, hproperty, hlacks⟩
    cases hfirst : entity.properties.find? fun property => LacksValue property with
    | none => exact absurd (decide_eq_true hlacks) (List.find?_eq_none.mp hfirst property hproperty)
    | some first => exact ⟨_, renderTest_of_lacksValue hfirst⟩
  · intro hvalues
    have htests : entity.HasTests := ⟨h, hvalues⟩
    have himports : entity.tests.imports ≠ [] := List.cons_ne_nil _ _
    obtain ⟨imported, hblock, hperm, hitems, hrender⟩ := Go.File.exists_lines himports
    rw [← testLines] at hrender
    have hfeeds := htests.newline_not_mem_testLines hitems hpath
    have hheadings := filter_splitOn_testLines hitems hfeeds
    rw [← hrender] at hheadings
    refine ⟨entity.tests.render, imported, "\n\n" ++ entity.tests.renderDecls ++ "\n",
      renderTest_of_values hvalues, ?_, ?_, hheadings, ?_, ?_, ?_⟩
    · rw [Go.File.render_eq_append himports (List.cons_ne_nil _ _), hblock]
      rfl
    · intro line hline
      refine ⟨?_, hfeeds line (by simp [testLines, hline])⟩
      rcases hitems line hline with rfl | ⟨item, -, rfl⟩
      · decide
      · exact ne_of_apply_ne String.toList (by simp [toList_importLine])
    · rw [hheadings, List.length_map, List.length_append, List.length_map]
      rfl
    · intro hsingle
      have hlines := htests.forall_mem_testLines hitems (fun _ => id) hsingle
      rw [hrender, splitOn_linesText hfeeds, lines_linesText hlines]
    · intro package hmem hpackage hown
      have hlong : 2 < package.length := by
        have htable : ∀ package ∈ ["testing", "bytes", "time"], 2 < package.length := by decide
        exact htable package hmem
      have himport := htests.mem_imports_iff hlong hpackage hown
      rw [Go.mem_findQualifiers_renderDecls, ← himport]
      exact ⟨importLine_mem_iff hperm, htests.exists_findImports_iff hpath⟩

theorem test_file_shape_sample :
    let visit : Entity :=
      { name := "Visit", packageName := "visit", importPath := "shop/visit"
        properties := [⟨"id", "string", ""⟩, ⟨"at", "*time.Time", ""⟩,
          ⟨"marks", "map[string]int", "// @synthesize-no-db-field"⟩, ⟨"raw", "[]byte", ""⟩] }
    let marked : Entity :=
      { name := "Visit", packageName := "visit"
        properties := [⟨"id", "[]int", ""⟩, ⟨"raw", "*[]byte", ""⟩, ⟨"marks", "[]int", ""⟩] }
    (visit.IsTestNamed ∧ '\n' ∉ visit.importPath.toList ∧
      ∃ text imported later, visit.renderTest {} = .ok text ∧
        text = Go.header "storesynth" "visit_test" ++ "\n\n" ++
          Text.joinLines ("import (" :: (imported ++ [")"])) ++ later ∧
        (Text.splitOn "\n" text.toList).filter beginsTest =
          ["func TestVisitTable(t *testing.T) \x7b".toList,
            "func TestVisitTableAlias(t *testing.T) \x7b".toList,
            "func TestVisitIsUpdated(t *testing.T) \x7b".toList,
            "func TestVisitID(t *testing.T) \x7b".toList,
            "func TestVisitAt(t *testing.T) \x7b".toList,
            "func TestVisitRaw(t *testing.T) \x7b".toList] ∧
        (Go.importLine ⟨"bytes", ""⟩ ∈ imported ↔ "bytes" ∈ findQualifiers later.toList)) ∧
    (marked.IsTestNamed ∧ '\n' ∉ marked.importPath.toList ∧
      marked.renderTest {} =
        .error (.fault (.source (.noTestLiteral "*[]byte" "Visit" "raw")) none)) := by
  intro visit marked
  have hvisit : visit.IsTestNamed := ⟨⟨by decide, by decide, by decide⟩, by decide⟩
  have hmarked : marked.IsTestNamed := ⟨⟨by decide, by decide, by decide⟩, by decide⟩
  obtain ⟨-, -, hshape⟩ := test_file_shape hvisit (by decide)
  obtain ⟨-, hfirst, -⟩ := test_file_shape hmarked (by decide)
  obtain ⟨text, imported, later, htext, hparts, -, hlines, -, -, hused⟩ := hshape (by decide)
  refine ⟨⟨hvisit, by decide, text, imported, later, htext, hparts, ?_, ?_⟩, hmarked, by decide, ?_⟩
  · rw [hlines]
    decide
  · exact (hused "bytes" (by decide) (by decide) (by decide)).1
  · exact hfirst ⟨"raw", "*[]byte", ""⟩ (by decide)

end Entity

end Scaffold
