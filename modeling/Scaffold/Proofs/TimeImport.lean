import Scaffold.Proofs.ImportBlock
import Scaffold.Proofs.ReadNames
import Scaffold.Proofs.TableOverrides

/-!
# The package `time` in an entity's file

The file of an entity imports `time` where the type of a field mentions it, as a text with no word
and no dot right before it. What the file uses are the qualifiers of the types of its fields and of
the methods that its interface adds: everything else in it is written with names of its own. The two
agree where types mention `time` plainly and methods use it only if a type does; a method that uses
`time` alone leaves the file without the import.
-/

namespace Scaffold

variable {name : String}

namespace Source

variable {α : Type} {text before after package : Chars} {qualifier : String}

/-! ## Places in a text -/

/-- A package's name with a symbol after it is found where nothing runs into it. -/
theorem mem_qualifiersIn_of_place (hpackage : isIdentifier package = true)
    (hbefore : before.getLast?.all separates = true)
    (hafter : after.head?.any startsIdentifier = true) :
    String.ofList package ∈ qualifiersIn (before ++ package ++ '.' :: after) := by
  have hfirst : String.ofList package ∈ qualifiersIn (package ++ '.' :: after) := by
    obtain ⟨symbol, hsymbol⟩ : ∃ symbol, identifier? after = some symbol := by
      cases after with
      | nil => cases hafter
      | cons c others =>
        have hstart : startsIdentifier c = true := hafter
        have hword := isWord_of_startsIdentifier hstart
        simp [identifier?, hstart, word?, hword]
    have hfound : qualified? none (package ++ '.' :: after) = some (package, symbol.2) := by
      have hname : identifier? (package ++ '.' :: after) = some (package, '.' :: after) :=
        identifier?_append hpackage (by decide)
      have hdot : literal "." ('.' :: after) = some after := literal_append "." after
      simp [qualified?, hname, hdot, hsymbol]
    rw [qualifiersIn, allMatches]
    cases hpackage' : package with
    | nil =>
      rw [hpackage'] at hpackage
      cases hpackage
    | cons first others =>
      rw [hpackage'] at hfound
      rw [List.cons_append, matchesFrom, ← List.cons_append, hfound]
      exact List.mem_cons_self
  rcases List.eq_nil_or_concat before with rfl | ⟨others, last, rfl⟩
  · exact hfirst
  · rw [List.concat_eq_append] at hbefore ⊢
    have hlast : separates last = true := by simpa using hbefore
    rw [List.append_assoc, List.append_assoc, List.singleton_append,
      qualifiersIn_append_cons hlast]
    exact List.mem_append_right _ hfirst

/-- A field of a variable uses no other qualifier than the variable. -/
theorem eq_of_mem_qualifiersIn_field {record field : String}
    (hrecord : isIdentifier record.toList = true) (hfield : isIdentifier field.toList = true)
    (h : qualifier ∈ qualifiersIn (record.toList ++ '.' :: field.toList)) : qualifier = record := by
  have hparts : IsServiceType [] record.toList field.toList :=
    { star := .inl rfl
      ne_nil := fun hnil => by simp [hnil, isIdentifier] at hrecord
      package := isWord_of_isIdentifier hrecord
      symbol := isWord_of_isIdentifier hfield }
  have hsame := hparts.eq_of_mem h
  rwa [String.ofList_toList] at hsame

/-- The word is written without a dot, or it is a field of a variable that has another name. -/
def IsForeign (package : String) (word : Chars) : Prop :=
  '.' ∉ word ∨ ∃ record field : String, word = record.toList ++ '.' :: field.toList ∧
    isIdentifier record.toList = true ∧ isIdentifier field.toList = true ∧ record ≠ package

/-- A line of such words does not use the package. -/
theorem not_mem_qualifiersIn_of_words {package line : String} {words : List Chars}
    (hline : line.toList = [' '].intercalate words) (h : ∀ word ∈ words, IsForeign package word) :
    package ∉ qualifiersIn line.toList := by
  rw [hline, qualifiersIn_intercalate (by decide) (by decide), List.mem_flatMap]
  rintro ⟨word, hword, hmem⟩
  rcases h word hword with hdot | ⟨record, field, rfl, hrecord, hfield, hne⟩
  · rw [qualifiersIn_of_not_mem_dot hdot] at hmem
    cases hmem
  · exact hne (eq_of_mem_qualifiersIn_field hrecord hfield hmem).symm

/-- The dot at the end of a sentence belongs to no qualified name. -/
theorem qualifiersIn_sentence {sentence : String} (h : '.' ∉ sentence.toList) :
    qualifiersIn (sentence ++ ".").toList = [] := by
  rw [String.toList_append, List.eq_nil_iff_forall_not_mem]
  intro qualifier hqualifier
  obtain ⟨before, after, htext, -, -, hafter⟩ := exists_place_of_mem_qualifiersIn hqualifier
  obtain ⟨-, -, rfl⟩ := (List.append_cons_inj_of_notMem h List.not_mem_nil).mp htext
  cases hafter

end Source

namespace Entity

open Source

variable {type : String}

/-! ## Types that mention `time` -/

/-- A type mentions `time` exactly if it has a text like `time.` that follows no word and no
dot. -/
theorem usesTime_iff :
    usesTime type = true ↔ ∃ before after, type.toList = before ++ "time.".toList ++ after ∧
      before.getLast?.all separates = true := by
  have hlooks : ∀ previous : Option Char,
      (previous.any fun c => Text.isWord c || c == '.') = !previous.all separates := by
    intro previous
    cases previous with
    | none => rfl
    | some c => simp [separates, bne]
  have hplace : ∀ before rest, (timeUse? before rest).isSome = true ↔
      before.all separates = true ∧ ∃ after, rest = "time.".toList ++ after := by
    intro before rest
    rw [timeUse?, hlooks]
    cases before.all separates with
    | false => simp
    | true =>
      simp only [Bool.not_true, Bool.false_eq_true, if_false, Option.isSome_map, true_and]
      rw [Option.isSome_iff_exists]
      refine exists_congr fun after => ⟨eq_of_literal, ?_⟩
      rintro rfl
      exact literal_append _ _
  have hnil : ∀ previous, timeUse? previous [] = none := by
    intro previous
    unfold timeUse?
    split_ifs <;> rfl
  rw [usesTime, isSome_firstMatch?_iff hnil]
  constructor
  · rintro ⟨before, rest, htype, hrest⟩
    obtain ⟨hbefore, after, rfl⟩ := (hplace _ _).mp hrest
    exact ⟨before, after, by rw [htype, List.append_assoc], hbefore⟩
  · rintro ⟨before, after, htype, hbefore⟩
    exact ⟨before, "time.".toList ++ after, by rw [htype, List.append_assoc],
      (hplace _ _).mpr ⟨hbefore, after, rfl⟩⟩

/-- The place of a text like `time.` is plain: it is the end of a longer name, or it stands after a
separator and before a name. -/
def isPlainPlace (before after : Chars) : Bool :=
  before.getLast?.any Text.isWord ||
    (before.getLast?.all separates && after.head?.any startsIdentifier)

/-- Every text like `time.` in a type stands at a plain place. -/
def mentionsTimePlainly (type : String) : Bool :=
  (List.range (type.length + 1)).all fun n =>
    (literal "time." (type.toList.drop n)).all (isPlainPlace (type.toList.take n))

theorem isPlainPlace_of_mentionsTimePlainly (h : mentionsTimePlainly type = true)
    {before after : Chars} (htype : type.toList = before ++ "time.".toList ++ after) :
    isPlainPlace before after = true := by
  have hlength : before.length < type.length + 1 := by
    rw [← String.length_toList, htype]
    simp only [List.length_append]
    omega
  have hplace := List.all_eq_true.mp h before.length (List.mem_range.mpr hlength)
  rw [htype, List.append_assoc, List.drop_left, List.take_left, literal_append] at hplace
  exact hplace

/-- Where a type mentions `time` plainly, it uses the qualifier. -/
theorem usesTime_iff_mem_qualifiersIn (h : mentionsTimePlainly type = true) :
    usesTime type = true ↔ "time" ∈ qualifiersIn type.toList := by
  have hdotted : ∀ before after : Chars,
      before ++ "time.".toList ++ after = before ++ "time".toList ++ '.' :: after := by simp
  rw [usesTime_iff]
  constructor
  · rintro ⟨before, after, htype, hbefore⟩
    have hplain := isPlainPlace_of_mentionsTimePlainly h htype
    have hlast : before.getLast?.any Text.isWord = false := by
      cases hend : before.getLast? with
      | none => rfl
      | some c =>
        rw [hend] at hbefore
        exact isWord_of_separates hbefore
    rw [isPlainPlace, hlast, Bool.false_or, Bool.and_eq_true] at hplain
    rw [htype, hdotted]
    exact mem_qualifiersIn_of_place (by decide) hbefore hplain.2
  · intro hmem
    obtain ⟨before, after, htype, hlast, -, -⟩ := exists_place_of_mem_qualifiersIn hmem
    rw [← hdotted] at htype
    have hplain := isPlainPlace_of_mentionsTimePlainly h htype
    rw [isPlainPlace, hlast, Bool.false_or, Bool.and_eq_true] at hplain
    exact ⟨before, after, htype, hplain.1⟩

end Entity

/-! ## Declarations -/

namespace Go

open Source

theorem qualifiersIn_docLines (doc : Option String) :
    (Func.docLines doc).flatMap (fun line => qualifiersIn line.toList) =
      doc.toList.flatMap fun sentence => qualifiersIn sentence.toList := by
  rw [Func.docLines, List.flatMap_map]
  refine List.flatMap_congr fun sentence _ => ?_
  rw [String.toList_append, qualifiersIn_separators_append (by decide)]

theorem qualifiersIn_block (line : String) (body : List String) :
    (block line body).flatMap (fun line => qualifiersIn line.toList) =
      qualifiersIn line.toList ++ body.flatMap fun line => qualifiersIn line.toList := by
  have hclosing : qualifiersIn closing.toList = [] := by decide
  simp only [block, List.flatMap_append, List.flatMap_cons, List.flatMap_nil, List.flatMap_map,
    qualifiersIn_opening, qualifiersIn_indent, hclosing, List.append_nil, List.cons_append]

/-- An interface uses the qualifiers of its members. -/
theorem qualifiersIn_interface (h : '.' ∉ name.toList) (members : List String) :
    qualifiersIn (Decl.interface none name members).render.toList =
      members.flatMap fun member => qualifiersIn member.toList := by
  have hopening : qualifiersIn ("type " ++ name ++ " interface").toList = [] :=
    qualifiersIn_of_not_mem_dot (by simp [h])
  rw [Decl.render, qualifiersIn_joinLines, List.flatMap_append, qualifiersIn_docLines,
    qualifiersIn_block, hopening]
  rfl

/-- A method uses the qualifiers of its sentence, of its signature and of its body. -/
theorem qualifiersIn_func {func : Func} (h : ∀ receiver ∈ func.receiver,
      '.' ∉ receiver.name.toList ∧ '.' ∉ receiver.type.toList) :
    qualifiersIn (Decl.func func).render.toList =
      func.doc.toList.flatMap (fun sentence => qualifiersIn sentence.toList) ++
        (qualifiersIn func.signature.render.toList ++
          func.body.flatMap fun line => qualifiersIn line.toList) := by
  have hopening : qualifiersIn ("func " ++ func.renderReceiver ++ func.signature.render).toList =
      qualifiersIn func.signature.render.toList := by
    obtain ⟨front, hfront, hline⟩ : ∃ front : Chars, '.' ∉ front ∧
        ("func " ++ func.renderReceiver ++ func.signature.render).toList =
          front ++ ' ' :: func.signature.render.toList := by
      unfold Func.renderReceiver
      cases hreceiver : func.receiver with
      | none => exact ⟨"func".toList, by decide, by simp⟩
      | some receiver =>
        obtain ⟨hname, htype⟩ := h receiver hreceiver
        exact ⟨("func (" ++ receiver.name ++ " *" ++ receiver.type ++ ")").toList,
          by simp [hname, htype], by simp⟩
    rw [hline, qualifiersIn_append_cons (by decide), qualifiersIn_of_not_mem_dot hfront,
      List.nil_append]
  rw [Decl.render, Func.render, qualifiersIn_joinLines, List.flatMap_append, qualifiersIn_docLines,
    qualifiersIn_block, hopening]

/-- The function uses the package in its signature at most. -/
structure Func.IsQuiet (package : String) (func : Func) : Prop where
  receiver : ∀ receiver ∈ func.receiver, '.' ∉ receiver.name.toList ∧ '.' ∉ receiver.type.toList
  doc : ∀ sentence ∈ func.doc, package ∉ qualifiersIn sentence.toList
  body : ∀ line ∈ func.body, package ∉ qualifiersIn line.toList

theorem Func.IsQuiet.mem_qualifiersIn_iff {package : String} {func : Func}
    (h : func.IsQuiet package) :
    package ∈ qualifiersIn (Decl.func func).render.toList ↔
      package ∈ qualifiersIn func.signature.render.toList := by
  rw [qualifiersIn_func h.receiver, List.mem_append, List.mem_append, List.mem_flatMap,
    List.mem_flatMap]
  constructor
  · rintro (⟨sentence, hsentence, hmem⟩ | hsignature | ⟨line, hline, hmem⟩)
    · exact absurd hmem (h.doc sentence (by simpa using hsentence))
    · exact hsignature
    · exact absurd hmem (h.body line hline)
  · exact fun hsignature => .inr (.inl hsignature)

end Go

namespace Entity

open Source

variable {entity : Entity} {property : Property}

theorem not_mem_dot_of_isIdentifier (h : isIdentifier name.toList = true) : '.' ∉ name.toList :=
  not_mem_dot_of_isWord (isWord_of_isIdentifier h)

/-- A signature with a single result uses the qualifiers of the result's type. -/
theorem qualifiersIn_result (h : '.' ∉ name.toList) (type : String) :
    qualifiersIn (Signature.render ⟨name, [], [⟨"", type⟩]⟩).toList = qualifiersIn type.toList := by
  have hresult : paramQualifiers ⟨"", type⟩ = qualifiersIn type.toList := rfl
  simp [Signature.qualifiersIn_render, qualifiersIn_of_not_mem_dot h, hresult]

theorem qualifiersIn_getterSignature (h : isIdentifier property.name.toList = true) :
    qualifiersIn (getterSignature property).render.toList = qualifiersIn property.type.toList :=
  qualifiersIn_result (not_mem_dot_of_isIdentifier (IsPlain.isIdentifier_getterName h)) _

theorem qualifiersIn_setterSignature (h : isIdentifier property.name.toList = true) :
    qualifiersIn (setterSignature property).render.toList = qualifiersIn property.type.toList := by
  have hname := qualifiersIn_of_isIdentifier (IsPlain.isIdentifier_setterName h)
  simp [Signature.qualifiersIn_render, setterSignature, hname, paramQualifiers_named h]

theorem variableName_ne_time (h : isIdentifier entity.name.toList = true) :
    entity.variableName ≠ "time" := by
  have hlength : entity.variableName.length = 1 := Naming.length_initial h
  intro htime
  rw [htime] at hlength
  cases hlength

theorem setterReceiver_ne_time (h : isIdentifier entity.name.toList = true) (property : Property) :
    entity.setterReceiver property ≠ "time" := by
  have hlength : entity.variableName.length = 1 := Naming.length_initial h
  unfold setterReceiver
  split_ifs
  · intro htime
    have hlonger := congrArg String.length htime
    rw [String.length_append, hlength] at hlonger
    cases hlonger
  · exact variableName_ne_time h

/-- The receivers of an entity's methods are written without dots. -/
theorem receiver_names (h : isIdentifier entity.name.toList = true)
    (hname : isIdentifier name.toList = true) :
    ∀ receiver ∈ some (Go.Receiver.mk name entity.name),
      '.' ∉ receiver.name.toList ∧ '.' ∉ receiver.type.toList := by
  intro receiver hreceiver
  obtain rfl := Option.some.inj hreceiver
  exact ⟨not_mem_dot_of_isIdentifier hname, not_mem_dot_of_isIdentifier h⟩

theorem isQuiet_getter (h : isIdentifier entity.name.toList = true)
    (hproperty : isIdentifier property.name.toList = true) :
    (entity.getter property).IsQuiet "time" where
  receiver := receiver_names h (Naming.isIdentifier_initial h)
  doc := by
    intro sentence hsentence
    obtain rfl := Option.some.inj hsentence
    rw [qualifiersIn_sentence]
    · exact List.not_mem_nil
    · simp [not_mem_dot_of_isIdentifier hproperty,
        not_mem_dot_of_isIdentifier (IsPlain.isIdentifier_getterName hproperty)]
  body := by
    have hline : ("return " ++ entity.variableName ++ "." ++ property.name).toList =
        [' '].intercalate
          ["return".toList, entity.variableName.toList ++ '.' :: property.name.toList] := by
      simp [List.intercalate_cons_cons]
    have hfield : IsForeign "time" (entity.variableName.toList ++ '.' :: property.name.toList) :=
      .inr ⟨_, _, rfl, Naming.isIdentifier_initial h, hproperty, variableName_ne_time h⟩
    refine List.forall_mem_singleton.mpr (not_mem_qualifiersIn_of_words hline ?_)
    simp only [List.forall_mem_cons]
    exact ⟨.inl (by decide), hfield, List.forall_mem_nil _⟩

theorem isQuiet_setter (h : isIdentifier entity.name.toList = true)
    (hproperty : isIdentifier property.name.toList = true) :
    (entity.setter property).IsQuiet "time" where
  receiver := receiver_names h (isIdentifier_setterReceiver h property)
  doc := by
    intro sentence hsentence
    obtain rfl := Option.some.inj hsentence
    rw [qualifiersIn_sentence]
    · exact List.not_mem_nil
    · simp [not_mem_dot_of_isIdentifier hproperty,
        not_mem_dot_of_isIdentifier (IsPlain.isIdentifier_setterName hproperty)]
  body := by
    have hline : (entity.setterReceiver property ++ "." ++ property.name ++ " = " ++
        property.name).toList =
        [' '].intercalate [(entity.setterReceiver property).toList ++ '.' :: property.name.toList,
          "=".toList, property.name.toList] := by
      simp [List.intercalate_cons_cons]
    have hfield : IsForeign "time"
        ((entity.setterReceiver property).toList ++ '.' :: property.name.toList) :=
      .inr ⟨_, _, rfl, isIdentifier_setterReceiver h property, hproperty,
        setterReceiver_ne_time h property⟩
    refine List.forall_mem_singleton.mpr (not_mem_qualifiersIn_of_words hline ?_)
    simp only [List.forall_mem_cons]
    exact ⟨hfield, .inl (by decide), .inl (not_mem_dot_of_isIdentifier hproperty),
      List.forall_mem_nil _⟩

theorem isQuiet_updateCheck (h : isIdentifier entity.name.toList = true) :
    (entity.updateCheck {}).IsQuiet "time" where
  receiver := receiver_names h (Naming.isIdentifier_initial h)
  doc := by
    intro sentence hsentence
    obtain rfl := Option.some.inj hsentence
    decide
  body := by
    have hline : ("return " ++ entity.variableName ++ "." ++ "updatedByID" ++ " != nil").toList =
        [' '].intercalate ["return".toList,
          entity.variableName.toList ++ '.' :: "updatedByID".toList,
          "!=".toList, "nil".toList] := by
      simp [List.intercalate_cons_cons]
    have hfield : IsForeign "time" (entity.variableName.toList ++ '.' :: "updatedByID".toList) :=
      .inr ⟨_, _, rfl, Naming.isIdentifier_initial h, by decide, variableName_ne_time h⟩
    refine List.forall_mem_singleton.mpr (not_mem_qualifiersIn_of_words hline ?_)
    simp only [List.forall_mem_cons]
    exact ⟨.inl (by decide), hfield, .inl (by decide), .inl (by decide), List.forall_mem_nil _⟩

/-- A method that returns a quoted name uses nothing in its body. -/
theorem isQuiet_quoted (h : isIdentifier entity.name.toList = true) {sentence value : String}
    (hsentence : "time" ∉ qualifiersIn sentence.toList) (hvalue : '.' ∉ value.toList)
    (signature : Signature) :
    Go.Func.IsQuiet "time"
      { doc := some sentence, receiver := some entity.receiver, signature
        body := ["return \"" ++ value ++ "\""] } where
  receiver := receiver_names h (Naming.isIdentifier_initial h)
  doc := by
    intro found hfound
    obtain rfl := Option.some.inj hfound
    exact hsentence
  body := by
    refine List.forall_mem_singleton.mpr ?_
    rw [qualifiersIn_of_not_mem_dot (by simp [hvalue])]
    exact List.not_mem_nil

/-- The constructors use nothing in their bodies. -/
theorem isQuiet_constructors (hname : '.' ∉ entity.name.toList)
    (hinterface : '.' ∉ entity.interfaceName.toList) {func : Go.Func}
    (hfunc : func ∈ entity.constructors) : func.IsQuiet "time" := by
  simp only [constructors, List.mem_append, List.mem_ite_nil_left, List.mem_singleton] at hfunc
  rcases hfunc with ⟨-, rfl⟩ | ⟨-, rfl⟩
  · refine ⟨by simp, by simp, List.forall_mem_singleton.mpr ?_⟩
    rw [qualifiersIn_of_not_mem_dot (by simp [Go.braced, hname])]
    exact List.not_mem_nil
  · refine ⟨by simp, fun sentence hsentence => ?_, List.forall_mem_singleton.mpr ?_⟩
    · obtain rfl := Option.some.inj hsentence
      rw [qualifiersIn_sentence (by simp [hinterface])]
      exact List.not_mem_nil
    · rw [qualifiersIn_of_not_mem_dot (by simp [privateConstructorName, hname])]
      exact List.not_mem_nil

/-- The names that an entity is written with are identifiers. -/
structure IsNamed (entity : Entity) : Prop where
  name : isIdentifier entity.name.toList = true
  interfaceSuffix : isIdentifier entity.interfaceSuffix.toList = true
  properties : ∀ property ∈ entity.properties, isIdentifier property.name.toList = true

/-- An entity that is read under the default conventions has such names. -/
theorem isNamed_of_ofSource {source packageName importPath : String} {path : Option String}
    (h : ofSource {} source packageName importPath path = .ok entity) : entity.IsNamed := by
  obtain ⟨hname, hsuffix, hproperties⟩ := parts_of_ofSource h
  exact ⟨hname, by rw [hsuffix]; decide, hproperties⟩

/-- Every function of an entity's file uses `time` in its signature at most. -/
theorem isQuiet_of_mem_funcs (h : entity.IsNamed)
    {func : Go.Func} (hfunc : func ∈ (entity.file {}).funcs) : func.IsQuiet "time" := by
  obtain ⟨hname, hinterface, halias⟩ := isMarkFree_names h.name h.interfaceSuffix
  rw [funcs_file] at hfunc
  rcases List.mem_append.mp hfunc with hmethod | hconstructor
  · rcases cases_of_mem_methods hmethod with rfl | rfl | ⟨property, hproperty, hcases⟩
    · exact isQuiet_quoted h.name (by decide) (hname.not_mem (by decide)) _
    · exact isQuiet_quoted h.name (by decide) (halias.not_mem (by decide)) _
    · have hfield := h.properties property hproperty
      rcases hcases with rfl | rfl | rfl
      · exact isQuiet_getter h.name hfield
      · exact isQuiet_setter h.name hfield
      · exact isQuiet_updateCheck h.name
  · exact isQuiet_constructors (hname.not_mem (by decide)) (hinterface.not_mem (by decide))
      hconstructor

/-- The signature of a function in an entity's file uses `time` only if the type of a field does. -/
theorem exists_of_mem_signature (h : entity.IsNamed)
    {func : Go.Func} (hfunc : func ∈ (entity.file {}).funcs)
    (htime : "time" ∈ qualifiersIn func.signature.render.toList) :
    ∃ property ∈ entity.properties, "time" ∈ qualifiersIn property.type.toList := by
  obtain ⟨hname, hinterface, -⟩ := isMarkFree_names h.name h.interfaceSuffix
  have hdot : '.' ∉ entity.name.toList := hname.not_mem (by decide)
  have hdot' : '.' ∉ entity.interfaceName.toList := hinterface.not_mem (by decide)
  have hfixed : ∀ {name type : String}, '.' ∉ name.toList → '.' ∉ type.toList →
      "time" ∉ qualifiersIn (Signature.render ⟨name, [], [⟨"", type⟩]⟩).toList := by
    intro name type hdotted htype
    rw [qualifiersIn_result hdotted, qualifiersIn_of_not_mem_dot htype]
    exact List.not_mem_nil
  rw [funcs_file] at hfunc
  rcases List.mem_append.mp hfunc with hmethod | hconstructor
  · rcases cases_of_mem_methods hmethod with rfl | rfl | ⟨property, hproperty, hcases⟩
    · exact absurd htime (hfixed (by decide) (by decide))
    · exact absurd htime (hfixed (by decide) (by decide))
    · have hfield := h.properties property hproperty
      refine ⟨property, hproperty, ?_⟩
      rcases hcases with rfl | rfl | rfl
      · rwa [← qualifiersIn_getterSignature hfield]
      · rwa [← qualifiersIn_setterSignature hfield]
      · exact absurd htime (hfixed (by decide) (by decide))
  · simp only [constructors, List.mem_append, List.mem_ite_nil_left, List.mem_singleton]
      at hconstructor
    rcases hconstructor with ⟨-, rfl⟩ | ⟨-, rfl⟩
    · exact absurd htime (hfixed (by simp [privateConstructorName, hdot]) (by simp [hdot]))
    · exact absurd htime (hfixed (by simp [publicConstructorName, hdot']) hdot')

/-- The interface of an entity uses `time` exactly in accessors and in the methods that it adds. -/
theorem exists_of_mem_interfaceDecl (h : entity.IsNamed)
    (htime : "time" ∈ qualifiersIn (entity.interfaceDecl {}).render.toList) :
    (∃ property ∈ entity.properties, "time" ∈ qualifiersIn property.type.toList) ∨
      ∃ method ∈ entity.extraMethods, "time" ∈ qualifiersIn method.render.toList := by
  obtain ⟨-, hinterface, -⟩ := isMarkFree_names h.name h.interfaceSuffix
  have hcapability : "time" ∉ qualifiersIn (entity.capability {}).toList := by
    unfold capability
    split_ifs <;> decide
  rw [interfaceDecl, Go.qualifiersIn_interface (hinterface.not_mem (by decide)),
    List.flatMap_cons, List.mem_append, List.flatMap_map, List.mem_flatMap] at htime
  rcases htime with htime | ⟨signature, hsignature, htime⟩
  · exact absurd htime hcapability
  rcases List.mem_append.mp hsignature with haccessor | hextra
  · obtain ⟨property, hshown, haccessor⟩ := List.mem_flatMap.mp haccessor
    have hproperty : property ∈ entity.properties := (List.mem_filter.mp hshown).1
    obtain ⟨func, hfunc, rfl⟩ := @exists_mem_methods _ _ {} hproperty _ haccessor
    have hmem : func ∈ (entity.file {}).funcs := by
      rw [funcs_file]
      exact List.mem_append_left _ hfunc
    exact .inl (exists_of_mem_signature h hmem htime)
  · exact .inr ⟨signature, hextra, htime⟩

/-- The declarations of an entity's file use `time` exactly if the type of a field or a method that
the interface adds does. -/
theorem mem_qualifiersIn_renderDecls_iff (h : entity.IsNamed) :
    "time" ∈ qualifiersIn (entity.file {}).renderDecls.toList ↔
      (∃ property ∈ entity.properties, "time" ∈ qualifiersIn property.type.toList) ∨
        ∃ method ∈ entity.extraMethods, "time" ∈ qualifiersIn method.render.toList := by
  obtain ⟨hname, hinterface, -⟩ := isMarkFree_names h.name h.interfaceSuffix
  rw [Go.qualifiersIn_renderDecls, List.mem_flatMap]
  constructor
  · rintro ⟨decl, hdecl, htime⟩
    rcases List.mem_cons.mp hdecl with rfl | hdecl
    · rw [qualifiersIn_of_not_mem_dot] at htime
      · cases htime
      · simp [Go.Decl.render, Go.braced, hname.not_mem (by decide : '.'.toNat < 0x30),
          hinterface.not_mem (by decide : '.'.toNat < 0x30)]
    rcases List.mem_cons.mp hdecl with rfl | hfunc
    · exact exists_of_mem_interfaceDecl h htime
    · obtain ⟨func, hfunc, rfl⟩ := List.mem_map.mp hfunc
      have hmem : func ∈ (entity.file {}).funcs := by rwa [funcs_file]
      rw [(isQuiet_of_mem_funcs h hmem).mem_qualifiersIn_iff] at htime
      exact .inl (exists_of_mem_signature h hmem htime)
  · rintro (⟨property, hproperty, htime⟩ | ⟨method, hmethod, htime⟩)
    · have hfield := h.properties property hproperty
      have hmem : entity.getter property ∈ entity.methods {} :=
        List.mem_append_right _ (List.mem_flatMap.mpr ⟨property, hproperty, List.mem_cons_self⟩)
      refine ⟨.func (entity.getter property), ?_, ?_⟩
      · exact List.mem_cons_of_mem _ (List.mem_cons_of_mem _
          (List.mem_map_of_mem (List.mem_append_left _ hmem)))
      · rw [(isQuiet_getter h.name hfield).mem_qualifiersIn_iff]
        exact (qualifiersIn_getterSignature hfield).symm ▸ htime
    · refine ⟨entity.interfaceDecl {}, List.mem_cons_of_mem _ List.mem_cons_self, ?_⟩
      exact Go.mem_qualifiersIn_interface
        (List.mem_cons_of_mem _ (List.mem_map_of_mem (List.mem_append_right _ hmethod))) htime

/-! ## The file -/

/-- The import block of an entity's file. -/
def importText (entity : Entity) : String :=
  Go.importBlock (entity.imports {})

/-- The text of an entity's file after its import block. -/
def laterText (entity : Entity) : String :=
  "\n\n" ++ (entity.file {}).renderDecls ++ "\n"

/-- The import block has the package `time`. -/
def ImportsTime (entity : Entity) : Prop :=
  ∃ item ∈ findImports entity.importText.toList, item.path = "time"

/-- The text after the import block qualifies a name with `time`. -/
def WritesTime (entity : Entity) : Prop :=
  "time" ∈ findQualifiers entity.laterText.toList

theorem render_eq_parts (entity : Entity) :
    entity.render {} = Go.header "storesynth" entity.packageName ++ "\n\n" ++ entity.importText ++
      entity.laterText :=
  @Go.File.render_eq_append (entity.file {}) (List.cons_ne_nil _ _) (List.cons_ne_nil _ _)

theorem importsTime_iff (entity : Entity) :
    entity.ImportsTime ↔ ∃ property ∈ entity.properties, usesTime property.type = true := by
  have himports : entity.imports {} =
      ⟨"github.com/espal-digital-development/espal-core/database", ""⟩ ::
        if entity.properties.any (fun property => usesTime property.type) then [⟨"time", ""⟩]
        else [] := rfl
  have hwritable : ∀ item ∈ entity.imports {}, IsWritable item := by
    rw [himports]
    refine List.forall_mem_cons.mpr ⟨⟨by decide, by decide, by decide, .inl rfl⟩, ?_⟩
    split_ifs
    · exact List.forall_mem_singleton.mpr ⟨by decide, by decide, by decide, .inl rfl⟩
    · exact List.forall_mem_nil _
  have hmem : ∀ item, item ∈ findImports entity.importText.toList ↔ item ∈ entity.imports {} := by
    intro item
    rw [importText, Go.findImports_importBlock hwritable]
    simp only [Go.sortImports, List.mem_append, List.mem_mergeSort, List.mem_filter]
    cases Import.isStandard item.path <;> simp
  simp only [ImportsTime, hmem, himports, List.exists_mem_cons_iff]
  constructor
  · rintro (hdatabase | ⟨item, hitem, -⟩)
    · exact absurd hdatabase (by decide)
    · split_ifs at hitem with hany
      · exact List.any_eq_true.mp hany
      · cases hitem
  · intro hexists
    rw [if_pos (List.any_eq_true.mpr hexists)]
    exact .inr ⟨_, List.mem_singleton_self _, rfl⟩

theorem writesTime_iff (h : entity.IsNamed) :
    entity.WritesTime ↔
      (∃ property ∈ entity.properties, "time" ∈ findQualifiers property.type.toList) ∨
        ∃ method ∈ entity.extraMethods, "time" ∈ findQualifiers method.render.toList := by
  simp only [mem_findQualifiers]
  rw [← mem_qualifiersIn_renderDecls_iff h, WritesTime, laterText,
    Go.mem_findQualifiers_renderDecls]

/-- The file of an entity imports `time` exactly if the type of a field mentions it, and the text
after the import block uses it exactly if the type of a field or a method that the interface adds
does. Where types mention it plainly, the two agree exactly if no method uses it that no type
mentions. -/
theorem time_import_and_use {source packageName importPath : String} {path : Option String}
    (h : ofSource {} source packageName importPath path = .ok entity) :
    entity.render {} = Go.header "storesynth" entity.packageName ++ "\n\n" ++ entity.importText ++
      entity.laterText ∧
    (entity.ImportsTime ↔ ∃ property ∈ entity.properties, usesTime property.type = true) ∧
    (entity.WritesTime ↔
      (∃ property ∈ entity.properties, "time" ∈ findQualifiers property.type.toList) ∨
        ∃ method ∈ entity.extraMethods, "time" ∈ findQualifiers method.render.toList) ∧
    ((∀ property ∈ entity.properties, mentionsTimePlainly property.type = true) →
      ((entity.ImportsTime ↔ entity.WritesTime) ↔
        ((∃ method ∈ entity.extraMethods, "time" ∈ findQualifiers method.render.toList) →
          ∃ property ∈ entity.properties, usesTime property.type = true))) := by
  have himports := importsTime_iff entity
  have hwrites := writesTime_iff (isNamed_of_ofSource h)
  refine ⟨render_eq_parts entity, himports, hwrites, fun hplain => ?_⟩
  have htypes : (∃ property ∈ entity.properties, "time" ∈ findQualifiers property.type.toList) ↔
      ∃ property ∈ entity.properties, usesTime property.type = true := by
    refine exists_congr fun property => and_congr_right fun hproperty => ?_
    rw [mem_findQualifiers, usesTime_iff_mem_qualifiersIn (hplain property hproperty)]
  rw [himports, hwrites, htypes]
  constructor
  · exact fun hsame hmethod => hsame.mpr (.inr hmethod)
  · exact fun hmethod => ⟨.inl, fun hused => hused.elim id hmethod⟩

/-- A struct with a moment, whose interface adds a method that takes another one. -/
def visitSource : String :=
  "// @synthesize\ntype Visit struct \x7b\n\tid string\n\tat *time.Time\n\x7d\n\n" ++
    "type visitMethods interface \x7b\n\tIsBefore(moment time.Time) bool\n\x7d\n"

theorem time_import_and_use_visit :
    ∃ entity, ofSource {} visitSource "visit" "" none = .ok entity ∧
      (∀ property ∈ entity.properties, mentionsTimePlainly property.type = true) ∧
      entity.ImportsTime ∧ (entity.ImportsTime ↔ entity.WritesTime) := by
  let visit : Entity :=
    { name := "Visit", packageName := "visit"
      properties := [⟨"id", "string", ""⟩, ⟨"at", "*time.Time", ""⟩]
      extraMethods := [⟨"IsBefore", [⟨"moment", "time.Time"⟩], [⟨"", "bool"⟩]⟩] }
  have hread : ofSource {} visitSource "visit" "" none = .ok visit := by decide +kernel
  have hplain : ∀ property ∈ visit.properties, mentionsTimePlainly property.type = true := by
    decide
  have hmoment : ∃ property ∈ visit.properties, usesTime property.type = true := by decide
  obtain ⟨-, himports, -, hsame⟩ := time_import_and_use hread
  exact ⟨visit, hread, hplain, himports.mpr hmoment, (hsame hplain).mpr fun _ => hmoment⟩

/-- A method that the interface adds, or a list of parameters in the type of a field that ends in
any number of moments, uses `time` without an import of it. -/
theorem time_written_not_imported :
    let visit : Entity :=
      { name := "Visit", packageName := "visit"
        properties := [⟨"id", "string", ""⟩]
        extraMethods := [⟨"When", [], [⟨"", "time.Time"⟩]⟩] }
    let hooked : Entity :=
      { name := "Visit", packageName := "visit"
        properties := [⟨"hook", "func(at ...time.Time)", ""⟩] }
    (ofSource {} ("// @synthesize\ntype Visit struct \x7b\n\tid string\n\x7d\n\n" ++
        "type visitMethods interface \x7b\n\tWhen() time.Time\n\x7d\n") "visit" "" none =
        .ok visit ∧
      visit.WritesTime ∧ ¬ visit.ImportsTime) ∧
    (ofSource {} ("// @synthesize\ntype Visit struct \x7b\n" ++
        "\thook func(at ...time.Time)\n\x7d\n") "visit" "" none = .ok hooked ∧
      hooked.WritesTime ∧ ¬ hooked.ImportsTime) := by
  intro visit hooked
  have hvisit : visit.IsNamed := ⟨by decide, by decide, by decide⟩
  have hhooked : hooked.IsNamed := ⟨by decide, by decide, by decide⟩
  simp only [writesTime_iff hvisit, writesTime_iff hhooked, importsTime_iff]
  decide +kernel

end Entity

end Scaffold
