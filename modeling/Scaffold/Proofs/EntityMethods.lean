import Scaffold.Proofs.EmittedImports
import Scaffold.Render.EntityTest

/-!
# Methods read back from an entity's file

A file is written line by line, and of its lines only those that open a function begin as a method
does. So the methods that are found in the text of a file are those that the file declares. The file
of an entity declares the accessors of all fields, and the lines of its interface are those of the
same accessors.
-/

namespace Scaffold

namespace Source

/-- Lines that begin otherwise than a function are passed over. -/
theorem findMethods_linesText_append {lines : List String}
    (hlines : ∀ line ∈ lines, '\n' ∉ line.toList)
    (hstart : ∀ line ∈ lines, line.toList.head? ≠ some 'f') (rest : Chars) :
    findMethods (linesText lines ++ rest) = findMethods rest := by
  have hnone : ∀ line ∈ lines, ∀ rest, methodStart? (line.toList ++ '\n' :: rest) = none := by
    intro line hline rest
    have hfunc : literal "func" (line.toList ++ '\n' :: rest) = none := by
      refine literal_eq_none fun hprefix => ?_
      obtain ⟨after, heq⟩ := hprefix
      have hc := hstart line hline
      cases hchars : line.toList with
      | nil => simp [hchars] at heq
      | cons c others =>
        rw [hchars] at heq hc
        exact hc (congrArg some (List.cons.inj heq).1.symm)
    rw [methodStart?, hfunc]
    rfl
  rw [findMethods, allMatches_linesText_append hlines hnone, findMethods]

end Source

namespace Go

open Source

variable {func : Func} {receiver : Receiver} {decl : Decl} {file : File}

/-! ## Methods of files -/

theorem start_body (body : List String) :
    ∀ line ∈ body.map indent ++ [closing], line.toList.head? ≠ some 'f' := by
  simp only [List.forall_mem_append, List.forall_mem_map]
  exact ⟨fun line _ => by simp [indent], by simp [closing]⟩

namespace Func

theorem start_docLines (doc : Option String) :
    ∀ line ∈ docLines doc, line.toList.head? ≠ some 'f' := by
  intro line hline
  obtain ⟨sentence, -, rfl⟩ := List.mem_map.mp hline
  simp

/-- The heading of the method. -/
def heading (func : Func) (receiver : Receiver) : Heading :=
  { receiver := receiver.name.toList
    struct := receiver.type.toList
    name := func.signature.name.toList
    params := (Signature.renderList func.signature.params).toList
    clause := func.signature.resultsText ++ [' '] }

/-- The function can be told from its first line. -/
structure IsReadable (func : Func) : Prop where
  name : IsWord func.signature.name.toList
  heading : ∀ receiver ∈ func.receiver, (func.heading receiver).IsWellFormed ∧
    endsInTypeKeyword (func.heading receiver).clause.reverse = false

/-- The method as it is read; a function without a receiver is none. -/
def method? (func : Func) : Option Method :=
  func.receiver.map fun receiver => (func.heading receiver).method

theorem toList_opening (h : func.receiver = some receiver) :
    (opening ("func " ++ func.renderReceiver ++ func.signature.render)).toList =
      (func.heading receiver).written ++ ['{'] := by
  have hsignature := Signature.toList_render func.signature
  rw [opening, renderReceiver, h, heading]
  unfold Heading.written Heading.list
  simp [hsignature]

/-- No parenthesis follows the first word of a function without a receiver. -/
theorem IsReadable.methodStart?_eq_none (h : func.IsReadable) (hreceiver : func.receiver = none)
    (rest : Chars) :
    methodStart? ((opening ("func " ++ func.renderReceiver ++ func.signature.render)).toList ++
      '\n' :: rest) = none := by
  have hfunc : ∀ text, literal "func" ("func ".toList ++ text) = some (' ' :: text) := fun _ => rfl
  have hspace : ∀ text, skipSpaces (' ' :: text) = skipSpaces text := fun _ => rfl
  have hopen : ∀ text, literal "(" (func.signature.name.toList ++ text) = none := by
    obtain ⟨c, others, hchars⟩ := List.exists_cons_of_ne_nil h.name.1
    intro text
    refine literal_eq_none fun hprefix => ?_
    obtain ⟨after, heq⟩ := hprefix
    rw [hchars] at heq
    have hc : '(' = c := (List.cons.inj heq).1
    have hword := h.name.2 c (by simp [hchars])
    rw [← hc] at hword
    cases hword
  simp only [opening, renderReceiver, hreceiver, String.toList_append, Signature.toList_render,
    String.toList_empty, List.append_assoc, List.nil_append, methodStart?, Option.bind_eq_bind,
    hfunc, Option.bind_some, hspace, h.name.skipSpaces, hopen, Option.bind_none]

/-- A function is found by its first line: a method with its heading, and others not at all. -/
theorem IsReadable.findMethods_lines (h : func.IsReadable)
    (hlines : ∀ line ∈ (Decl.func func).lines, '\n' ∉ line.toList) {rest : Chars}
    {later : List Method} (hrest : findMethods rest = .ok later) :
    findMethods (linesText (Decl.func func).lines ++ rest) =
      .ok (func.method?.toList ++ later) := by
  obtain ⟨hdoc, hblock⟩ := List.forall_mem_append.mp hlines
  rw [block, List.cons_append] at hblock
  obtain ⟨hopening, hbody⟩ := List.forall_mem_cons.mp hblock
  have hafter := (findMethods_linesText_append hbody (start_body func.body) rest).trans hrest
  rw [Decl.lines, linesText_append, List.append_assoc,
    findMethods_linesText_append hdoc (start_docLines func.doc), block, List.cons_append,
    linesText_cons, List.append_assoc, List.cons_append]
  cases hreceiver : func.receiver with
  | none =>
    rw [findMethods, allMatches_append_of_none hopening (h.methodStart?_eq_none hreceiver _),
      ← findMethods, hafter, method?, hreceiver]
    rfl
  | some receiver =>
    obtain ⟨hwell, hkeyword⟩ := h.heading receiver hreceiver
    obtain ⟨inner, hmethods, hinner⟩ := hwell.findMethods_append hkeyword hafter
    rw [toList_opening hreceiver] at hopening ⊢
    obtain rfl := hinner fun hmem => hopening (List.mem_append_left _ hmem)
    rw [List.append_assoc, List.singleton_append, hmethods, method?, hreceiver]
    rfl

end Func

namespace Decl

/-- The method that the declaration is read as, where it is one. -/
def method? : Decl → Option Method
  | .func declaration => declaration.method?
  | _ => none

/-- Only a function has a line that begins as a method does. -/
theorem start_lines_of_ne_func (h : ∀ declaration, decl ≠ .func declaration) :
    ∀ line ∈ decl.lines, line.toList.head? ≠ some 'f' := by
  cases decl with
  | implements interfaceName structName => simp [lines]
  | interface doc name members =>
    refine List.forall_mem_append.mpr ⟨Func.start_docLines doc, ?_⟩
    exact List.forall_mem_cons.mpr ⟨by simp [opening], start_body members⟩
  | emptyStruct doc name =>
    exact List.forall_mem_append.mpr ⟨Func.start_docLines doc, by simp⟩
  | func declaration => exact absurd rfl (h declaration)

/-- The lines of a declaration add the method that it declares, if any. -/
theorem findMethods_lines (hlines : ∀ line ∈ decl.lines, '\n' ∉ line.toList)
    (hfunc : ∀ declaration, decl = .func declaration → declaration.IsReadable) {rest : Chars}
    {later : List Method} (hrest : findMethods rest = .ok later) :
    findMethods (linesText decl.lines ++ rest) = .ok (decl.method?.toList ++ later) := by
  by_cases hdecl : ∃ declaration, decl = .func declaration
  · obtain ⟨declaration, rfl⟩ := hdecl
    exact (hfunc declaration rfl).findMethods_lines hlines hrest
  · have hnot : ∀ declaration, decl ≠ .func declaration := not_exists.mp hdecl
    have hnone : decl.method? = none := by
      cases decl with
      | func declaration => exact absurd rfl (hnot declaration)
      | implements | interface | emptyStruct => rfl
    rw [findMethods_linesText_append hlines (start_lines_of_ne_func hnot), hrest, hnone]
    rfl

end Decl

/-- The text of a file is that of its declarations below lines on which no function begins. -/
theorem File.IsLined.exists_front (h : file.IsLined) :
    ∃ front, file.render.toList = linesText (front ++ file.declLines) ∧
      ∀ line ∈ front, '\n' ∉ line.toList ∧ line.toList.head? ≠ some 'f' := by
  have hhead : ∀ line ∈ file.headLines, '\n' ∉ line.toList ∧ line.toList.head? ≠ some 'f' := by
    simp only [File.headLines, List.forall_mem_cons]
    exact ⟨⟨by simp [h.generator], by simp⟩, ⟨by simp [h.package], by simp⟩, by simp⟩
  by_cases hne : file.imports = []
  · refine ⟨file.headLines, ?_, hhead⟩
    simpa using @File.toList_render file [] (by simp [importBlock, hne]) (by simp)
  · obtain ⟨lines, -, -, hlines, hrender⟩ := file.exists_lines hne
    have hwritten : ∀ line ∈ lines, '\n' ∉ line.toList ∧ line.toList.head? ≠ some 'f' := by
      intro line hline
      rcases hlines line hline with rfl | ⟨item, hitem, rfl⟩
      · exact ⟨by simp, by simp⟩
      · exact ⟨newline_not_mem_importLine (h.imports item hitem), by simp [toList_importLine]⟩
    refine ⟨file.headLines ++ "" :: "import (" :: (lines ++ [")"]), hrender, ?_⟩
    simp only [List.forall_mem_append, List.forall_mem_cons]
    exact ⟨hhead, by simp, by simp, hwritten, by simp⟩

/-- The lines of a declaration stand in the text of the file. -/
theorem File.IsLined.infix_render (h : file.IsLined) (hdecl : decl ∈ file.decls) :
    linesText decl.lines <:+: file.render.toList := by
  obtain ⟨front, htext, -⟩ := h.exists_front
  obtain ⟨before, after, hdecls⟩ := List.append_of_mem hdecl
  refine ⟨linesText (front ++ (before.flatMap fun decl => "" :: decl.lines) ++ [""]),
    linesText (after.flatMap fun decl => "" :: decl.lines), ?_⟩
  rw [htext, File.declLines, hdecls, ← linesText_append, ← linesText_append]
  simp

/-- The methods that are found in the text of a file are those that the file declares, in order. -/
theorem File.IsLined.findMethods_render (h : file.IsLined)
    (hfuncs : ∀ func ∈ file.funcs, func.IsReadable) :
    findMethods file.render.toList = .ok (file.funcs.filterMap Func.method?) := by
  have hmethods : file.funcs.filterMap Func.method? = file.decls.filterMap Decl.method? := by
    rw [File.funcs, List.filterMap_filterMap]
    refine List.filterMap_congr fun decl _ => ?_
    cases decl <;> rfl
  obtain ⟨front, htext, hfront⟩ := h.exists_front
  rw [htext, linesText_append,
    findMethods_linesText_append (fun line hline => (hfront line hline).1)
      fun line hline => (hfront line hline).2, hmethods, File.declLines]
  have hread : ∀ func, .func func ∈ file.decls → func.IsReadable := fun func hfunc =>
    hfuncs func (mem_funcs.mpr hfunc)
  have hlines := h.decls
  generalize file.decls = decls at hread hlines
  induction decls with
  | nil => rfl
  | cons decl others ih =>
    obtain ⟨hhere, hothers⟩ := List.forall_mem_cons.mp hlines
    have hlater := ih (fun func hfunc => hread func (List.mem_cons_of_mem _ hfunc)) hothers
    have hempty := @findMethods_linesText_append [""] (by simp) (by simp)
      (linesText decl.lines ++ linesText (others.flatMap fun decl => "" :: decl.lines))
    have hdecl := decl.findMethods_lines hhere
      (fun func hfunc => hread func (hfunc ▸ List.mem_cons_self)) hlater
    rw [List.flatMap_cons, List.cons_append, linesText_cons, linesText_append, List.filterMap_cons]
    refine hempty.trans (hdecl.trans ?_)
    cases decl.method? <;> rfl

end Go

/-! ## Names and types -/

namespace Naming

variable {name : String}

private theorem startsIdentifier_ascii : ∀ point < 0x80,
    Source.startsIdentifier (Char.ofNat point) = true →
      Source.startsIdentifier (Char.ofNat point).toUpper = true ∧
        Source.startsIdentifier (Char.ofNat point).toLower = true := by
  decide

/-- What begins an identifier does so in either case. -/
theorem startsIdentifier_cased {c : Char} (h : Source.startsIdentifier c = true) :
    Source.startsIdentifier c.toUpper = true ∧ Source.startsIdentifier c.toLower = true := by
  have hcased := startsIdentifier_ascii c.toNat (Source.toNat_lt_of_startsIdentifier h)
  rw [Char.ofNat_toNat] at hcased
  exact hcased h

theorem exists_toList_of_isIdentifier (h : Source.isIdentifier name.toList = true) :
    ∃ c rest, name.toList = c :: rest ∧ Source.startsIdentifier c = true ∧
      rest.all Text.isWord = true := by
  cases hchars : name.toList with
  | nil => simp [hchars, Source.isIdentifier] at h
  | cons c rest =>
    rw [hchars, Source.isIdentifier, Bool.and_eq_true] at h
    exact ⟨c, rest, rfl, h⟩

/-- Two identifiers make one. -/
theorem isIdentifier_append {more : String} (h : Source.isIdentifier name.toList = true)
    (hmore : Source.isIdentifier more.toList = true) :
    Source.isIdentifier (name ++ more).toList = true := by
  obtain ⟨c, rest, hchars, hstart, hrest⟩ := exists_toList_of_isIdentifier h
  have hword := List.all_eq_true.mpr (Source.isWord_of_isIdentifier hmore)
  simp only [String.toList_append, hchars, List.cons_append, Source.isIdentifier, hstart,
    List.all_append, hrest, hword, Bool.and_self]

/-- An identifier with a capital is one. -/
theorem isIdentifier_titled (h : Source.isIdentifier name.toList = true) :
    Source.isIdentifier (titled name).toList = true := by
  obtain ⟨c, rest, hchars, hstart, hrest⟩ := exists_toList_of_isIdentifier h
  have hascii := Source.toNat_lt_of_startsIdentifier hstart
  simp [titled, hchars, Text.upperChar, hascii, Source.isIdentifier,
    (startsIdentifier_cased hstart).1, hrest]

theorem exists_initial_of_isIdentifier (h : Source.isIdentifier name.toList = true) :
    ∃ c, Source.startsIdentifier c = true ∧ initial name = .ofList [c] := by
  obtain ⟨c, rest, hchars, hstart, -⟩ := exists_toList_of_isIdentifier h
  have hascii := Source.toNat_lt_of_startsIdentifier hstart
  have hsigma : c.toNat ≠ 0x3A3 := by omega
  refine ⟨c.toLower, (startsIdentifier_cased hstart).2, ?_⟩
  simp [initial, hchars, Text.lowerFrom, Text.lowerChar, hascii, hsigma]

/-- The first letter of an identifier is one. -/
theorem isIdentifier_initial (h : Source.isIdentifier name.toList = true) :
    Source.isIdentifier (initial name).toList = true := by
  obtain ⟨c, hstart, heq⟩ := exists_initial_of_isIdentifier h
  simp [heq, Source.isIdentifier, hstart]

theorem length_initial (h : Source.isIdentifier name.toList = true) :
    (initial name).length = 1 := by
  obtain ⟨c, -, heq⟩ := exists_initial_of_isIdentifier h
  simp [heq]

end Naming

namespace Source

/-- A type without blanks and comments in it that can stand before a body. -/
structure IsPlainType (type : Chars) : Prop where
  result : IsResult type
  ne_nil : type ≠ []
  unblank : ∀ c ∈ type, Text.isBlank c = false
  slash : '/' ∉ type
  keyword : ¬ "interface".toList <:+ type ∧ ¬ "struct".toList <:+ type

theorem IsPlainType.isTrimmed {type : Chars} (h : IsPlainType type) : Text.IsTrimmed type :=
  ⟨fun c hc => h.unblank c (List.mem_of_mem_head? hc),
    fun c hc => h.unblank c (List.mem_of_mem_getLast? hc)⟩

/-- A type that has a test value is plain: a name, a name of another package, a pointer to one of
them, or raw bytes. -/
theorem isPlainType_of_testLiteral? {type : String}
    (h : (Entity.testLiteral? type).isSome = true) : IsPlainType type.toList := by
  have hbase : ∀ base ∈ "byte" :: Entity.testLiterals.map Prod.fst,
      isIdentifier base.toList = true ∨ base ∈ ["time.Time", "time.Duration"] := by
    decide
  have hplain : ∀ mark ∈ [[], ['*'], ['[', ']']],
      ∀ base ∈ "byte" :: Entity.testLiterals.map Prod.fst, mark ++ base.toList ≠ [] ∧
        ((mark ++ base.toList).all fun c => !Text.isBlank c) = true ∧
        '/' ∉ mark ++ base.toList ∧
        ¬ "interface".toList <:+ mark ++ base.toList ∧
          ¬ "struct".toList <:+ mark ++ base.toList := by
    decide
  obtain ⟨mark, hmark, base, hmem, htype⟩ : ∃ mark ∈ [[], ['*'], ['[', ']']],
      ∃ base ∈ "byte" :: Entity.testLiterals.map Prod.fst, type.toList = mark ++ base.toList := by
    unfold Entity.testLiteral? at h
    split_ifs at h with hbytes
    · exact ⟨['[', ']'], by simp, "byte", by simp, by rw [beq_iff_eq.mp hbytes]; rfl⟩
    · obtain ⟨entry, hentry, hkey⟩ := List.lookup_isSome_iff.mp h
      have hmem : entry.1 ∈ "byte" :: Entity.testLiterals.map Prod.fst :=
        List.mem_cons_of_mem _ (List.mem_map_of_mem hentry)
      rw [beq_iff_eq] at hkey
      split at hkey
      · next base hchars =>
        exact ⟨['*'], by simp, entry.1, hmem, by rw [hchars, ← hkey]; simp⟩
      · exact ⟨[], by simp, entry.1, hmem, by rw [hkey]; rfl⟩
  obtain ⟨hne, hblank, hslash, hkeyword⟩ := hplain mark hmark base hmem
  have hunblank : ∀ c ∈ mark ++ base.toList, Text.isBlank c = false := fun c hc => by
    simpa using List.all_eq_true.mp hblank c hc
  rw [htype]
  refine ⟨?_, hne, hunblank, hslash, hkeyword⟩
  rcases hbase base hmem with hname | hname
  · exact .named hmark hname
  · simp only [List.mem_cons, List.not_mem_nil, or_false] at hname
    rcases hname with rfl | rfl
    · exact @IsResult.qualified mark "time".toList "Time".toList hmark (by decide) (by decide)
    · exact @IsResult.qualified mark "time".toList "Duration".toList hmark (by decide) (by decide)

/-- The name and the lists of the method. -/
def Method.signature (method : Method) : SignatureText :=
  ⟨method.name, method.params, method.results⟩

end Source

namespace Signature

open Source

variable {signature : Signature} {func : Go.Func}

/-- The name and the lists of the signature as texts. -/
def text (signature : Signature) : SignatureText :=
  ⟨signature.name, renderList signature.params, renderList signature.results⟩

theorem renderList_type (type : String) : renderList [⟨"", type⟩] = type := by
  simp [renderList, Param.render]

theorem text_of_type (name type : String) : text ⟨name, [], [⟨"", type⟩]⟩ = ⟨name, "", type⟩ := by
  rw [text, renderList_type]
  rfl

theorem resultsText_type (name type : String) :
    resultsText ⟨name, [], [⟨"", type⟩]⟩ = ' ' :: type.toList := by
  simp [resultsText, renderResults, hasNamedResults, renderList_type]

theorem renderList_field {field type : String} (h : isIdentifier field.toList = true) :
    renderList [⟨field, type⟩] = field ++ " " ++ type := by
  have hne : field.isEmpty = false := by
    rw [← Bool.not_eq_true, String.isEmpty_iff]
    rintro rfl
    cases h
  simp [renderList, Param.render, hne]

theorem toList_renderList_field {field type : String} (h : isIdentifier field.toList = true) :
    (renderList [⟨field, type⟩]).toList = field.toList ++ ' ' :: type.toList := by
  simp [renderList_field h]

/-- A method that reads a value, or one that writes it. -/
inductive IsAccessor : Signature → Prop
  | getter {name type : String} : isIdentifier name.toList = true → IsPlainType type.toList →
      IsAccessor ⟨name, [], [⟨"", type⟩]⟩
  | setter {name field type : String} : isIdentifier name.toList = true →
      isIdentifier field.toList = true → IsPlainType type.toList →
      IsAccessor ⟨name, [⟨field, type⟩], []⟩

namespace IsAccessor

theorem isIdentifier_name (h : IsAccessor signature) :
    isIdentifier signature.name.toList = true := by
  cases h with
  | getter hname _ => exact hname
  | setter hname _ _ => exact hname

theorem nested_params (h : IsAccessor signature) :
    Nested (fun _ => True) (renderList signature.params).toList := by
  cases h with
  | getter _ _ => exact .nil
  | setter _ hfield htype =>
    rw [toList_renderList_field hfield]
    have hword : Nested (fun _ => True) _ := .of_plain fun c hc =>
      ⟨unbracketed_of_isWord (isWord_of_isIdentifier hfield c hc), trivial⟩
    exact hword.append (.plain rfl rfl trivial htype.result.isClause.nested)

theorem collapse_params (h : IsAccessor signature) :
    Text.collapse (renderList signature.params).toList = (renderList signature.params).toList := by
  cases h with
  | getter _ _ => rfl
  | setter _ hfield htype =>
    have hword := IsWord.of_isIdentifier hfield
    rw [toList_renderList_field hfield, Text.collapse, Text.words_append_cons rfl,
      Text.words_of_unblank hword.1 fun c hc => Text.isBlank_of_isWord (hword.2 c hc),
      Text.words_of_unblank htype.ne_nil htype.unblank]
    simp [List.intercalate]

/-- What stands between the parameters and a body. -/
theorem clause (h : IsAccessor signature) :
    IsClause (signature.resultsText ++ [' ']) ∧
      endsInTypeKeyword (signature.resultsText ++ [' ']).reverse = false ∧
      Text.collapse (signature.resultsText ++ [' ']) = (renderList signature.results).toList := by
  cases h with
  | getter _ htype =>
    rw [resultsText_type, renderList_type, List.cons_append]
    refine ⟨.plain rfl rfl (htype.result.isClause.append (.plain rfl rfl .nil)), ?_, ?_⟩
    · rw [Bool.eq_false_iff, ne_eq, htype.result.endsInTypeKeyword_iff, not_or]
      exact htype.keyword
    · rw [Text.collapse_spaced, Text.collapse, Text.words_of_unblank htype.ne_nil htype.unblank]
      simp
  | setter _ _ _ => exact ⟨.plain rfl rfl .nil, rfl, rfl⟩

/-- An accessor is read from its first line. -/
theorem isReadable (h : IsAccessor func.signature) (hreceiver : ∀ receiver ∈ func.receiver,
    isIdentifier receiver.name.toList = true ∧ isIdentifier receiver.type.toList = true) :
    func.IsReadable := by
  obtain ⟨hclause, hkeyword, -⟩ := h.clause
  have hname := IsWord.of_isIdentifier h.isIdentifier_name
  refine ⟨hname, fun receiver hmem => ⟨⟨?_, ?_, hname, h.nested_params, hclause⟩, hkeyword⟩⟩
  · exact .of_isIdentifier (hreceiver receiver hmem).1
  · exact .of_isIdentifier (hreceiver receiver hmem).2

/-- An accessor is a method of its receiver with its own signature. -/
theorem method?_eq (h : IsAccessor func.signature) {receiver : Go.Receiver}
    (hreceiver : func.receiver = some receiver) :
    ∃ method, func.method? = some method ∧ method.receiverType = receiver.type ∧
      method.signature = func.signature.text := by
  refine ⟨(func.heading receiver).method, by rw [Go.Func.method?, hreceiver]; rfl, ?_, ?_⟩
  · simp [Heading.method, Go.Func.heading]
  · simp [Heading.method, Go.Func.heading, Method.signature, text, h.collapse_params, h.clause.2.2]

theorem not_mem_render (h : IsAccessor signature) :
    '\n' ∉ signature.render.toList ∧ '/' ∉ signature.render.toList := by
  have hword : ∀ {name : String}, isIdentifier name.toList = true →
      '\n' ∉ name.toList ∧ '/' ∉ name.toList := by
    intro name hname
    have hfree := Text.isMarkFree_of_isWord (isWord_of_isIdentifier hname)
    exact ⟨hfree.not_mem (by decide), hfree.not_mem (by decide)⟩
  have htype : ∀ {type : Chars}, IsPlainType type → '\n' ∉ type ∧ '/' ∉ type := fun htype =>
    ⟨fun hmem => absurd (htype.unblank _ hmem) (by decide), htype.slash⟩
  rw [toList_render]
  cases h with
  | getter hname hplain =>
    rw [resultsText_type]
    simp [renderList, hword hname, htype hplain]
  | setter hname hfield hplain =>
    rw [toList_renderList_field hfield]
    simp [resultsText, hword hname, hword hfield, htype hplain]

/-- An accessor is written without blanks around it. -/
theorem isTrimmed_render (h : IsAccessor signature) : Text.IsTrimmed signature.render.toList := by
  have hname := h.isIdentifier_name
  have hstart := (isTrimmed_of_isIdentifier hname).start
  have hne := (IsWord.of_isIdentifier hname).1
  rw [toList_render]
  cases h with
  | @getter name type _ htype =>
    rw [resultsText_type]
    have hparts := @Text.isTrimmed_append _ type.toList ['(', ')', ' '] hne hstart htype.ne_nil
      htype.isTrimmed.stop
    simpa [renderList] using hparts
  | @setter name field type _ _ _ =>
    have hparts := @Text.isTrimmed_append _ [')'] ('(' :: (renderList [⟨field, type⟩]).toList) hne
      hstart (by simp) (by rintro c ⟨⟩; rfl)
    simpa [resultsText] using hparts

theorem trim_lists (h : IsAccessor signature) :
    Text.trim (renderList signature.params).toList = (renderList signature.params).toList ∧
      Text.trim signature.resultsText = (renderList signature.results).toList := by
  cases h with
  | getter _ htype =>
    rw [resultsText_type, renderList_type, Text.trim_cons rfl, htype.isTrimmed.trim_eq]
    exact ⟨rfl, rfl⟩
  | setter _ hfield htype =>
    rw [toList_renderList_field hfield]
    have hword := isTrimmed_of_isIdentifier hfield
    have hparts := @Text.isTrimmed_append _ _ [' '] (IsWord.of_isIdentifier hfield).1 hword.start
      htype.ne_nil htype.isTrimmed.stop
    rw [List.append_assoc] at hparts
    exact ⟨hparts.trim_eq, rfl⟩

/-- The line of an accessor in an interface is read as the accessor. -/
theorem readInterfaceLine_eq (h : IsAccessor signature) :
    readInterfaceLine (Go.indent signature.render).toList = .ok (some signature.text) := by
  have hline : (Go.indent signature.render).toList = '\t' :: signature.render.toList := by
    simp [Go.indent]
  have hcut : Text.before "//" ('\t' :: signature.render.toList) =
      '\t' :: signature.render.toList := by
    have hslash : ¬ "//".toList <:+: '\t' :: signature.render.toList := by
      intro hinfix
      have hmem : '/' ∈ '\t' :: signature.render.toList := hinfix.subset (by decide)
      simp [h.not_mem_render.2] at hmem
    rw [Text.before, Text.splitOn, Text.splitFrom_eq_singleton hslash]
    rfl
  have hopen : signature.render.toList.contains '(' = true := by
    rw [toList_render]
    simp
  have hsplit := splitSignature_eq h.isIdentifier_name h.nested_params signature.resultsText
  rw [← toList_render, h.trim_lists.1, h.trim_lists.2] at hsplit
  simp only [String.ofList_toList] at hsplit
  rw [hline, readInterfaceLine, hcut, Text.trim_cons rfl, h.isTrimmed_render.trim_eq]
  simp only [hopen, if_true, hsplit]
  rfl

end IsAccessor

end Signature

namespace Entity

open Source

variable {entity : Entity} {property : Property}

/-- The methods that the file of an entity is to declare. -/
def declaredSignatures (entity : Entity) : List SignatureText :=
  (if entity.isPrimary && entity.tableName.isNone then [⟨"TableName", "", "string"⟩] else []) ++
  (if entity.isPrimary && entity.tableAlias.isNone then [⟨"TableAlias", "", "string"⟩] else []) ++
  entity.properties.flatMap fun property =>
    ⟨property.getterName, "", property.type⟩ ::
      (if property.name = "id" then [] else
        ⟨property.setterName, property.name ++ " " ++ property.type, ""⟩ ::
          (if property.name = "updatedBySurname" then [⟨"IsUpdated", "", "bool"⟩] else []))

/-- The names of an entity are identifiers, its fields have types with test values, and the methods
that its interface adds stand on one line each. -/
structure IsPlain (entity : Entity) : Prop where
  name : isIdentifier entity.name.toList = true
  packageName : isIdentifier entity.packageName.toList = true
  interfaceSuffix : isIdentifier entity.interfaceSuffix.toList = true
  properties : ∀ property ∈ entity.properties, isIdentifier property.name.toList = true ∧
    (testLiteral? property.type).isSome = true
  extraMethods : ∀ method ∈ entity.extraMethods, '\n' ∉ method.render.toList

/-- The kinds of methods that a field gives rise to. -/
theorem cases_of_mem_accessors {config : Config} {func : Go.Func}
    (h : func ∈ entity.accessors config property) :
    func = entity.getter property ∨ func = entity.setter property ∨
      func = entity.updateCheck config := by
  simp only [accessors, List.mem_cons, List.mem_ite_nil_left, List.mem_ite_nil_right,
    List.not_mem_nil, or_false] at h
  obtain rfl | ⟨-, rfl | ⟨-, rfl⟩⟩ := h
  · exact .inl rfl
  · exact .inr (.inl rfl)
  · exact .inr (.inr rfl)

/-- The kinds of methods that the file of an entity has. -/
theorem cases_of_mem_methods {config : Config} {func : Go.Func} (h : func ∈ entity.methods config) :
    func = entity.tableNameMethod ∨ func = entity.tableAliasMethod ∨
      ∃ property ∈ entity.properties, func = entity.getter property ∨
        func = entity.setter property ∨ func = entity.updateCheck config := by
  rcases List.mem_append.mp h with h | h
  · simp only [tableMethods, List.mem_ite_nil_right, List.mem_append, List.mem_singleton] at h
    obtain ⟨-, ⟨-, rfl⟩ | ⟨-, rfl⟩⟩ := h
    · exact .inl rfl
    · exact .inr (.inl rfl)
  · obtain ⟨property, hproperty, h⟩ := List.mem_flatMap.mp h
    exact .inr (.inr ⟨property, hproperty, cases_of_mem_accessors h⟩)

/-- Table methods are written where the entity is primary and has none. -/
theorem map_text_tableMethods (entity : Entity) :
    entity.tableMethods.map (fun func => func.signature.text) =
      (if entity.isPrimary && entity.tableName.isNone then [⟨"TableName", "", "string"⟩] else []) ++
      (if entity.isPrimary && entity.tableAlias.isNone then [⟨"TableAlias", "", "string"⟩]
        else []) := by
  unfold tableMethods
  cases entity.isPrimary with
  | false => rfl
  | true =>
    rw [if_pos rfl, List.map_append, Bool.true_and, Bool.true_and]
    cases entity.tableName <;> cases entity.tableAlias <;>
      simp [tableNameMethod, tableAliasMethod, Signature.text_of_type]

theorem isIdentifier_setterReceiver (h : isIdentifier entity.name.toList = true)
    (property : Property) : isIdentifier (entity.setterReceiver property).toList = true := by
  have hvariable := Naming.isIdentifier_initial h
  unfold setterReceiver
  split_ifs
  · exact Naming.isIdentifier_append hvariable (by decide)
  · exact hvariable

/-- The names that an entity is written with hold no marks. -/
theorem isMarkFree_names (hname : isIdentifier entity.name.toList = true)
    (hsuffix : isIdentifier entity.interfaceSuffix.toList = true) :
    Text.IsMarkFree entity.name ∧ Text.IsMarkFree entity.interfaceName ∧
      Text.IsMarkFree entity.defaultTableAlias := by
  have hfree : ∀ {name : String}, isIdentifier name.toList = true → Text.IsMarkFree name :=
    fun hname => Text.isMarkFree_of_isWord (isWord_of_isIdentifier hname)
  have hinterface : Text.IsMarkFree entity.interfaceName :=
    hfree (Naming.isIdentifier_append (Naming.isIdentifier_titled hname) hsuffix)
  refine ⟨hfree hname, hinterface, ?_⟩
  unfold defaultTableAlias Naming.initials
  apply Text.IsMarkFree.lower
  intro c hc
  rw [String.toList_ofList] at hc
  have hmem := List.mem_of_mem_filter hc
  split_ifs at hmem
  · rw [String.toList_ofList] at hmem
    exact hinterface c (List.mem_of_mem_take hmem)
  · exact hinterface c hmem

namespace IsPlain

theorem isIdentifier_getterName (h : isIdentifier property.name.toList = true) :
    isIdentifier property.getterName.toList = true := by
  unfold Property.getterName
  split_ifs
  · decide
  · decide
  · exact Naming.isIdentifier_titled h

theorem isIdentifier_setterName (h : isIdentifier property.name.toList = true) :
    isIdentifier property.setterName.toList = true := by
  unfold Property.setterName
  split_ifs
  · decide
  · exact Naming.isIdentifier_append (by decide) (Naming.isIdentifier_titled h)

/-- The accessors of a field are accessors. -/
theorem isAccessor_accessorSignatures (h : entity.IsPlain)
    (hproperty : property ∈ entity.properties) :
    ∀ signature ∈ accessorSignatures property, signature.IsAccessor := by
  obtain ⟨hname, htype⟩ := h.properties property hproperty
  have hplain := isPlainType_of_testLiteral? htype
  refine List.forall_mem_cons.mpr ⟨.getter (isIdentifier_getterName hname) hplain, ?_⟩
  split_ifs
  · simp
  · exact List.forall_mem_singleton.mpr (.setter (isIdentifier_setterName hname) hname hplain)

/-- Every method of the file is an accessor of the entity's struct. -/
theorem methods (h : entity.IsPlain) {func : Go.Func} (hfunc : func ∈ entity.methods {}) :
    func.signature.IsAccessor ∧
      ∃ name, func.receiver = some ⟨name, entity.name⟩ ∧ isIdentifier name.toList = true := by
  have hvariable : isIdentifier entity.variableName.toList = true :=
    Naming.isIdentifier_initial h.name
  have howner : ∃ name, some entity.receiver = some (Go.Receiver.mk name entity.name) ∧
      isIdentifier name.toList = true := ⟨entity.variableName, rfl, hvariable⟩
  have hfixed : ∀ {name type : String}, isIdentifier name.toList = true →
      (testLiteral? type).isSome = true → Signature.IsAccessor ⟨name, [], [⟨"", type⟩]⟩ :=
    fun hname htype => .getter hname (isPlainType_of_testLiteral? htype)
  rcases cases_of_mem_methods hfunc with rfl | rfl | ⟨property, hproperty, rfl | rfl | rfl⟩
  · exact ⟨hfixed (by decide) (by decide), howner⟩
  · exact ⟨hfixed (by decide) (by decide), howner⟩
  · obtain ⟨hname, htype⟩ := h.properties property hproperty
    exact ⟨hfixed (isIdentifier_getterName hname) htype, howner⟩
  · obtain ⟨hname, htype⟩ := h.properties property hproperty
    refine ⟨.setter (isIdentifier_setterName hname) hname (isPlainType_of_testLiteral? htype),
      entity.setterReceiver property, rfl, isIdentifier_setterReceiver h.name property⟩
  · exact ⟨hfixed (by decide) (by decide), howner⟩

theorem newline_of_isIdentifier {name : String} (h : isIdentifier name.toList = true) :
    '\n' ∉ name.toList :=
  Text.newline_not_mem_of_isWord (isWord_of_isIdentifier h)

theorem newline_names (h : entity.IsPlain) :
    '\n' ∉ entity.name.toList ∧ '\n' ∉ entity.variableName.toList ∧
      '\n' ∉ entity.interfaceName.toList ∧ '\n' ∉ entity.defaultTableAlias.toList := by
  obtain ⟨hname, hinterface, halias⟩ := isMarkFree_names h.name h.interfaceSuffix
  exact ⟨hname.not_mem (by decide), hname.initial.not_mem (by decide),
    hinterface.not_mem (by decide), halias.not_mem (by decide)⟩

/-- The methods of an entity are written on lines. -/
theorem newline_methods (h : entity.IsPlain) {func : Go.Func} (hfunc : func ∈ entity.methods {}) :
    ∀ line ∈ (Go.Decl.func func).lines, '\n' ∉ line.toList := by
  obtain ⟨haccessor, name, hreceiver, hname⟩ := h.methods hfunc
  obtain ⟨hentity, hvariable, -, halias⟩ := h.newline_names
  have hreceiverLine : '\n' ∉ func.renderReceiver.toList := by
    simp [Go.Func.renderReceiver, hreceiver, hentity, newline_of_isIdentifier hname]
  have htexts : (∀ sentence ∈ func.doc, '\n' ∉ sentence.toList) ∧
      ∀ line ∈ func.body, '\n' ∉ line.toList := by
    rcases cases_of_mem_methods hfunc with rfl | rfl | ⟨property, hproperty, rfl | rfl | rfl⟩
    · exact ⟨by simp [tableNameMethod], by simp [tableNameMethod, hentity]⟩
    · exact ⟨by simp [tableAliasMethod], by simp [tableAliasMethod, halias]⟩
    · have hfield := (h.properties property hproperty).1
      have hgetter := newline_of_isIdentifier (isIdentifier_getterName hfield)
      have hproperty := newline_of_isIdentifier hfield
      exact ⟨by simp [getter, hgetter, hproperty], by simp [getter, hvariable, hproperty]⟩
    · have hfield := (h.properties property hproperty).1
      have hsetter := newline_of_isIdentifier (isIdentifier_setterName hfield)
      have hproperty := newline_of_isIdentifier hfield
      exact ⟨by simp [setter, hsetter, hproperty], by
        simp only [setter, setterReceiver]
        split_ifs <;> simp [hvariable, hproperty]⟩
    · have hreference : isIdentifier ({} : Config).updatedReferenceField.toList = true := by decide
      have htitled := newline_of_isIdentifier (Naming.isIdentifier_titled hreference)
      exact ⟨by simpa [updateCheck] using htitled, by simp [updateCheck, hvariable]⟩
  exact Store.newline_not_mem_func htexts.1 hreceiverLine haccessor.not_mem_render.1 htexts.2

/-- The constructors are no methods. -/
theorem constructors (h : entity.IsPlain) {func : Go.Func} (hfunc : func ∈ entity.constructors) :
    func.receiver = none ∧ func.IsReadable ∧
      ∀ line ∈ (Go.Decl.func func).lines, '\n' ∉ line.toList := by
  obtain ⟨hentity, -, hinterface, -⟩ := h.newline_names
  have hprivate : isIdentifier entity.privateConstructorName.toList = true :=
    Naming.isIdentifier_append (by decide) h.name
  have hpublic : isIdentifier entity.publicConstructorName.toList = true :=
    Naming.isIdentifier_append (by decide)
      (Naming.isIdentifier_append (Naming.isIdentifier_titled h.name) h.interfaceSuffix)
  have hrender : ∀ {name type : String}, isIdentifier name.toList = true → '\n' ∉ type.toList →
      '\n' ∉ (Signature.render ⟨name, [], [⟨"", type⟩]⟩).toList := by
    intro name type hname htype
    rw [Signature.toList_render, Signature.resultsText_type]
    simp [Signature.renderList, newline_of_isIdentifier hname, htype]
  simp only [Entity.constructors, List.mem_append, List.mem_ite_nil_left,
    List.mem_singleton] at hfunc
  rcases hfunc with ⟨-, rfl⟩ | ⟨-, rfl⟩
  · refine ⟨rfl, ⟨.of_isIdentifier hprivate, by simp⟩, Store.newline_not_mem_func (by simp)
      (by simp [Go.Func.renderReceiver]) (hrender hprivate (by simp [hentity])) ?_⟩
    simp [Go.braced, hentity]
  · refine ⟨rfl, ⟨.of_isIdentifier hpublic, by simp⟩, Store.newline_not_mem_func
      (by simp [hinterface]) (by simp [Go.Func.renderReceiver]) (hrender hpublic hinterface) ?_⟩
    simp [newline_of_isIdentifier hprivate]

/-- All that the file of an entity says stands on lines of its own. -/
theorem isLined_file (h : entity.IsPlain) : (entity.file {}).IsLined := by
  obtain ⟨hentity, -, hinterface, -⟩ := h.newline_names
  have hgenerator : '\n' ∉ ({} : Config).generatorName.toList := by decide
  have hdatabase : IsWritable ⟨({} : Config).databaseImport, ""⟩ :=
    ⟨by decide, by decide, by decide, .inl rfl⟩
  have htime : IsWritable ⟨"time", ""⟩ := ⟨by decide, by decide, by decide, .inl rfl⟩
  refine ⟨hgenerator, newline_of_isIdentifier h.packageName, ?_, ?_⟩
  · simp only [file, List.forall_mem_cons, List.forall_mem_map, List.forall_mem_append]
    refine ⟨?_, ?_, fun func hfunc => h.newline_methods hfunc,
      fun func hfunc => (h.constructors hfunc).2.2⟩
    · simp [Go.Decl.lines, Go.braced, hentity, hinterface]
    · refine List.forall_mem_append.mpr ⟨by simp [Go.Func.docLines], ?_⟩
      refine Store.newline_not_mem_block (by simp [hinterface]) ?_
      simp only [List.forall_mem_cons, List.forall_mem_map, List.forall_mem_append]
      refine ⟨?_, fun signature hsignature => ?_, h.extraMethods⟩
      · unfold capability
        split_ifs <;> decide
      · obtain ⟨property, hproperty, hsignature⟩ := List.mem_flatMap.mp hsignature
        have haccessor := h.isAccessor_accessorSignatures (List.mem_of_mem_filter hproperty)
          signature hsignature
        exact haccessor.not_mem_render.1
  · refine List.forall_mem_cons.mpr ⟨hdatabase, ?_⟩
    split_ifs
    · exact List.forall_mem_singleton.mpr htime
    · exact List.forall_mem_nil _

theorem map_text_accessors (h : entity.IsPlain) (hproperty : property ∈ entity.properties) :
    (entity.accessors {} property).map (fun func => func.signature.text) =
      ⟨property.getterName, "", property.type⟩ ::
        (if property.name = "id" then [] else
          ⟨property.setterName, property.name ++ " " ++ property.type, ""⟩ ::
            if property.name = "updatedBySurname" then [⟨"IsUpdated", "", "bool"⟩] else []) := by
  have hsetter : (entity.setter property).signature.text =
      ⟨property.setterName, property.name ++ " " ++ property.type, ""⟩ := by
    simp only [setter, setterSignature, Signature.text,
      Signature.renderList_field (h.properties property hproperty).1]
    rfl
  have hidentity : property.isIdentity = decide (property.name = "id") := rfl
  have htrigger : (property.name == ({} : Config).updatedTriggerField) =
      decide (property.name = "updatedBySurname") := rfl
  rw [accessors, hidentity, htrigger]
  by_cases hid : property.name = "id"
  · simp [hid, getter, getterSignature, Signature.text_of_type]
  · by_cases hlast : property.name = "updatedBySurname" <;>
      simp [hid, hlast, getter, getterSignature, updateCheck, Signature.text_of_type, hsetter]

/-- The methods of the file are those that the entity is to declare. -/
theorem map_text_methods (h : entity.IsPlain) :
    (entity.methods {}).map (fun func => func.signature.text) = entity.declaredSignatures := by
  rw [Entity.methods, List.map_append, map_text_tableMethods, List.map_flatMap, declaredSignatures]
  exact congrArg _ (List.flatMap_congr fun property hproperty => h.map_text_accessors hproperty)

/-! ## The file read back -/

/-- Every function of the file is written in a shape that the search for methods reads. -/
theorem isReadable_of_mem_funcs (h : entity.IsPlain) {func : Go.Func}
    (hfunc : func ∈ (entity.file {}).funcs) : func.IsReadable := by
  rw [funcs_file, List.mem_append] at hfunc
  rcases hfunc with hfunc | hfunc
  · obtain ⟨haccessor, name, hreceiver, hname⟩ := h.methods hfunc
    refine haccessor.isReadable fun receiver hmem => ?_
    obtain rfl := Option.some.inj (hreceiver.symm.trans hmem)
    exact ⟨hname, h.name⟩
  · exact (h.constructors hfunc).2.1

/-- A method of the file is read on the entity's struct, with its own signature. -/
theorem exists_method?_eq (h : entity.IsPlain) {func : Go.Func} (hfunc : func ∈ entity.methods {}) :
    ∃ method, func.method? = some method ∧ method.receiverType = entity.name ∧
      method.signature = func.signature.text := by
  obtain ⟨haccessor, name, hreceiver, -⟩ := h.methods hfunc
  exact haccessor.method?_eq hreceiver

/-- The constructors have no receiver, so that what is read are the methods. -/
theorem findMethods_render (h : entity.IsPlain) :
    findMethods (entity.render {}).toList =
      .ok ((entity.methods {}).filterMap Go.Func.method?) := by
  have hnone : entity.constructors.filterMap Go.Func.method? = [] := by
    rw [List.filterMap_eq_nil_iff]
    intro func hfunc
    rw [Go.Func.method?, (h.constructors hfunc).1]
    rfl
  have hrender := h.isLined_file.findMethods_render fun _ hfunc => h.isReadable_of_mem_funcs hfunc
  rwa [funcs_file, List.filterMap_append, hnone, List.append_nil] at hrender

/-- The interface stands in the file as one block. -/
theorem interface_infix_render (h : entity.IsPlain) :
    linesText (Go.block ("type " ++ entity.interfaceName ++ " interface")
      (entity.capability {} :: (((entity.interfaceProperties {}).flatMap accessorSignatures ++
        entity.extraMethods).map Signature.render))) <:+: (entity.render {}).toList := by
  have hdecl : entity.interfaceDecl {} ∈ (entity.file {}).decls := by simp [file]
  have hlines : (entity.interfaceDecl {}).lines =
      Go.block ("type " ++ entity.interfaceName ++ " interface") (entity.capability {} ::
        ((entity.interfaceProperties {}).flatMap accessorSignatures ++
          entity.extraMethods).map Signature.render) := by
    simp only [interfaceDecl, Go.Decl.lines, Go.Func.docLines, Option.toList_none, List.map_nil,
      List.nil_append]
  exact hlines ▸ h.isLined_file.infix_render hdecl

end IsPlain

/-- The accessors in the interface are methods of the file. -/
theorem exists_mem_methods {config : Config} (hproperty : property ∈ entity.properties)
    {signature : Signature} (h : signature ∈ accessorSignatures property) :
    ∃ func ∈ entity.methods config, func.signature = signature := by
  have hmem : ∀ func ∈ entity.accessors config property, func ∈ entity.methods config :=
    fun func hfunc => List.mem_append_right _ (List.mem_flatMap.mpr ⟨property, hproperty, hfunc⟩)
  rcases List.mem_cons.mp h with rfl | h
  · exact ⟨entity.getter property, hmem _ List.mem_cons_self, rfl⟩
  · split_ifs at h with hidentity
    · cases h
    · obtain rfl := List.mem_singleton.mp h
      refine ⟨entity.setter property, hmem _ ?_, rfl⟩
      simp [accessors, hidentity]

/-- The methods that are read from the file of an entity are those that it is to declare, in order
and on its struct, and the lines of its interface that stand for accessors are read as some of
them. -/
theorem methods_read_back (h : entity.IsPlain) :
    ∃ methods, findMethods (entity.render {}).toList = .ok methods ∧
      (∀ method ∈ methods, method.receiverType = entity.name) ∧
      methods.map Method.signature = entity.declaredSignatures ∧
      linesText (Go.block ("type " ++ entity.interfaceName ++ " interface")
        (entity.capability {} :: (((entity.interfaceProperties {}).flatMap accessorSignatures ++
          entity.extraMethods).map Signature.render))) <:+: (entity.render {}).toList ∧
      ∀ signature ∈ (entity.interfaceProperties {}).flatMap accessorSignatures,
        ∃ method ∈ methods,
          readInterfaceLine (Go.indent signature.render).toList = .ok (some method.signature) := by
  refine ⟨_, h.findMethods_render, ?_, ?_, h.interface_infix_render, ?_⟩
  · intro method hmethod
    obtain ⟨func, hfunc, hfound⟩ := List.mem_filterMap.mp hmethod
    obtain ⟨found, heq, htype, -⟩ := h.exists_method?_eq hfunc
    obtain rfl := Option.some.inj (heq.symm.trans hfound)
    exact htype
  · rw [List.map_filterMap, ← h.map_text_methods, ← List.filterMap_eq_map]
    refine List.filterMap_congr fun func hfunc => ?_
    obtain ⟨method, heq, -, hsignature⟩ := h.exists_method?_eq hfunc
    simp [heq, hsignature]
  · intro signature hsignature
    obtain ⟨property, hproperty, hsignature⟩ := List.mem_flatMap.mp hsignature
    have hmem := List.mem_of_mem_filter hproperty
    obtain ⟨func, hfunc, rfl⟩ := @exists_mem_methods _ _ {} hmem _ hsignature
    obtain ⟨method, heq, -, htext⟩ := h.exists_method?_eq hfunc
    exact ⟨method, List.mem_filterMap.mpr ⟨func, hfunc, heq⟩,
      htext ▸ (h.methods hfunc).1.readInterfaceLine_eq⟩

/-- An entity with a table name of its own, a field that is named like the receiver, raw bytes, the
field that brings the update check, and an added method. -/
def mixedSample : Entity :=
  { name := "Thing"
    packageName := "thing"
    tableName := some "things"
    properties := [⟨"id", "string", ""⟩, ⟨"t", "*time.Time", ""⟩, ⟨"data", "[]byte", ""⟩,
      ⟨"updatedBySurname", "*string", ""⟩]
    extraMethods := [⟨"Walk", [⟨"f", "func (t *Thing) struct\x7b\x7d"⟩], []⟩] }

theorem methods_read_back_sample :
    mixedSample.IsPlain ∧ ∃ methods, findMethods (mixedSample.render {}).toList = .ok methods ∧
      methods.map Method.signature =
        [⟨"TableAlias", "", "string"⟩, ⟨"ID", "", "string"⟩, ⟨"T", "", "*time.Time"⟩,
          ⟨"SetT", "t *time.Time", ""⟩, ⟨"Data", "", "[]byte"⟩, ⟨"SetData", "data []byte", ""⟩,
          ⟨"UpdatedBySurname", "", "*string"⟩,
          ⟨"SetUpdatedBySurname", "updatedBySurname *string", ""⟩, ⟨"IsUpdated", "", "bool"⟩] ∧
      ∃ method ∈ methods,
        readInterfaceLine "\tSetT(t *time.Time)".toList = .ok (some method.signature) := by
  have hplain : mixedSample.IsPlain :=
    ⟨by decide, by decide, by decide, by decide, by decide⟩
  obtain ⟨methods, hmethods, -, hsignatures, -, hlines⟩ := methods_read_back hplain
  exact ⟨hplain, methods, hmethods, hsignatures,
    hlines (setterSignature ⟨"t", "*time.Time", ""⟩) (by decide)⟩

end Entity

end Scaffold
