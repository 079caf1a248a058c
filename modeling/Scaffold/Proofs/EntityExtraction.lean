import Scaffold.Build.Entity
import Scaffold.Proofs.FieldLines
import Scaffold.Proofs.LineScan

/-!
# Entities from their declarations

A source that declares a marked struct, with any lines around it, gives the entity of that struct:
its name and, in order, the fields that the lines of its body declare. Only the number of markings
and the absence of a companion interface are asked of the whole source.
-/

namespace Scaffold

namespace Source

variable {text rest name : Chars} {comments lines : List Chars}

/-- Exactly the comment lines before a line of another kind are skipped. -/
theorem skipCommentLines_eq {c : Char} (hcomments : ∀ line ∈ comments, IsSingleLine line)
    (hcomment : ∀ line ∈ comments, isCommentLine line = true) (hbreak : c ≠ '\n')
    (hspace : Text.isSpaceOrTab c = false) (hslash : c ≠ '/') :
    skipCommentLines (comments.flatMap (· ++ ['\n']) ++ c :: rest) = c :: rest := by
  obtain ⟨first, others, hrest, hfirst⟩ : ∃ first others,
      Text.splitFrom ['\n'] 0 (c :: rest) = first :: others ∧ isCommentLine first = false := by
    have hhere : ['\n'].isPrefixOf (c :: rest) = false := by
      simp [List.isPrefixOf, Ne.symm hbreak]
    have hline : ∀ line, isCommentLine (c :: line) = false := by
      intro line
      have hskip : skipSpaces (c :: line) = c :: line := skipSpaces_eq_self (by simpa using hspace)
      simp [isCommentLine, hskip, literal, List.isPrefixOf?, Ne.symm hslash]
    simp only [Text.splitFrom, hhere]
    cases Text.splitFrom ['\n'] 0 rest with
    | nil => exact ⟨[c], [], rfl, hline []⟩
    | cons piece pieces => exact ⟨c :: piece, pieces, rfl, hline piece⟩
  have hsplit : Text.splitOn "\n" (comments.flatMap (· ++ ['\n']) ++ c :: rest) =
      comments ++ first :: others := by
    clear hcomment
    induction comments with
    | nil => exact hrest
    | cons line comments ih =>
      obtain ⟨hline, hcomments⟩ := List.forall_mem_cons.mp hcomments
      have hcut := @Text.splitFrom_append ['\n'] line (by simp)
        (by simpa using fun h => absurd (hline '\n' (h.subset (by simp))) (by decide))
        (comments.flatMap (· ++ ['\n']) ++ c :: rest)
      have hlater : Text.splitFrom ['\n'] 0 (comments.flatMap (· ++ ['\n']) ++ c :: rest) =
          comments ++ first :: others := ih hcomments
      rw [hlater] at hcut
      rw [List.flatMap_cons, List.append_assoc]
      exact hcut
  have htaken : (Text.splitOn "\n" (comments.flatMap (· ++ ['\n']) ++ c :: rest)).dropLast.takeWhile
      isCommentLine = comments := by
    rw [hsplit, List.dropLast_append_of_ne_nil (by simp), List.takeWhile_append_of_pos hcomment]
    cases others with
    | nil => simp
    | cons second others => simp [List.dropLast_cons_of_ne_nil, hfirst]
  rw [skipCommentLines, htaken]
  exact List.drop_left

theorem bodyFrom_append {close : Char} {line : Chars} (h : '\n' ∉ line) (rest : Chars) :
    bodyFrom close false (line ++ '\n' :: rest) =
      (bodyFrom close true rest).map fun (body, after) => (line ++ '\n' :: body, after) := by
  induction line with
  | nil => rfl
  | cons c line ih =>
    obtain ⟨hc, hline⟩ := List.ne_and_not_mem_of_not_mem_cons h
    have hnext : (c == '\n') = false := by simpa using Ne.symm hc
    rw [List.cons_append, bodyFrom, hnext, ih hline]
    cases bodyFrom close true rest <;> rfl

/-- A body of indented lines ends at the brace after them. -/
theorem blockBody_bodyText (h : ∀ line ∈ lines, IsSingleLine line) (rest : Chars) :
    blockBody '}' (bodyText lines ++ '}' :: rest) = some (bodyText lines, rest) := by
  induction lines with
  | nil => rfl
  | cons line others ih =>
    obtain ⟨hline, hothers⟩ := List.forall_mem_cons.mp h
    have hbreak : '\n' ∉ '\t' :: line := fun hmem => by
      rcases List.mem_cons.mp hmem with h | h
      · cases h
      · cases hline _ h
    have htext : bodyText (line :: others) ++ '}' :: rest =
        '\t' :: line ++ '\n' :: (bodyText others ++ '}' :: rest) := by
      simp [bodyText]
    have hfirst : blockBody '}' ('\t' :: line ++ '\n' :: (bodyText others ++ '}' :: rest)) =
        bodyFrom '}' false ('\t' :: line ++ '\n' :: (bodyText others ++ '}' :: rest)) := rfl
    rw [htext, hfirst, bodyFrom_append hbreak, ← blockBody, ih hothers]
    simp [bodyText]

theorem start_of_isIdentifier (h : isIdentifier name = true) (rest : Chars) :
    ∀ c ∈ (name ++ rest).head?, Text.isSpaceOrTab c = false := by
  cases name with
  | nil => cases h
  | cons first others =>
    intro c hc
    obtain rfl := Option.some.inj hc
    rw [Bool.eq_false_iff]
    intro hspace
    have hword := isWord_of_isIdentifier h first (by simp)
    simp only [Text.isSpaceOrTab, Bool.or_eq_true, beq_iff_eq] at hspace
    rcases hspace with rfl | rfl <;> cases hword

/-- An identifier ends before a character that is not of a word. -/
theorem identifier?_append {c : Char} (h : isIdentifier name = true) (hc : Text.isWord c = false) :
    identifier? (name ++ c :: rest) = some (name, c :: rest) := by
  have hword := isWord_of_isIdentifier h
  cases name with
  | nil => cases h
  | cons first others =>
    have hfirst : startsIdentifier first = true := (Bool.and_eq_true_iff.mp h).1
    have htake : (first :: others ++ c :: rest).takeWhile Text.isWord = first :: others := by
      rw [List.takeWhile_append_of_pos hword]
      simp [hc]
    have hdrop : (first :: others ++ c :: rest).dropWhile Text.isWord = c :: rest := by
      rw [List.dropWhile_append_of_pos hword, List.dropWhile_cons_of_neg (by simp [hc])]
    rw [List.cons_append] at htake hdrop ⊢
    simp only [identifier?, hfirst, if_true, word?, htake, hdrop]
    rfl

/-- A struct declaration as it stands in a source. -/
def structText (name : Chars) (lines : List Chars) (rest : Chars) : Chars :=
  "type ".toList ++ (name ++ (" struct \x7b\n".toList ++ (bodyText lines ++ '}' :: rest)))

theorem structBlock?_structText (hname : isIdentifier name = true)
    (hlines : ∀ line ∈ lines, IsSingleLine line) (rest : Chars) :
    structBlock? (structText name lines rest) =
      some (⟨String.ofList name, String.ofList (bodyText lines)⟩, rest) := by
  have htype : literal "type" (structText name lines rest) =
      some (' ' :: (name ++ (" struct \x7b\n".toList ++ (bodyText lines ++ '}' :: rest)))) := rfl
  have hspaces : someSpaces (' ' :: (name ++ (" struct \x7b\n".toList ++
      (bodyText lines ++ '}' :: rest)))) =
      some (name ++ (" struct \x7b\n".toList ++ (bodyText lines ++ '}' :: rest))) := by
    have hskip := @skipSpaces_eq_self (name ++ (" struct \x7b\n".toList ++
      (bodyText lines ++ '}' :: rest))) (start_of_isIdentifier hname _)
    have hblank : Text.isSpaceOrTab ' ' = true := rfl
    rw [someSpaces, if_pos hblank, hskip]
  have hidentifier : identifier? (name ++ (" struct \x7b\n".toList ++
      (bodyText lines ++ '}' :: rest))) =
      some (name, " struct \x7b\n".toList ++ (bodyText lines ++ '}' :: rest)) :=
    identifier?_append hname rfl
  have hstruct : someSpaces (" struct \x7b\n".toList ++ (bodyText lines ++ '}' :: rest)) =
      some ("struct \x7b\n".toList ++ (bodyText lines ++ '}' :: rest)) := rfl
  have hbrace : literal "struct" ("struct \x7b\n".toList ++ (bodyText lines ++ '}' :: rest)) =
      some (" \x7b\n".toList ++ (bodyText lines ++ '}' :: rest)) := rfl
  have hopen : literal "\x7b" (skipSpaces (" \x7b\n".toList ++ (bodyText lines ++ '}' :: rest))) =
      some ('\n' :: (bodyText lines ++ '}' :: rest)) := rfl
  have hend : lineEnd ('\n' :: (bodyText lines ++ '}' :: rest)) =
      some (bodyText lines ++ '}' :: rest) := rfl
  simp only [structBlock?, htype, hspaces, hidentifier, hstruct, hbrace, hopen, hend,
    blockBody_bodyText hlines, Option.bind_eq_bind, Option.bind_some]
  rfl

/-- A marker stays on its line and does not begin with a space. -/
structure IsMarker (marker : Chars) : Prop where
  line : '\n' ∉ marker
  start : ∀ c ∈ marker.head?, Text.isSpaceOrTab c = false

/-- A source that declares an entity, part by part. -/
structure Declaration where
  /-- The text before the line of the marker. -/
  preamble : Chars
  /-- The lines between the marker and the struct. -/
  comments : List Chars
  name : Chars
  /-- The lines of the body without their tabs, each with the field that it declares. -/
  lines : List (Chars × Option Property)
  /-- The text after the closing brace. -/
  postamble : Chars

namespace Declaration

/-- The line of the marker and all that follows it. -/
def marked (declaration : Declaration) (marker : Chars) : Chars :=
  '/' :: '/' :: ' ' :: (marker ++ '\n' :: (declaration.comments.flatMap (· ++ ['\n']) ++
    structText declaration.name (declaration.lines.map Prod.fst) declaration.postamble))

/-- The text of the source. -/
def source (declaration : Declaration) (marker : Chars) : Chars :=
  declaration.preamble ++ declaration.marked marker

/-- The fields that the struct declares, in order. -/
def properties (declaration : Declaration) : List Property :=
  declaration.lines.filterMap Prod.snd

/-- The preamble consists of whole lines, comments stand above the struct, and each line of the body
declares what it is said to declare. -/
structure IsWellFormed (declaration : Declaration) : Prop where
  preamble : ∀ c ∈ declaration.preamble.getLast?, c = '\n'
  comments : ∀ line ∈ declaration.comments, IsSingleLine line ∧ isCommentLine line = true
  name : isIdentifier declaration.name = true
  lines : ∀ line ∈ declaration.lines, IsSingleLine line.1 ∧ Declares line.1 line.2

variable {declaration : Declaration} {marker : Chars}

theorem IsWellFormed.markedStruct?_marked (h : declaration.IsWellFormed)
    (hmarker : IsMarker marker) :
    markedStruct? marker (declaration.marked marker) =
      some (⟨String.ofList declaration.name,
        String.ofList (bodyText (declaration.lines.map Prod.fst))⟩, declaration.postamble) := by
  have hskip := @skipCommentLines_eq (structText declaration.name
    (declaration.lines.map Prod.fst) declaration.postamble).tail declaration.comments 't'
    (fun line hline => (h.comments line hline).1) (fun line hline => (h.comments line hline).2)
    (by decide) (by decide) (by decide)
  have hblock := @structBlock?_structText declaration.name (declaration.lines.map Prod.fst) h.name
    (by simpa using fun line field hline => (h.lines (line, field) hline).1) declaration.postamble
  have hstart : ∀ c ∈ (marker ++ '\n' :: (declaration.comments.flatMap (· ++ ['\n']) ++
      structText declaration.name (declaration.lines.map Prod.fst)
        declaration.postamble)).head?, Text.isSpaceOrTab c = false := by
    cases marker with
    | nil => simp; decide
    | cons c others => simpa using hmarker.start
  refine markerComment?_eq hstart ?_
  exact (congrArg structBlock? hskip).trans hblock

/-- The one marking of the source leads to the struct. -/
theorem IsWellFormed.findMarkedStruct_source (h : declaration.IsWellFormed)
    (hmarker : IsMarker marker)
    (hcount : countMarkings marker (declaration.source marker) = 1) :
    findMarkedStruct marker (declaration.source marker) =
      .ok ⟨String.ofList declaration.name,
        String.ofList (bodyText (declaration.lines.map Prod.fst))⟩ :=
  findMarkedStruct_eq hmarker.line h.preamble hcount (h.markedStruct?_marked hmarker)

theorem IsWellFormed.readFields_properties (h : declaration.IsWellFormed) :
    readFields (bodyText (declaration.lines.map Prod.fst)) = .ok declaration.properties :=
  readFields_bodyText (fun line hline => (h.lines line hline).1)
    fun line hline => (h.lines line hline).2

theorem IsWellFormed.property_checked (h : declaration.IsWellFormed) :
    ∀ property ∈ declaration.properties, property.checked.orError = .ok property := by
  intro property hproperty
  obtain ⟨line, hline, hdeclared⟩ := List.mem_filterMap.mp hproperty
  have hdeclares := (h.lines line hline).2
  rw [hdeclared] at hdeclares
  obtain ⟨hname, htype⟩ := nonempty_of_declares hdeclares
  simp only [Property.checked, Checked.nonEmpty, hname, htype]
  rfl

end Declaration

end Source

namespace Entity

open Source

theorem checked_eq {entity : Entity} (hname : entity.name ≠ "") (hpackage : entity.packageName ≠ "")
    (hsuffix : entity.interfaceSuffix ≠ "") : entity.checked.orError = .ok entity := by
  simp only [Entity.checked, Checked.nonEmpty, String.isEmpty_iff, hname, hpackage, hsuffix,
    if_false]
  rfl

/-- The entity of a source takes its name, its fields and its methods from what is found there. -/
theorem exists_ofSource {config : Config} {text : Chars} {block : StructBlock}
    {properties : List Property} {methods : List Signature} {packageName : String}
    (hblock : findMarkedStruct config.entityMarker.toList text = .ok block)
    (hfields : readFields block.body.toList = .ok properties)
    (hproperties : ∀ property ∈ properties, property.checked.orError = .ok property)
    (hmethods : readExtraMethods block.name text = .ok methods) (hname : block.name ≠ "")
    (hpackage : packageName ≠ "") (hsuffix : config.interfaceSuffix ≠ "") (importPath : String)
    (sourcePath : Option String) :
    ∃ entity, Entity.ofSource config (String.ofList text) packageName importPath sourcePath =
        .ok entity ∧
      entity.name = block.name ∧ entity.properties = properties ∧
      entity.extraMethods = methods := by
  have hchecked : (properties.mapM fun property => property.checked.orError) = .ok properties := by
    have hmap := @Outcome.mapM_eq_ok_map _ _ _ properties
      (fun property : Property => property.checked.orError) id hproperties
    rwa [List.map_id] at hmap
  have hentity := @checked_eq
    { name := block.name
      packageName
      importPath
      interfaceSuffix := config.interfaceSuffix
      properties
      isLocalized := Text.endsWith block.name config.localizedSuffix
      sourcePath } hname hpackage hsuffix
  simp only [Entity.ofSource, Entity.read, String.toList_ofList, hblock, hfields, hchecked, hentity,
    hmethods, Error.ofSource, Bind.bind, Except.bind, Pure.pure, Except.pure, Except.mapError]
  exact ⟨_, rfl, rfl, rfl, rfl⟩

/-- A source that declares a marked struct, and has no companion interface for it, gives an entity
with the name and the fields of the struct. -/
theorem ofSource_declaration {config : Config} {declaration : Declaration}
    {packageName importPath : String} {sourcePath : Option String}
    (hdeclaration : declaration.IsWellFormed) (hmarker : IsMarker config.entityMarker.toList)
    (hsuffix : config.interfaceSuffix ≠ "") (hpackage : packageName ≠ "")
    (hcount : countMarkings config.entityMarker.toList
      (declaration.source config.entityMarker.toList) = 1)
    (hextra : findExtraInterface (Text.lower (String.ofList declaration.name)).toList
      (declaration.source config.entityMarker.toList) = none) :
    ∃ entity, Entity.ofSource config
        (String.ofList (declaration.source config.entityMarker.toList)) packageName importPath
        sourcePath = .ok entity ∧
      entity.name = String.ofList declaration.name ∧
      entity.properties = declaration.properties ∧ entity.extraMethods = [] := by
  have hname : String.ofList declaration.name ≠ "" := by
    intro hempty
    have hidentifier := hdeclaration.name
    rw [String.ofList_eq_empty_iff.mp hempty] at hidentifier
    cases hidentifier
  have hmethods : readExtraMethods (String.ofList declaration.name)
      (declaration.source config.entityMarker.toList) = .ok [] := by
    rw [readExtraMethods, hextra]
  exact exists_ofSource (hdeclaration.findMarkedStruct_source hmarker hcount)
    (by simpa using hdeclaration.readFields_properties) hdeclaration.property_checked hmethods hname
    hpackage hsuffix importPath sourcePath

/-- Lines of every kind, one of them an indented brace and one with the marker in its comment. -/
def sampleDeclaration : Declaration :=
  { preamble := "package a\n\n".toList
    comments := ["// A is read.".toList, "\t//".toList]
    name := "A".toList
    lines := [("".toList, none), ("// fields".toList, none),
      ("id string // @synthesize".toList, some ⟨"id", "string", "@synthesize"⟩),
      ("\x7d".toList, none), ("n [2] int/8".toList, some ⟨"n", "[2] int/8", ""⟩)]
    postamble := "\n\ntype B struct \x7b\n\x7d\n".toList }

private theorem isWellFormed_sample : sampleDeclaration.IsWellFormed := by
  have hid : IsField "id".toList "string".toList := by decide +kernel
  have hn : IsField "n".toList "[2] int/8".toList := by decide +kernel
  have hsingle : ∀ line ∈ sampleDeclaration.lines, IsSingleLine line.1 := by decide +kernel
  have hdeclares : ∀ line ∈ sampleDeclaration.lines, Declares line.1 line.2 := by
    refine List.forall_mem_cons.mpr ⟨.blank (by simp), List.forall_mem_cons.mpr ⟨.remark, ?_⟩⟩
    refine List.forall_mem_cons.mpr
      ⟨.commented hid (by decide +kernel) (by decide +kernel), ?_⟩
    refine List.forall_mem_cons.mpr ⟨.token (fun c hc => by rw [List.mem_singleton.mp hc]; rfl), ?_⟩
    exact List.forall_mem_cons.mpr ⟨.field hn, fun _ h => nomatch h⟩
  exact ⟨fun c hc => (Option.some.inj hc).symm, by decide +kernel, by decide +kernel,
    fun line hline => ⟨hsingle line hline, hdeclares line hline⟩⟩

theorem ofSource_declaration_sample :
    ∃ entity, Entity.ofSource {} (String.ofList (sampleDeclaration.source "@synthesize".toList)) "a"
        "stores/a" none = .ok entity ∧
      entity.name = "A" ∧
      entity.properties = [⟨"id", "string", "@synthesize"⟩, ⟨"n", "[2] int/8", ""⟩] ∧
      entity.extraMethods = [] := by
  have hcount : countMarkings "@synthesize".toList
      (sampleDeclaration.source "@synthesize".toList) = 1 := by
    decide +kernel
  have hextra : findExtraInterface (Text.lower (String.ofList sampleDeclaration.name)).toList
      (sampleDeclaration.source "@synthesize".toList) = none := by
    decide +kernel
  exact @ofSource_declaration {} sampleDeclaration "a" "stores/a" none isWellFormed_sample
    ⟨by decide +kernel, fun c hc => by rw [← Option.some.inj hc]; rfl⟩ (by decide +kernel)
    (by decide +kernel) hcount hextra

end Entity

end Scaffold
