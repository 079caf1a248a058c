import Scaffold.Proofs.Outcome
import Scaffold.Proofs.TextSearch
import Scaffold.Proofs.Trimming
import Scaffold.Source.Struct

/-!
# Lines of struct bodies

A line of a struct body declares a field, with or without comment, or it is blank, a comment or a
single token and declares none. Reading a body of such lines gives the declared fields in order.
-/

namespace Scaffold.Source

variable {text line rest name type comment : Chars} {field : Option Property}

/-- No line ends within the text. -/
def IsSingleLine (text : Chars) : Prop :=
  ∀ c ∈ text, Text.isLineBreak c = false

instance (text : Chars) : Decidable (IsSingleLine text) :=
  decidable_of_iff (text.all fun c => !Text.isLineBreak c) (by simp [IsSingleLine])

/-- The parts of a field: a name and a type that no comment can begin in. -/
structure IsField (name type : Chars) : Prop where
  identifier : isIdentifier name = true
  ne_nil : type ≠ []
  trimmed : Text.IsTrimmed type
  uncommented : ¬ ['/', '/'] <:+: type

instance (name type : Chars) : Decidable (IsField name type) :=
  decidable_of_iff (isIdentifier name = true ∧ type ≠ [] ∧ Text.IsTrimmed type ∧
      ¬ ['/', '/'] <:+: type)
    ⟨fun h => ⟨h.1, h.2.1, h.2.2.1, h.2.2.2⟩,
      fun h => ⟨h.identifier, h.ne_nil, h.trimmed, h.uncommented⟩⟩

/-- What a line of a struct body declares. -/
inductive Declares : Chars → Option Property → Prop
  | field {name type : Chars} : IsField name type →
      Declares (name ++ ' ' :: type) (some ⟨String.ofList name, String.ofList type, ""⟩)
  | commented {name type comment : Chars} : IsField name type → Text.IsTrimmed comment →
      ¬ ['/', '/'] <:+: comment →
      Declares (name ++ ' ' :: type ++ ' ' :: '/' :: '/' :: ' ' :: comment)
        (some ⟨String.ofList name, String.ofList type, String.ofList comment⟩)
  | blank {text : Chars} : (∀ c ∈ text, Text.isBlank c = true) → Declares text none
  | remark {text : Chars} : Declares ('/' :: '/' :: text) none
  | token {text : Chars} : (∀ c ∈ text, Text.isBlank c = false) → Declares text none

theorem literal_eq_none {word : String} (h : ¬ word.toList <+: text) :
    literal word text = none := by
  cases hrest : literal word text with
  | none => rfl
  | some rest => exact absurd ⟨rest, List.append_eq_of_isPrefixOf?_eq_some hrest⟩ h

/-- The field that the text after a name declares: a type, and perhaps one comment. -/
def fieldIn (name rest : Chars) : Except SourceFault (Option Property) :=
  match Text.splitOn "//" rest with
  | [type] =>
    if (Text.trimEnd type).isEmpty then .error (.fieldWithoutType (String.ofList name))
    else .ok (some ⟨String.ofList name, String.ofList (Text.trimEnd type), ""⟩)
  | [type, comment] =>
    if (Text.trimEnd type).isEmpty then .error (.fieldWithoutType (String.ofList name))
    else .ok (some ⟨String.ofList name, String.ofList (Text.trimEnd type),
      String.ofList (Text.trim comment)⟩)
  | chunks => .error (.fieldComments chunks.length (String.ofList name))

/-- The type of a field goes up to its first comment. -/
theorem of_fieldIn (h : fieldIn name rest = .ok field) :
    ∃ type comment, field = some ⟨String.ofList name, String.ofList (Text.trimEnd type), comment⟩ ∧
      (∃ others, Text.splitOn "//" rest = type :: others) ∧
      (rest = type ∨ ∃ remark, rest = type ++ '/' :: '/' :: remark) := by
  have hwhole := @Text.intercalate_splitFrom ['/', '/'] (by simp) 0 rest
  have hpieces : Text.splitFrom ['/', '/'] 0 rest = Text.splitOn "//" rest := rfl
  rw [hpieces, List.drop_zero] at hwhole
  unfold fieldIn at h
  split at h
  · next type hsplit =>
    split_ifs at h
    rw [hsplit, List.intercalate_singleton] at hwhole
    exact ⟨type, "", (Except.ok.inj h).symm, ⟨[], hsplit⟩, .inl hwhole.symm⟩
  · next type comment hsplit =>
    split_ifs at h
    rw [hsplit] at hwhole
    refine ⟨type, _, (Except.ok.inj h).symm, ⟨[comment], hsplit⟩, .inr ⟨comment, ?_⟩⟩
    rw [← hwhole, List.intercalate_cons_cons, List.intercalate_singleton, List.append_assoc]
    rfl
  · cases h

/-- A line that declares a field begins with its name and blanks after it. -/
theorem exists_of_readField {property : Property} (h : readField line = .ok (some property)) :
    ∃ name gap rest, Text.trim line = name ++ (gap ++ rest) ∧ isIdentifier name = true ∧
      gap ≠ [] ∧ (∀ c ∈ gap, Text.isBlank c = true) ∧ fieldIn name rest = .ok (some property) := by
  unfold readField at h
  simp only at h
  split_ifs at h with hskip hname
  · cases h
  have hparts := @List.takeWhile_append_dropWhile _ (fun c => !Text.isBlank c) (Text.trim line)
  have hdrop : (Text.trim line).drop ((Text.trim line).takeWhile fun c => !Text.isBlank c).length =
      (Text.trim line).dropWhile fun c => !Text.isBlank c := by
    nth_rewrite 2 [← hparts]
    rw [List.drop_left]
  have hhead := List.head?_dropWhile_not (fun c => !Text.isBlank c) (Text.trim line)
  rw [hdrop] at h hskip
  generalize (Text.trim line).takeWhile (fun c => !Text.isBlank c) = name at h hname hparts
  generalize (Text.trim line).dropWhile (fun c => !Text.isBlank c) = later at h hskip hparts hhead
  obtain ⟨gap, hlater, hgap⟩ := Text.exists_trimStart later
  refine ⟨name, gap, Text.trimStart later, by rw [← hlater, hparts], by simpa using hname, ?_,
    hgap, h⟩
  rintro rfl
  cases hstart : later.head? with
  | none => simp [List.head?_eq_none_iff.mp hstart, Text.trimStart] at hskip
  | some c =>
    have hself : Text.trimStart later = later := hlater.symm
    have hunblank : Text.isBlank c = false :=
      @Text.start_trimStart later c (by rw [hself]; exact hstart)
    simp [hstart, hunblank] at hhead

/-- A line that begins with a word is read from the text after it. -/
theorem readField_eq {gap : Chars} (hname : name ≠ [] ∧ ∀ c ∈ name, Text.isWord c = true)
    (hgap : gap ≠ [] ∧ ∀ c ∈ gap, Text.isBlank c = true)
    (hline : Text.trim line = name ++ (gap ++ rest))
    (hstart : ∀ c ∈ rest.head?, Text.isBlank c = false) (hne : rest ≠ [])
    (hremark : ¬ ['/', '/'] <+: rest) :
    readField line =
      if isIdentifier name = false then
        .error (.fieldDeclaration (String.ofList (name ++ (gap ++ rest))))
      else fieldIn name rest := by
  have hhead : (name ++ (gap ++ rest)).takeWhile (fun c => !Text.isBlank c) = name := by
    rw [List.takeWhile_append_of_pos fun c hc => by simp [Text.isBlank_of_isWord (hname.2 c hc)]]
    obtain ⟨c, others, rfl⟩ := List.exists_cons_of_ne_nil hgap.1
    simp [hgap.2 c]
  have hrest : Text.trimStart ((name ++ (gap ++ rest)).drop name.length) = rest := by
    rw [List.drop_left, Text.trimStart, List.dropWhile_append_of_pos hgap.2]
    exact Text.trimStart_eq_self hstart
  have hslashes : literal "//" (name ++ (gap ++ rest)) = none := by
    apply literal_eq_none
    obtain ⟨c, others, rfl⟩ := List.exists_cons_of_ne_nil hname.1
    rintro ⟨later, hlater⟩
    obtain ⟨rfl, -⟩ := List.cons.inj hlater
    cases hname.2 _ List.mem_cons_self
  have hslashes' : literal "//" rest = none := literal_eq_none hremark
  have hempty : (name ++ (gap ++ rest)).isEmpty = false := by simp [hne]
  have hempty' : rest.isEmpty = false := by simpa using hne
  simp only [readField, hline, hhead, hrest, hslashes, hslashes', hempty, hempty']
  cases isIdentifier name <;> rfl

theorem IsField.name_ne_nil (h : IsField name type) : name ≠ [] := by
  rintro rfl
  cases h.identifier

/-- The line of a field is read from the text after its name. -/
theorem IsField.readField_eq (h : IsField name type) (hline : Text.trim line = name ++ ' ' :: rest)
    (hstart : ∀ c ∈ rest.head?, Text.isBlank c = false) (hne : rest ≠ [])
    (hremark : ¬ ['/', '/'] <+: rest) :
    readField line = fieldIn name rest := by
  rw [@Source.readField_eq line rest name [' ']
    ⟨h.name_ne_nil, isWord_of_isIdentifier h.identifier⟩ ⟨by simp, by simp; decide⟩ hline hstart hne
    hremark, if_neg (by simp [h.identifier])]

/-- A type and a blank hold no comment, and none begins between them. -/
theorem IsField.no_comment (h : IsField name type) : ¬ ['/', '/'] <:+: type ++ [' ', '/'] := by
  intro hoccurs
  have hblank : ¬ ['/', '/'] <:+: type ++ [' '] := by
    rw [List.infix_concat_iff, not_or]
    refine ⟨fun hsuffix => ?_, h.uncommented⟩
    obtain ⟨before, hbefore⟩ := hsuffix
    have hlast := congrArg List.getLast? hbefore
    simp at hlast
  have hslash : type ++ [' ', '/'] = (type ++ [' ']) ++ ['/'] := by simp
  rw [hslash, List.infix_concat_iff] at hoccurs
  rcases hoccurs with ⟨before, hbefore⟩ | hoccurs
  · have hslashes : before ++ ['/', '/'] = (before ++ ['/']) ++ ['/'] := by simp
    rw [hslashes] at hbefore
    have hlast := congrArg List.getLast? (List.append_inj_left' hbefore rfl)
    simp at hlast
  · exact hblank hoccurs

theorem readField_field (h : IsField name type) (hline : Text.trim line = name ++ ' ' :: type) :
    readField line = .ok (some ⟨String.ofList name, String.ofList type, ""⟩) := by
  have hsplit : Text.splitOn "//" type = [type] := Text.splitFrom_eq_singleton h.uncommented
  have hne : type.isEmpty = false := by simpa using h.ne_nil
  rw [h.readField_eq hline h.trimmed.start h.ne_nil fun hstart =>
    h.uncommented hstart.isInfix, fieldIn, hsplit]
  simp [Text.trimEnd_eq_self h.trimmed.stop, hne]

theorem readField_commented (h : IsField name type) (hcomment : ¬ ['/', '/'] <:+: comment)
    (hline : Text.trim line = name ++ ' ' :: (type ++ ' ' :: '/' :: '/' :: comment)) :
    readField line =
      .ok (some ⟨String.ofList name, String.ofList type, String.ofList (Text.trim comment)⟩) := by
  have hsplit : Text.splitOn "//" (type ++ ' ' :: '/' :: '/' :: comment) =
      [type ++ [' '], comment] := by
    have hcut := @Text.splitFrom_append ['/', '/'] (type ++ [' ']) (by simp)
      (by simpa using h.no_comment) comment
    rw [Text.splitFrom_eq_singleton hcomment] at hcut
    simpa [Text.splitOn] using hcut
  have hremark : ¬ ['/', '/'] <+: type ++ ' ' :: '/' :: '/' :: comment := by
    intro hstart
    refine h.no_comment (List.prefix_of_prefix_length_le hstart
      ⟨'/' :: comment, by simp⟩ (by simp)).isInfix
  have hstart : ∀ c ∈ (type ++ ' ' :: '/' :: '/' :: comment).head?, Text.isBlank c = false := by
    obtain ⟨c, others, rfl⟩ := List.exists_cons_of_ne_nil h.ne_nil
    simpa using h.trimmed.start
  have htype : Text.trimEnd (type ++ [' ']) = type := by
    rw [Text.trimEnd_append_of_blank (by simp; decide), Text.trimEnd_eq_self h.trimmed.stop]
  have hne : type.isEmpty = false := by simpa using h.ne_nil
  rw [h.readField_eq hline hstart (by simp) hremark, fieldIn, hsplit]
  simp [htype, hne]

/-- Reading a line gives what it declares. -/
theorem readField_of_declares (h : Declares line field) : readField ('\t' :: line) = .ok field := by
  have htab : Text.trim ('\t' :: line) = Text.trim line := Text.trim_cons rfl line
  cases h with
  | @field name type h =>
    have htrim := @Text.isTrimmed_append name type [' '] h.name_ne_nil
      (isTrimmed_of_isIdentifier h.identifier).start h.ne_nil h.trimmed.stop
    rw [List.append_assoc, List.singleton_append] at htrim
    exact readField_field h (htab.trans htrim.trim_eq)
  | @commented name type comment h hcomment huncommented =>
    have hstart : ∀ c ∈ (name ++ ' ' :: type ++ ' ' :: '/' :: '/' :: ' ' :: comment).head?,
        Text.isBlank c = false := by
      obtain ⟨c, others, rfl⟩ := List.exists_cons_of_ne_nil h.name_ne_nil
      simpa using (isTrimmed_of_isIdentifier h.identifier).start
    have htrim : Text.trim (name ++ ' ' :: type ++ ' ' :: '/' :: '/' :: ' ' :: comment) =
        name ++ ' ' :: (type ++ ' ' :: '/' :: '/' :: Text.trimEnd (' ' :: comment)) := by
      have hend := @Text.trimEnd_append_cons '/' rfl (name ++ ' ' :: type ++ [' ', '/'])
        (' ' :: comment)
      rw [Text.trim, Text.trimStart_eq_self hstart]
      simpa using hend
    have hnot : ¬ ['/', '/'] <:+: Text.trimEnd (' ' :: comment) := by
      intro hoccurs
      obtain ⟨after, hafter, -⟩ := Text.exists_trimEnd (' ' :: comment)
      have hwhole : ['/', '/'] <:+: ' ' :: comment := by
        rw [hafter]
        exact hoccurs.trans (List.prefix_append _ _).isInfix
      rcases List.infix_cons_iff.mp hwhole with ⟨later, hlater⟩ | hoccurs
      · cases hlater
      · exact huncommented hoccurs
    have hread := readField_commented h hnot (htab.trans htrim)
    rwa [Text.trim_trimEnd, Text.trim_cons rfl, hcomment.trim_eq] at hread
  | blank hblank =>
    have htrim : Text.trim line = [] := Text.trim_of_blank hblank
    simp [readField, htab, htrim]
  | @remark text =>
    have htrim : Text.trim ('/' :: '/' :: text) = '/' :: '/' :: Text.trimEnd text := by
      rw [Text.trim, Text.trimStart_eq_self (by simp; decide)]
      exact @Text.trimEnd_append_cons '/' rfl ['/'] text
    have hslashes : literal "//" ('/' :: '/' :: Text.trimEnd text) = some (Text.trimEnd text) := rfl
    simp [readField, htab, htrim, hslashes]
  | token htoken =>
    have htrim : Text.trim line = line := Text.IsTrimmed.trim_eq
      ⟨fun c hc => htoken c (List.mem_of_mem_head? hc),
        fun c hc => htoken c (List.mem_of_mem_getLast? hc)⟩
    have hword : line.takeWhile (fun c => !Text.isBlank c) = line := by
      rw [List.takeWhile_eq_self_iff]
      simpa using htoken
    simp [readField, htab, htrim, hword, Text.trimStart]

theorem nonempty_of_declares {property : Property} (h : Declares line (some property)) :
    property.name.isEmpty = false ∧ property.type.isEmpty = false := by
  cases h with
  | field h => simpa using ⟨h.name_ne_nil, h.ne_nil⟩
  | commented h => simpa using ⟨h.name_ne_nil, h.ne_nil⟩

/-! ## Bodies -/

/-- A line of a text ends at the next line feed. -/
theorem lines_append (h : IsSingleLine line) (rest : Chars) :
    Text.lines (line ++ '\n' :: rest) = line :: Text.lines rest := by
  induction line with
  | nil => rfl
  | cons c line ih =>
    obtain ⟨hc, hline⟩ := List.forall_mem_cons.mp h
    have hreturn : c ≠ '\r' := by
      rintro rfl
      cases hc
    rw [List.cons_append, Text.lines]
    · simp [hc, ih hline, Text.consHead]
    · exact fun _ hc' => absurd hc' hreturn

/-- The text of a body, each of its lines after a tab. -/
def bodyText (lines : List Chars) : Chars :=
  lines.flatMap fun line => '\t' :: line ++ ['\n']

theorem lines_bodyText {lines : List Chars} (h : ∀ line ∈ lines, IsSingleLine line) :
    Text.lines (bodyText lines) = lines.map ('\t' :: ·) := by
  induction lines with
  | nil => rfl
  | cons line others ih =>
    obtain ⟨hline, hothers⟩ := List.forall_mem_cons.mp h
    have htab : IsSingleLine ('\t' :: line) := List.forall_mem_cons.mpr ⟨rfl, hline⟩
    rw [bodyText, List.flatMap_cons, List.append_assoc, List.singleton_append, lines_append htab,
      List.map_cons, ← bodyText, ih hothers]

/-- Reading a body gives the declared fields in order. -/
theorem readFields_bodyText {lines : List (Chars × Option Property)}
    (hsingle : ∀ line ∈ lines, IsSingleLine line.1) (h : ∀ line ∈ lines, Declares line.1 line.2) :
    readFields (bodyText (lines.map Prod.fst)) = .ok (lines.filterMap Prod.snd) := by
  have hlines := @lines_bodyText (lines.map Prod.fst) (by simpa using hsingle)
  have hread := @Outcome.mapM_map_eq_ok _ _ _ _ (fun line : Chars × Option Property =>
    '\t' :: line.1) readField Prod.snd lines fun line hline => readField_of_declares (h line hline)
  rw [List.map_map] at hlines
  rw [readFields, hlines]
  change Except.map _ (List.mapM readField (lines.map fun line => '\t' :: line.1)) = _
  rw [hread]
  simp [Except.map, List.filterMap_map]

end Scaffold.Source
