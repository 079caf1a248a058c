import Scaffold.Proofs.FieldLines
import Scaffold.Proofs.MethodReading

/-!
# Services among the fields of a struct

A struct body is read twice: its fields line by line, its services by a search along the starts of
lines. Where spaces, tabs and line feeds are the only blanks, a line that is read as a service is
one that declares a field, so the services are the fields whose type is a qualified name.
-/

namespace Scaffold.Source

variable {text line rest name type body : Chars} {field : Option Property}

/-! ## Qualified types -/

/-- The text is a package's name, a dot and a symbol of the package, perhaps after a star. -/
def IsServiceText (text : Chars) : Prop :=
  ∃ star package symbol, star ∈ [[], ['*']] ∧ IsWord package ∧ IsWord symbol ∧
    text = star ++ (package ++ '.' :: symbol)

/-- What is read as the type of a service is such a text, up to the end of its last word. -/
theorem of_serviceType? (h : serviceType? text = some (type, rest)) :
    text = type ++ rest ∧ IsServiceText type := by
  simp only [serviceType?, Option.bind_eq_bind, Option.bind_eq_some_iff] at h
  obtain ⟨⟨package, dotted⟩, hpackage, later, hdot, ⟨symbol, after⟩, hsymbol, hfound⟩ := h
  obtain ⟨rfl, rfl⟩ := Prod.mk.inj (Option.some.inj hfound)
  obtain ⟨hrest, hpackage⟩ := of_word? hpackage
  obtain ⟨hlater, hsymbol⟩ := of_word? hsymbol
  dsimp only at hrest hdot hlater hpackage hsymbol ⊢
  rw [eq_of_literal hdot, hlater] at hrest
  have hstar : ∃ star, (if text.head? == some '*' then ['*'] else []) = star ∧
      star ∈ [[], ['*']] ∧ text = star ++ text.drop star.length := by
    split_ifs with hhead
    · obtain ⟨others, rfl⟩ := List.head?_eq_some_iff.mp (beq_iff_eq.mp hhead)
      exact ⟨['*'], rfl, by simp, rfl⟩
    · exact ⟨[], rfl, by simp, rfl⟩
  obtain ⟨star, heq, hmem, htext⟩ := hstar
  rw [heq] at hrest ⊢
  refine ⟨?_, star, package, symbol, hmem, hpackage, hsymbol, by simp⟩
  rw [hrest] at htext
  simpa using htext

namespace IsServiceText

theorem serviceType?_append (h : IsServiceText type)
    (hrest : rest.head?.any Text.isWord = false) :
    serviceType? (type ++ rest) = some (type, rest) := by
  obtain ⟨star, package, symbol, hstar, hpackage, hsymbol, rfl⟩ := h
  have hdot : literal "." ('.' :: (symbol ++ rest)) = some (symbol ++ rest) := rfl
  have hmark : (if (star ++ (package ++ '.' :: (symbol ++ rest))).head? == some '*' then ['*']
      else []) = star := by
    obtain ⟨c, others, rfl⟩ := List.exists_cons_of_ne_nil hpackage.1
    have hc : c ≠ '*' := by
      rintro rfl
      exact absurd (hpackage.2 _ List.mem_cons_self) (by decide)
    simp only [List.mem_cons, List.not_mem_nil, or_false] at hstar
    rcases hstar with rfl | rfl <;> simp [hc]
  have htext : star ++ (package ++ '.' :: symbol) ++ rest =
      star ++ (package ++ '.' :: (symbol ++ rest)) := by simp
  rw [htext]
  simp only [serviceType?, hmark, Option.bind_eq_bind, List.drop_left,
    hpackage.word?_append (by decide : Text.isWord '.' = false), Option.bind_some, hdot,
    hsymbol.word?_eq hrest]
  simp

theorem ne_nil (h : IsServiceText type) : type ≠ [] := by
  obtain ⟨star, package, symbol, -, -, -, rfl⟩ := h
  simp

/-- Such a text has neither blanks nor slashes. -/
theorem plain (h : IsServiceText type) : ∀ c ∈ type, Text.isBlank c = false ∧ c ≠ '/' := by
  obtain ⟨star, package, symbol, hstar, hpackage, hsymbol, rfl⟩ := h
  have hword : ∀ {word : Chars}, IsWord word → ∀ c ∈ word, Text.isBlank c = false ∧ c ≠ '/' := by
    intro word hword c hc
    refine ⟨Text.isBlank_of_isWord (hword.2 c hc), ?_⟩
    rintro rfl
    exact absurd (hword.2 _ hc) (by decide)
  have hmark : ∀ star ∈ [[], ['*']], ∀ c ∈ star, Text.isBlank c = false ∧ c ≠ '/' := by
    simp only [List.forall_mem_cons]
    exact ⟨by simp, by simp; decide, by simp⟩
  simp only [List.forall_mem_append, List.forall_mem_cons]
  exact ⟨hmark star hstar, hword hpackage, ⟨by decide, by decide⟩, hword hsymbol⟩

instance (text : Chars) : Decidable (IsServiceText text) :=
  decidable_of_iff (serviceType? text = some (text, []))
    ⟨fun h => (of_serviceType? h).2, fun h => by simpa using @serviceType?_append [] text h rfl⟩

end IsServiceText

/-! ## Lines -/

/-- The text up to its first line feed. -/
def firstLine (text : Chars) : Chars :=
  text.takeWhile (· != '\n')

theorem newline_not_mem_firstLine (text : Chars) : '\n' ∉ firstLine text := fun hmem => by
  simpa using List.mem_takeWhile_imp hmem

theorem exists_firstLine (text : Chars) :
    ∃ rest, text = firstLine text ++ rest ∧ atLineEnd rest = true := by
  refine ⟨text.dropWhile (· != '\n'), List.takeWhile_append_dropWhile.symm, ?_⟩
  have hhead := List.head?_dropWhile_not (· != '\n') text
  unfold atLineEnd
  cases hrest : (text.dropWhile (· != '\n')).head? with
  | none => rfl
  | some c => simpa [hrest] using hhead

theorem firstLine_append (h : '\n' ∉ text) (rest : Chars) :
    firstLine (text ++ rest) = text ++ firstLine rest := by
  rw [firstLine, List.takeWhile_append_of_pos]
  · rfl
  · intro c hc
    simp only [bne_iff_ne, ne_eq]
    rintro rfl
    exact h hc

theorem isBlank_of_isLineBreak {c : Char} (h : Text.isLineBreak c = true) :
    Text.isBlank c = true := by
  have hbreaks : ([0xA, 0xB, 0xC, 0xD, 0x1C, 0x1D, 0x1E, 0x85, 0x2028, 0x2029].all
      (Text.inRanges Text.blankRanges)) = true := by decide
  exact List.all_eq_true.mp hbreaks c.toNat (List.contains_iff_mem.mp h)

/-- Where lines end at line feeds only, they are the first lines of the texts that begin a line. -/
theorem lines_eq_map_firstLine (h : ∀ c ∈ text, Text.isLineBreak c = true → c = '\n') :
    Text.lines text = (lineStarts true text).map firstLine := by
  induction text with
  | nil => rfl
  | cons c rest ih =>
    obtain ⟨hc, hrest⟩ := List.forall_mem_cons.mp h
    have hreturn : ∀ later, c = '\r' → rest = '\n' :: later → False := by
      rintro later rfl -
      exact absurd (hc rfl) (by decide)
    rw [Text.lines.eq_3 c rest hreturn, ih hrest, lineStarts, if_pos rfl, List.singleton_append,
      List.map_cons]
    split_ifs with hbreak
    · obtain rfl := hc hbreak
      rfl
    · have hne : c ≠ '\n' := by
        rintro rfl
        exact hbreak rfl
      have hfirst : firstLine (c :: rest) = c :: firstLine rest :=
        List.takeWhile_cons_of_pos (by simpa using hne)
      rw [beq_eq_false_iff_ne.mpr hne, hfirst]
      cases rest with
      | nil => rfl
      | cons d others => rfl

/-! ## Lines that declare -/

/-- The line holds a name and a type with spaces around them, and perhaps a remark. -/
inductive IsSpaced (name type : Chars) : Chars → Prop
  | intro {before gap after remark : Chars} : (∀ c ∈ before, Text.isSpaceOrTab c = true) →
      gap ≠ [] → (∀ c ∈ gap, Text.isSpaceOrTab c = true) →
      (∀ c ∈ after, Text.isSpaceOrTab c = true) → (remark = [] ∨ ['/', '/'] <+: remark) →
      IsSpaced name type (before ++ (name ++ (gap ++ (type ++ (after ++ remark)))))

theorem isBlank_of_isSpaceOrTab {c : Char} (h : Text.isSpaceOrTab c = true) :
    Text.isBlank c = true := by
  simp only [Text.isSpaceOrTab, Bool.or_eq_true, beq_iff_eq] at h
  rcases h with rfl | rfl <;> rfl

theorem newline_not_mem_of_spaces {spaces : Chars}
    (h : ∀ c ∈ spaces, Text.isSpaceOrTab c = true) : '\n' ∉ spaces :=
  fun hmem => ne_newline_of_isSpaceOrTab (h _ hmem) rfl

/-- The parts of a text in which a service is found, and what is left of it. -/
theorem parts_of_serviceLine? {service : Service} {later : Chars}
    (h : serviceLine? text = some (service, later)) :
    ∃ before name gap type after rest,
      text = before ++ (name ++ (gap ++ (type ++ (after ++ rest)))) ∧
      service = ⟨String.ofList name, String.ofList type⟩ ∧ IsWord name ∧ IsServiceText type ∧
      (∀ c ∈ before, Text.isSpaceOrTab c = true) ∧
      (gap ≠ [] ∧ ∀ c ∈ gap, Text.isSpaceOrTab c = true) ∧
      (∀ c ∈ after, Text.isSpaceOrTab c = true) ∧
      later = (if (literal "//" rest).isSome then rest.dropWhile (· != '\n') else rest) ∧
      atLineEnd later = true := by
  simp only [serviceLine?, Option.bind_eq_bind, Option.bind_eq_some_iff] at h
  obtain ⟨⟨name, rest₁⟩, hname, rest₂, hgap, ⟨type, rest₃⟩, htype, hline⟩ := h
  obtain ⟨hend, hservice⟩ := Option.ite_none_right_eq_some.mp hline
  obtain ⟨rfl, rfl⟩ := Prod.mk.inj (Option.some.inj hservice)
  obtain ⟨before, htext, hbefore⟩ := exists_skipSpaces text
  obtain ⟨hrest, hword⟩ := of_word? hname
  obtain ⟨gap, hne, hrest₁, hgap⟩ := exists_someSpaces hgap
  obtain ⟨hrest₂, htype⟩ := of_serviceType? htype
  obtain ⟨after, hrest₃, hafter⟩ := exists_skipSpaces rest₃
  refine ⟨before, name, gap, type, after, skipSpaces rest₃, ?_, rfl, hword, htype, hbefore,
    ⟨hne, hgap⟩, hafter, rfl, hend⟩
  rw [← hrest₃, ← hrest₂, ← hrest₁, ← hrest, ← htext]

/-- A service is found where the line holds its name and its type. -/
theorem exists_of_serviceLine? {service : Service} {later : Chars}
    (h : serviceLine? text = some (service, later)) :
    ∃ name type, service = ⟨String.ofList name, String.ofList type⟩ ∧ IsWord name ∧
      IsServiceText type ∧ IsSpaced name type (firstLine text) := by
  obtain ⟨before, name, gap, type, after, rest, rfl, rfl, hword, htype, hbefore, ⟨hne, hgap⟩,
    hafter, rfl, hend⟩ := parts_of_serviceLine? h
  refine ⟨name, type, rfl, hword, htype, ?_⟩
  have hremark : firstLine rest = [] ∨ ['/', '/'] <+: firstLine rest := by
    cases hslashes : literal "//" rest with
    | some comment =>
      rw [eq_of_literal hslashes, firstLine_append (by decide)]
      exact .inr (List.prefix_append _ _)
    | none =>
      rw [hslashes] at hend
      left
      cases rest with
      | nil => rfl
      | cons c others =>
        obtain rfl : c = '\n' := by simpa [atLineEnd] using hend
        rfl
  rw [firstLine_append (newline_not_mem_of_spaces hbefore),
    firstLine_append fun hmem => absurd (hword.2 _ hmem) (by decide),
    firstLine_append (newline_not_mem_of_spaces hgap),
    firstLine_append fun hmem => absurd (htype.plain _ hmem).1 (by decide),
    firstLine_append (newline_not_mem_of_spaces hafter)]
  exact .intro hbefore hne hgap hafter hremark

theorem isSpaceOrTab_of_not_isBlank {c : Char} (h : Text.isBlank c = false) :
    Text.isSpaceOrTab c = false := by
  rw [Bool.eq_false_iff] at h ⊢
  exact fun hspace => h (isBlank_of_isSpaceOrTab hspace)

/-- No word begins where spaces stand, nor after them where none begins there. -/
theorem head?_spaces_append {spaces : Chars} (h : ∀ c ∈ spaces, Text.isSpaceOrTab c = true)
    (hrest : spaces = [] → rest.head?.any Text.isWord = false) :
    (spaces ++ rest).head?.any Text.isWord = false := by
  cases spaces with
  | nil => exact hrest rfl
  | cons c others =>
    simp only [List.cons_append, List.head?_cons, Option.any_some, Bool.eq_false_iff]
    intro hword
    have hc := h c List.mem_cons_self
    rw [isSpaceOrTab_of_isWord hword] at hc
    cases hc

/-- A remark, or the end of the line, begins with a slash or a line feed. -/
theorem head?_remark_append {remark : Chars} (hremark : remark = [] ∨ ['/', '/'] <+: remark)
    (hend : atLineEnd rest = true) : ∀ c ∈ (remark ++ rest).head?, c = '/' ∨ c = '\n' := by
  intro c hc
  rcases hremark with rfl | ⟨comment, rfl⟩
  · rw [List.nil_append] at hc
    rw [atLineEnd, Option.mem_def.mp hc] at hend
    exact .inr (by simpa using hend)
  · obtain rfl := Option.some.inj hc
    exact .inl rfl

/-- After its remark a line ends. -/
theorem skip_remark {remark : Chars} (hremark : remark = [] ∨ ['/', '/'] <+: remark)
    (hline : '\n' ∉ remark) (hend : atLineEnd rest = true) :
    (if (literal "//" (remark ++ rest)).isSome then (remark ++ rest).dropWhile (· != '\n')
      else remark ++ rest) = rest := by
  have hdrop : rest.dropWhile (· != '\n') = rest := by
    cases rest with
    | nil => rfl
    | cons c others =>
      obtain rfl : c = '\n' := by simpa [atLineEnd] using hend
      rfl
  split_ifs with hslashes
  · rw [List.dropWhile_append_of_pos, hdrop]
    intro c hc
    simp only [bne_iff_ne, ne_eq]
    rintro rfl
    exact hline hc
  · rcases hremark with rfl | ⟨comment, rfl⟩
    · rfl
    · exact absurd rfl hslashes

/-- Where a line holds the name and the type of a service, the service is found. -/
theorem foundAt_serviceLine? (hname : IsWord name) (htype : IsServiceText type)
    (h : IsSpaced name type (firstLine text)) :
    foundAt serviceLine? text = some ⟨String.ofList name, String.ofList type⟩ := by
  obtain ⟨rest, htext, hend⟩ := exists_firstLine text
  have hnot := newline_not_mem_firstLine text
  generalize firstLine text = line at h htext hnot
  cases h with
  | @intro before gap after remark hbefore hne hgap hafter hremark =>
    have hline : text = before ++ (name ++ (gap ++ (type ++ (after ++ (remark ++ rest))))) := by
      simpa using htext
    have hbreak : '\n' ∉ remark := fun hmem => hnot (by simp [hmem])
    have hhead := head?_remark_append hremark hend
    have hspace : ∀ c ∈ (remark ++ rest).head?, Text.isSpaceOrTab c = false := by
      intro c hc
      rcases hhead c hc with rfl | rfl <;> rfl
    have hword : (after ++ (remark ++ rest)).head?.any Text.isWord = false := by
      refine head?_spaces_append hafter fun _ => ?_
      rw [Bool.eq_false_iff, ne_eq, Option.any_eq_true]
      rintro ⟨c, hc, hword⟩
      rcases hhead c hc with rfl | rfl <;> exact absurd hword (by decide)
    have hstart : ∀ c ∈ (type ++ (after ++ (remark ++ rest))).head?,
        Text.isSpaceOrTab c = false := by
      intro c hc
      rw [List.head?_append_of_ne_nil _ htype.ne_nil] at hc
      exact isSpaceOrTab_of_not_isBlank (htype.plain c (List.mem_of_mem_head? hc)).1
    have hgapWord : (gap ++ (type ++ (after ++ (remark ++ rest)))).head?.any Text.isWord =
        false := head?_spaces_append hgap fun hnil => absurd hnil hne
    have hread : serviceLine? text =
        some (⟨String.ofList name, String.ofList type⟩, rest) := by
      have hskip : skipSpaces text =
          name ++ (gap ++ (type ++ (after ++ (remark ++ rest)))) := by
        rw [hline, skipSpaces_append hbefore]
        intro c hc
        rw [List.head?_append_of_ne_nil _ hname.1] at hc
        exact isSpaceOrTab_of_isWord (hname.2 c (List.mem_of_mem_head? hc))
      simp only [serviceLine?, Option.bind_eq_bind, hskip, hname.word?_eq hgapWord,
        Option.bind_some, someSpaces_append hne hgap hstart, htype.serviceType?_append hword,
        skipSpaces_append hafter hspace, skip_remark hremark hbreak hend, hend, if_true]
    rw [foundAt, hread]
    rfl

section Spaced

variable {before gap after remark : Chars}

/-- Where all blanks of a line are spaces and tabs, those around a name and a type are. -/
theorem isSpaced_of_blanks
    (h : ∀ c ∈ before ++ (name ++ (gap ++ (type ++ (after ++ remark)))),
      Text.isBlank c = true → Text.isSpaceOrTab c = true)
    (hbefore : ∀ c ∈ before, Text.isBlank c = true) (hne : gap ≠ [])
    (hgap : ∀ c ∈ gap, Text.isBlank c = true) (hafter : ∀ c ∈ after, Text.isBlank c = true)
    (hremark : remark = [] ∨ ['/', '/'] <+: remark) :
    IsSpaced name type (before ++ (name ++ (gap ++ (type ++ (after ++ remark))))) :=
  .intro (fun c hc => h c (by simp [hc]) (hbefore c hc)) hne
    (fun c hc => h c (by simp [hc]) (hgap c hc)) (fun c hc => h c (by simp [hc]) (hafter c hc))
    hremark

theorem isBlank_of_spaces {spaces : Chars} (h : ∀ c ∈ spaces, Text.isSpaceOrTab c = true) :
    ∀ c ∈ spaces, Text.isBlank c = true :=
  fun c hc => isBlank_of_isSpaceOrTab (h c hc)

/-- Trimming leaves a line from its name on, and up to its type at least. -/
theorem trim_spaced (hname : IsWord name) (htype : IsServiceText type)
    (hbefore : ∀ c ∈ before, Text.isSpaceOrTab c = true) :
    Text.trim (before ++ (name ++ (gap ++ (type ++ (after ++ remark))))) =
      name ++ (gap ++ (type ++ Text.trimEnd (after ++ remark))) := by
  have hhead : ∀ c ∈ (name ++ (gap ++ (type ++ (after ++ remark)))).head?,
      Text.isBlank c = false := by
    intro c hc
    rw [List.head?_append_of_ne_nil _ hname.1] at hc
    exact Text.isBlank_of_isWord (hname.2 c (List.mem_of_mem_head? hc))
  have hlast : ∀ c ∈ (name ++ gap ++ type).getLast?, Text.isBlank c = false := by
    intro c hc
    rw [List.getLast?_append_of_ne_nil _ htype.ne_nil] at hc
    exact (htype.plain c (List.mem_of_mem_getLast? hc)).1
  have hend := Text.trimEnd_append_of_stop (by simp [htype.ne_nil]) hlast (after ++ remark)
  rw [Text.trim, Text.trimStart, List.dropWhile_append_of_pos (isBlank_of_spaces hbefore),
    ← Text.trimStart, Text.trimStart_eq_self hhead]
  simpa using hend

/-- The type of a service, with the spaces after it, stands before the first comment. -/
theorem splitOn_serviceText (htype : IsServiceText type)
    (hafter : ∀ c ∈ after, Text.isSpaceOrTab c = true)
    (hremark : remark = [] ∨ ['/', '/'] <+: remark) :
    ∃ spaces others, (∀ c ∈ spaces, Text.isSpaceOrTab c = true) ∧
      Text.splitOn "//" (type ++ Text.trimEnd (after ++ remark)) = (type ++ spaces) :: others := by
  have hslash : '/' ∉ type ++ after := by
    rw [List.mem_append, not_or]
    exact ⟨fun hmem => (htype.plain _ hmem).2 rfl, fun hmem => absurd (hafter _ hmem) (by decide)⟩
  rcases hremark with rfl | ⟨comment, rfl⟩
  · have hnone : Text.trimEnd (after ++ []) = [] := by
      rw [List.append_nil]
      exact @Text.trimEnd_append_of_blank [] after (isBlank_of_spaces hafter)
    refine ⟨[], [], by simp, ?_⟩
    rw [hnone, List.append_nil]
    refine Text.splitFrom_eq_singleton fun hoccurs => hslash ?_
    exact List.mem_append_left _ (hoccurs.subset (List.mem_cons_self : '/' ∈ ['/', '/']))
  · have hfirst : ¬ ['/', '/'] <:+: (type ++ after) ++ ['/', '/'].dropLast := by
      rintro ⟨earlier, later, heq⟩
      have hcount := congrArg (List.count '/') heq
      have hone : ((type ++ after) ++ ['/', '/'].dropLast).count '/' = 1 := by
        rw [List.count_append, List.count_eq_zero_of_not_mem hslash]
        rfl
      have htwo : (['/', '/'] : Chars).count '/' = 2 := rfl
      rw [hone, List.count_append, List.count_append, htwo] at hcount
      omega
    have hcut := Text.splitFrom_append (by simp) hfirst (Text.trimEnd comment)
    have hend : Text.trimEnd (after ++ (['/', '/'] ++ comment)) =
        after ++ ['/', '/'] ++ Text.trimEnd comment := by
      simpa using @Text.trimEnd_append_cons '/' rfl (after ++ ['/']) comment
    rw [hend, ← List.append_assoc, ← List.append_assoc]
    exact ⟨after, _, hafter, hcut⟩

end Spaced

/-- A line that holds a word and the type of a service declares that field, if any. -/
theorem field_of_isSpaced (hname : IsWord name) (htype : IsServiceText type)
    (h : IsSpaced name type line) (hread : readField line = .ok field) :
    ∃ comment, field = some ⟨String.ofList name, String.ofList type, comment⟩ := by
  cases h with
  | @intro before gap after remark hbefore hne hgap hafter hremark =>
    have hstart : ∀ c ∈ (type ++ Text.trimEnd (after ++ remark)).head?,
        Text.isBlank c = false ∧ c ≠ '/' := by
      intro c hc
      rw [List.head?_append_of_ne_nil _ htype.ne_nil] at hc
      exact htype.plain c (List.mem_of_mem_head? hc)
    have hcomment : ¬ ['/', '/'] <+: type ++ Text.trimEnd (after ++ remark) := by
      rintro ⟨later, hlater⟩
      exact (hstart '/' (by rw [← hlater]; rfl)).2 rfl
    rw [readField_eq hname ⟨hne, isBlank_of_spaces hgap⟩ (trim_spaced hname htype hbefore)
      (fun c hc => (hstart c hc).1) (by simp [htype.ne_nil]) hcomment] at hread
    split_ifs at hread
    obtain ⟨found, comment, rfl, ⟨others, hsplit⟩, -⟩ := of_fieldIn hread
    obtain ⟨spaces, more, hspaces, hcut⟩ := splitOn_serviceText htype hafter hremark
    obtain ⟨rfl, -⟩ := List.cons.inj (hsplit.symm.trans hcut)
    have htypeEnd : Text.trimEnd (type ++ spaces) = type := by
      rw [Text.trimEnd_append_of_blank (isBlank_of_spaces hspaces), Text.trimEnd_eq_self]
      exact fun c hc => (htype.plain c (List.mem_of_mem_getLast? hc)).1
    exact ⟨comment, by rw [htypeEnd]⟩

/-- A line that declares a field holds its name and its type. -/
theorem isSpaced_of_readField {property : Property}
    (hblank : ∀ c ∈ line, Text.isBlank c = true → Text.isSpaceOrTab c = true)
    (h : readField line = .ok (some property)) :
    IsWord property.name.toList ∧ IsSpaced property.name.toList property.type.toList line := by
  obtain ⟨name, gap, rest, htrim, hname, hne, hgap, hfield⟩ := exists_of_readField h
  obtain ⟨chunk, comment, hproperty, -, hrest⟩ := of_fieldIn hfield
  obtain rfl := Option.some.inj hproperty
  obtain ⟨before, after, hline, hbefore, hafter⟩ := Text.exists_trim line
  obtain ⟨spaces, hchunk, hspaces⟩ := Text.exists_trimEnd chunk
  rw [htrim] at hline
  simp only [String.toList_ofList]
  refine ⟨.of_isIdentifier hname, ?_⟩
  generalize Text.trimEnd chunk = type at hchunk
  subst hchunk
  rcases hrest with rfl | ⟨remark, rfl⟩
  · have hparts : line = before ++ (name ++ (gap ++ (type ++ (spaces ++ after ++ [])))) := by
      simpa using hline
    rw [hparts] at hblank ⊢
    exact isSpaced_of_blanks hblank hbefore hne hgap
      (List.forall_mem_append.mpr ⟨hspaces, hafter⟩) (.inl rfl)
  · have hparts : line =
        before ++ (name ++ (gap ++ (type ++ (spaces ++ ('/' :: '/' :: remark ++ after))))) := by
      simpa using hline
    rw [hparts] at hblank ⊢
    exact isSpaced_of_blanks hblank hbefore hne hgap hspaces (.inr ⟨remark ++ after, rfl⟩)

/-! ## Bodies -/

/-- The search for a service stays on its line. -/
theorem staysOnLine_serviceLine? : StaysOnLine serviceLine? := by
  intro text service later h
  obtain ⟨before, name, gap, type, after, rest, rfl, -, hword, htype, hbefore, ⟨-, hgap⟩, hafter,
    hlater, -⟩ := parts_of_serviceLine? h
  obtain ⟨remark, hrest, hremark⟩ : Passes (· ≠ '\n') rest later := by
    rw [hlater]
    split_ifs
    · exact ⟨_, List.takeWhile_append_dropWhile.symm, fun c hc => by
        simpa using List.mem_takeWhile_imp hc⟩
    · exact ⟨[], rfl, by simp⟩
  refine ⟨before ++ (name ++ (gap ++ (type ++ (after ++ remark)))), by simp [hword.1], ?_, ?_⟩
  · rw [hrest]
    simp
  · simp only [List.mem_append, not_or]
    exact ⟨newline_not_mem_of_spaces hbefore, fun hmem => absurd (hword.2 _ hmem) (by decide),
      newline_not_mem_of_spaces hgap, fun hmem => absurd (htype.plain _ hmem).1 (by decide),
      newline_not_mem_of_spaces hafter, fun hmem => hremark _ hmem rfl⟩

/-- On one line the service is the field, where its type is that of a service. -/
theorem foundAt_serviceLine?_of_readField
    (hblank : ∀ c ∈ firstLine text, Text.isBlank c = true → Text.isSpaceOrTab c = true)
    (hread : readField (firstLine text) = .ok field) :
    foundAt serviceLine? text =
      (field.filter fun property => IsServiceText property.type.toList).map
        fun property => ⟨property.name, property.type⟩ := by
  cases hfound : serviceLine? text with
  | some found =>
    obtain ⟨service, later⟩ := found
    obtain ⟨name, type, rfl, hname, htype, hspaced⟩ := exists_of_serviceLine? hfound
    obtain ⟨comment, rfl⟩ := field_of_isSpaced hname htype hspaced hread
    simp [foundAt, hfound, Option.filter, htype]
  | none =>
    cases field with
    | none => simp [foundAt, hfound]
    | some property =>
      by_cases htype : IsServiceText property.type.toList
      · obtain ⟨hname, hspaced⟩ := isSpaced_of_readField hblank hread
        have hsome := foundAt_serviceLine? hname htype hspaced
        simp [foundAt, hfound] at hsome
      · simp [foundAt, hfound, Option.filter, htype]

/-- Line by line, the services are the fields whose type is that of a service. -/
theorem filterMap_serviceLine? {starts : List Chars} {fields : List (Option Property)}
    (hblank : ∀ text ∈ starts, ∀ c ∈ firstLine text,
      Text.isBlank c = true → Text.isSpaceOrTab c = true)
    (h : (starts.map firstLine).mapM readField = .ok fields) :
    starts.filterMap (foundAt serviceLine?) =
      ((fields.filterMap id).filter fun property => IsServiceText property.type.toList).map
        fun property => ⟨property.name, property.type⟩ := by
  induction starts generalizing fields with
  | nil =>
    obtain rfl := Except.ok.inj h
    rfl
  | cons text starts ih =>
    obtain ⟨htext, hstarts⟩ := List.forall_mem_cons.mp hblank
    rw [List.map_cons, List.mapM_cons, Outcome.bind_eq_ok_iff] at h
    obtain ⟨field, hfield, h⟩ := h
    obtain ⟨others, hothers, hpure⟩ := Outcome.bind_eq_ok_iff.mp h
    obtain rfl := Except.ok.inj hpure
    have hhere := foundAt_serviceLine?_of_readField htext hfield
    rw [List.filterMap_cons, hhere, ih hstarts hothers]
    cases field with
    | none => rfl
    | some property =>
      by_cases htype : IsServiceText property.type.toList <;> simp [Option.filter, htype]

/-- The services of a body whose fields can be read are the fields whose type is a qualified
name. -/
theorem services_eq_qualified_fields {fields : List Property}
    (hblank : ∀ c ∈ body, Text.isBlank c = true → c = ' ' ∨ c = '\t' ∨ c = '\n')
    (h : readFields body = .ok fields) :
    readServices body =
      (fields.filter fun property => IsServiceText property.type.toList).map
        fun property => ⟨property.name, property.type⟩ := by
  have hlines : Text.lines body = (lineStarts true body).map firstLine := by
    apply lines_eq_map_firstLine
    intro c hc hbreak
    rcases hblank c hc (isBlank_of_isLineBreak hbreak) with rfl | rfl | rfl
    · cases hbreak
    · cases hbreak
    · rfl
  have hspace : ∀ line ∈ lineStarts true body, ∀ c ∈ firstLine line,
      Text.isBlank c = true → Text.isSpaceOrTab c = true := by
    intro line hline c hc hc'
    have hbody : c ∈ body :=
      (of_mem_lineStarts hline).2.subset ((List.takeWhile_sublist _).subset hc)
    rcases hblank c hbody hc' with rfl | rfl | rfl
    · rfl
    · rfl
    · exact absurd hc (newline_not_mem_firstLine line)
  rw [readFields, hlines] at h
  cases hread : ((lineStarts true body).map firstLine).mapM readField with
  | error fault =>
    rw [hread] at h
    cases h
  | ok read =>
    rw [hread] at h
    obtain rfl := Except.ok.inj h
    rw [readServices, allMatches_onLineStart staysOnLine_serviceLine?]
    exact filterMap_serviceLine? hspace hread

/-- Tabs and spaces, an embedded type, remarks, a comment right after a type, and types that only
begin like that of a service. -/
theorem services_eq_qualified_fields_sample :
    readFields ("\tdb\t *db.Conn // pool\n\n\tsync.Mutex // embedded\n// log zap.Logger\n" ++
      "\tlog zap.Logger//x\n\tids []a.B\n\tn int /b.C\n  at time.Time").toList =
        .ok [⟨"db", "*db.Conn", "pool"⟩, ⟨"log", "zap.Logger", "x"⟩, ⟨"ids", "[]a.B", ""⟩,
          ⟨"n", "int /b.C", ""⟩, ⟨"at", "time.Time", ""⟩] ∧
      readServices ("\tdb\t *db.Conn // pool\n\n\tsync.Mutex // embedded\n// log zap.Logger\n" ++
        "\tlog zap.Logger//x\n\tids []a.B\n\tn int /b.C\n  at time.Time").toList =
          [⟨"db", "*db.Conn"⟩, ⟨"log", "zap.Logger"⟩, ⟨"at", "time.Time"⟩] := by
  have hread : readFields
      ("\tdb\t *db.Conn // pool\n\n\tsync.Mutex // embedded\n// log zap.Logger\n" ++
        "\tlog zap.Logger//x\n\tids []a.B\n\tn int /b.C\n  at time.Time").toList =
          .ok [⟨"db", "*db.Conn", "pool"⟩, ⟨"log", "zap.Logger", "x"⟩, ⟨"ids", "[]a.B", ""⟩,
            ⟨"n", "int /b.C", ""⟩, ⟨"at", "time.Time", ""⟩] := by decide +kernel
  have hblank := services_eq_qualified_fields
    (Text.forall_mem_of_all (by decide +kernel)) hread
  exact ⟨hread, hblank.trans (by decide +kernel)⟩

end Scaffold.Source
