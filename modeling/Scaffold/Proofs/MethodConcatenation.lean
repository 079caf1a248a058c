import Scaffold.Proofs.FieldLines
import Scaffold.Proofs.MethodReading

/-!
# Methods of sources in sequence

The start of a method is looked for on one line, its brackets and its body from there onwards. So
what a source of whole lines declares is found whatever follows it, and what follows is read as if
it stood alone: the methods of the two sources, or the fault of the second.
-/

namespace Scaffold.Source

variable {text longer more word rest : Chars} {start : MethodStart}

/-! ## Readers that stay on a line -/

/-- The longer text goes on with `more` where the other one, which has a line feed, ends. -/
structure Continues (more text longer : Chars) : Prop where
  newline : '\n' ∈ text
  eq_append : longer = text ++ more

/-- What is read, and that the texts after it go on alike. -/
def ContinuesAfter (more : Chars) (found longer : Chars × Chars) : Prop :=
  longer.1 = found.1 ∧ Continues more found.2 longer.2

theorem rel_bind {α β γ δ : Type} {before : α → β → Prop} {after : γ → δ → Prop} {first : Option α}
    {second : Option β} {next : α → Option γ} {other : β → Option δ}
    (h : Option.Rel before first second)
    (hnext : ∀ a b, before a b → Option.Rel after (next a) (other b)) :
    Option.Rel after (first.bind next) (second.bind other) := by
  cases h with
  | none => exact .none
  | some hab => exact hnext _ _ hab

theorem rel_getD {α β : Type} {related : α → β → Prop} {first : Option α} {second : Option β}
    {a : α} {b : β} (h : Option.Rel related first second) (hab : related a b) :
    related (first.getD a) (second.getD b) := by
  cases h with
  | none => exact hab
  | some hfound => exact hfound

theorem rel_map {α β γ : Type} {view : α → γ} {other : β → γ} {first : Option α}
    {second : Option β} (h : Option.Rel (fun a b => other b = view a) first second) :
    second.map other = first.map view := by
  cases h with
  | none => rfl
  | some hfound => exact congrArg some hfound

/-- The characters of a kind that has no line feed end on the line. -/
theorem span_append {kind : Char → Bool} (hkind : kind '\n' = false) (h : '\n' ∈ text)
    (more : Chars) :
    (text ++ more).takeWhile kind = text.takeWhile kind ∧
      (text ++ more).dropWhile kind = text.dropWhile kind ++ more ∧
      '\n' ∈ text.dropWhile kind := by
  induction text with
  | nil => cases h
  | cons c rest ih =>
    by_cases hc : kind c = true
    · have hne : '\n' ≠ c := by
        rintro rfl
        rw [hkind] at hc
        cases hc
      simpa [hc] using ih ((List.mem_cons.mp h).resolve_left hne)
    · simpa [hc] using h

namespace Continues

theorem skipSpaces (h : Continues more text longer) :
    Continues more (skipSpaces text) (skipSpaces longer) := by
  obtain ⟨hnewline, rfl⟩ := h
  obtain ⟨-, hdrop, hmem⟩ := span_append (by decide : Text.isSpaceOrTab '\n' = false) hnewline more
  exact ⟨hmem, hdrop⟩

theorem someSpaces (h : Continues more text longer) :
    Option.Rel (Continues more) (someSpaces text) (someSpaces longer) := by
  obtain ⟨hnewline, rfl⟩ := h
  cases text with
  | nil => cases hnewline
  | cons c rest =>
    by_cases hc : Text.isSpaceOrTab c = true
    · have hrest : '\n' ∈ rest :=
        (List.mem_cons.mp hnewline).resolve_left (ne_newline_of_isSpaceOrTab hc).symm
      simp only [Source.someSpaces, List.cons_append, hc, if_true]
      exact .some (Continues.skipSpaces ⟨hrest, rfl⟩)
    · simp only [Source.someSpaces, List.cons_append, hc]
      exact .none

theorem word? (h : Continues more text longer) :
    Option.Rel (ContinuesAfter more) (word? text) (word? longer) := by
  obtain ⟨hnewline, rfl⟩ := h
  obtain ⟨htake, hdrop, hmem⟩ := span_append (by decide : Text.isWord '\n' = false) hnewline more
  simp only [Source.word?, htake, hdrop]
  split_ifs
  · exact .none
  · exact .some ⟨rfl, hmem, rfl⟩

/-- A word without a line feed is found in both texts or in none. -/
theorem literal {word : String} (hword : '\n' ∉ word.toList) (h : Continues more text longer) :
    Option.Rel (Continues more) (literal word text) (literal word longer) := by
  obtain ⟨hnewline, rfl⟩ := h
  cases hrest : Source.literal word text with
  | some rest =>
    obtain rfl := eq_of_literal hrest
    rw [List.append_assoc, literal_append]
    exact .some ⟨(List.mem_append.mp hnewline).resolve_left hword, rfl⟩
  | none =>
    have hnone : Source.literal word (text ++ more) = none := by
      refine literal_eq_none fun hprefix => ?_
      rcases List.prefix_or_prefix_of_prefix hprefix (List.prefix_append text more) with
        ⟨rest, rfl⟩ | hover
      · rw [literal_append] at hrest
        cases hrest
      · exact hword (hover.subset hnewline)
    rw [hnone]
    exact .none

end Continues

/-- The same start, with more text after the source. -/
def MethodStart.continued (start : MethodStart) (more : Chars) : MethodStart :=
  { start with whole := start.whole ++ more, list := start.list ++ more }

/-- Where a method starts does not depend on the lines below. -/
theorem methodStart?_append (h : '\n' ∈ text) (more : Chars) :
    foundAt methodStart? (text ++ more) =
      (foundAt methodStart? text).map (·.continued more) := by
  have hrel : Option.Rel (fun found longer : MethodStart × Chars =>
      longer.1 = found.1.continued more) (methodStart? text) (methodStart? (text ++ more)) := by
    have htext : Continues more text (text ++ more) := ⟨h, rfl⟩
    simp only [methodStart?, Option.bind_eq_bind]
    refine rel_bind (htext.literal (by decide)) fun rest₁ longer₁ h₁ => ?_
    refine rel_bind (h₁.skipSpaces.literal (by decide)) fun rest₂ longer₂ h₂ => ?_
    refine rel_bind h₂.skipSpaces.word? fun receiver longerReceiver h₃ => ?_
    refine rel_bind h₃.2.someSpaces fun rest₄ longer₄ h₄ => ?_
    have hstar := rel_getD (h₄.literal (by decide : '\n' ∉ "*".toList)) h₄
    refine rel_bind hstar.skipSpaces.word? fun type longerType h₅ => ?_
    refine rel_bind (h₅.2.skipSpaces.literal (by decide)) fun rest₆ longer₆ h₆ => ?_
    refine rel_bind h₆.skipSpaces.word? fun name longerName h₇ => ?_
    obtain ⟨hlist, hlonger⟩ := h₇.2.skipSpaces
    have hhead : (skipSpaces longerName.2).head? = (skipSpaces name.2).head? := by
      obtain ⟨c, others, hcons⟩ := List.exists_cons_of_ne_nil (List.ne_nil_of_mem hlist)
      rw [hlonger, hcons]
      rfl
    rw [hhead, hlonger]
    split_ifs
    · refine .some ?_
      rw [h₃.1, h₅.1, h₇.1]
      rfl
    · exact .none
  rw [foundAt, foundAt, Option.map_map]
  exact rel_map hrel

/-! ## Bodies and methods -/

section Search

variable {whole other seen clause : Chars} {skip : Nat}

/-- A body that is found is found in every longer text. -/
theorem clauseFrom_append_right (h : clauseFrom whole skip seen text = .ok clause) (more : Chars) :
    clauseFrom other skip seen (text ++ more) = .ok clause := by
  induction text generalizing skip seen with
  | nil => cases h
  | cons c rest ih =>
    cases skip with
    | succ skip => exact ih h
    | zero =>
      rw [clauseFrom] at h
      rw [List.cons_append, clauseFrom]
      split_ifs at h ⊢
      · exact h
      · obtain ⟨⟨inside, after⟩, hclose, h⟩ := Outcome.bind_eq_ok_iff.mp h
        exact Outcome.bind_eq_ok_iff.mpr ⟨_, splitAtClose_append_right hclose more, ih h⟩
      · exact ih h

/-- The clause that is found stands in front of a body. -/
theorem exists_body_of_clauseFrom (h : clauseFrom whole skip seen text = .ok clause) :
    ∃ body, seen.reverse ++ text = clause ++ '{' :: body := by
  induction text generalizing skip seen with
  | nil => cases h
  | cons c rest ih =>
    have hnext : ∀ {skip}, clauseFrom whole skip (c :: seen) rest = .ok clause →
        ∃ body, seen.reverse ++ c :: rest = clause ++ '{' :: body := by
      intro skip hlater
      obtain ⟨body, hbody⟩ := ih hlater
      exact ⟨body, by rw [← hbody, List.reverse_cons, List.append_assoc, List.singleton_append]⟩
    cases skip with
    | succ skip => exact hnext h
    | zero =>
      rw [clauseFrom] at h
      split_ifs at h with hstop
      · obtain rfl := Except.ok.inj h
        obtain ⟨hbrace, -⟩ := Bool.and_eq_true_iff.mp hstop
        obtain rfl := beq_iff_eq.mp hbrace
        exact ⟨rest, rfl⟩
      · obtain ⟨_, -, h⟩ := Outcome.bind_eq_ok_iff.mp h
        exact hnext h
      · exact hnext h

end Search

/-- A method that is read is read the same with more text after its source. -/
theorem readMethod_continued {method : Method} (h : readMethod start = .ok method) (more : Chars) :
    readMethod (start.continued more) = .ok method := by
  simp only [readMethod, Outcome.bind_eq_ok_iff] at h ⊢
  obtain ⟨⟨inside, after⟩, hclose, clause, hclause, hmethod⟩ := h
  refine ⟨_, splitAtClose_append_right hclose more, clause, clauseFrom_append_right hclause more,
    ?_⟩
  rw [← hmethod]
  obtain ⟨body, hbody⟩ := exists_body_of_clauseFrom hclause
  have hlength : clause.length ≤ after.length := by
    have htext : after = clause ++ '{' :: body := hbody
    rw [htext, List.length_append]
    exact Nat.le_add_right _ _
  have htake : (start.whole ++ more).take
      ((start.whole ++ more).length - ((after ++ more).drop clause.length).length) =
        start.whole.take (start.whole.length - (after.drop clause.length).length) := by
    rw [List.drop_append_of_le_length hlength, List.length_append, List.length_append,
      Nat.add_sub_add_right, List.take_append_of_le_length (Nat.sub_le _ _)]
  simp only [MethodStart.continued, htake]

/-- A source of whole lines adds its methods in front of those of the source that follows, and
leaves its faults as they are. -/
theorem findMethods_lines_append {before : Chars} {methods : List Method}
    (hlines : ∀ c ∈ before.getLast?, c = '\n') (h : findMethods before = .ok methods)
    (after : Chars) :
    findMethods (before ++ after) = (findMethods after).map (methods ++ ·) := by
  have hstarts : ((lineStarts true before).map (· ++ after)).filterMap (foundAt methodStart?) =
      ((lineStarts true before).filterMap (foundAt methodStart?)).map (·.continued after) := by
    rw [List.filterMap_map, List.map_filterMap]
    refine List.filterMap_congr fun line hline => ?_
    exact methodStart?_append (newline_mem_of_mem_lineStarts hlines hline) after
  rw [findMethods_eq] at h
  have hbefore := Outcome.mapM_map_of_mapM
    (fun start method hread => @readMethod_continued start method hread after) h
  rw [findMethods_eq, lineStarts_append_of_lines hlines, List.filterMap_append, hstarts,
    List.mapM_append, hbefore, findMethods_eq after]
  cases ((lineStarts true after).filterMap (foundAt methodStart?)).mapM readMethod <;> rfl

/-- Parameters over two lines and a keyword before a brace, in front of a list that stays open. -/
theorem findMethods_lines_append_sample :
    findMethods "func (s *S) Get(a int,\n\tb int) interface\x7b\x7d \x7b\n\x7d\n".toList =
        .ok [⟨"s", "S", "Get", "a int, b int", "interface\x7b\x7d",
          "func (s *S) Get(a int,\n\tb int) interface\x7b\x7d"⟩] ∧
      findMethods ("func (s *S) Get(a int,\n\tb int) interface\x7b\x7d \x7b\n\x7d\n".toList ++
        "func (s *S) Put(a int) \x7b\n\x7d\nfunc (s *S) Lost(\n".toList) =
          .error (.unclosedBracket '(' "(") := by
  have hfirst : findMethods
      "func (s *S) Get(a int,\n\tb int) interface\x7b\x7d \x7b\n\x7d\n".toList =
        .ok [⟨"s", "S", "Get", "a int, b int", "interface\x7b\x7d",
          "func (s *S) Get(a int,\n\tb int) interface\x7b\x7d"⟩] := rfl
  have hlines : ∀ c ∈ ("func (s *S) Get(a int,\n\tb int) interface\x7b\x7d \x7b\n\x7d\n".toList :
      Chars).getLast?, c = '\n' := fun _ hc => (Option.some.inj hc).symm
  exact ⟨hfirst, (findMethods_lines_append hlines hfirst _).trans rfl⟩

end Scaffold.Source
