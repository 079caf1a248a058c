import Scaffold.Proofs.Entries

/-!
# Shared types

In a list of names and types, a type can be left out where the next parameter has the same one. The
list that is written so is read as the list with all types written out, however many types are left
out and wherever they are.
-/

namespace Scaffold.Source

variable {param : Param} {params entries : List Param}

instance (tokens : List Chars) : Decidable (IsNamedType tokens) :=
  inferInstanceAs (Decidable (_ ∨ _))

/-- The parameter has a name and a type that can stand after it in a list. -/
structure IsNamedParam (param : Param) : Prop where
  name : isIdentifier param.name.toList = true
  keyword : param.name ∉ typeKeywords
  item : IsItem ',' param.type.toList
  spaced : joinTokens (splitTokens param.type.toList) = param.type
  type : IsNamedType (splitTokens param.type.toList)

instance : Decidable (IsNamedParam param) :=
  decidable_of_iff (isIdentifier param.name.toList = true ∧ param.name ∉ typeKeywords ∧
      IsItem ',' param.type.toList ∧ joinTokens (splitTokens param.type.toList) = param.type ∧
      IsNamedType (splitTokens param.type.toList))
    ⟨fun ⟨name, keyword, item, spaced, type⟩ => ⟨name, keyword, item, spaced, type⟩,
      fun h => ⟨h.name, h.keyword, h.item, h.spaced, h.type⟩⟩

/-- The entries are those of the parameters, where some types that the next parameter has too are
left out. -/
inductive Shortens : List Param → List Param → Prop
  | nil : Shortens [] []
  | typed {param : Param} {params entries : List Param} : Shortens params entries →
      Shortens (param :: params) (param :: entries)
  | shared {param next : Param} {params entries : List Param} : param.type = next.type →
      Shortens (next :: params) entries →
      Shortens (param :: next :: params) (⟨"", param.name⟩ :: entries)

namespace IsNamedParam

theorem name_isEmpty (h : IsNamedParam param) : param.name.isEmpty = false := by
  simpa using name_isEmpty_of_isIdentifier h.name

/-- The parameter is read from its text, which is one item of a list. -/
theorem readEntry_render (h : IsNamedParam param) :
    readEntry param.render.toList = .ok param ∧ IsItem ',' param.render.toList := by
  have hread := (readEntry_named h.name (by simpa using h.keyword) (isTokens_splitTokens _)
    h.type).2
  simp only [String.ofList_toList, h.spaced] at hread
  refine ⟨hread, ?_⟩
  have hrender : param.render.toList = param.name.toList ++ ([' '] ++ param.type.toList) := by
    simp [Param.render, h.name_isEmpty]
  have hspace : IsItem ',' [' '] := by decide
  rw [hrender]
  exact ((nested_name h.name).isItem ⟨rfl, rfl⟩).append (hspace.append h.item)

/-- The name alone is read as a bare type. -/
theorem readEntry_name (h : IsNamedParam param) :
    readEntry param.name.toList = .ok ⟨"", param.name⟩ ∧ IsItem ',' param.name.toList := by
  have htokens := (isTokens_name h.name).splitTokens_join
  rw [List.intercalate_singleton] at htokens
  refine ⟨?_, (nested_name h.name).isItem ⟨rfl, rfl⟩⟩
  rw [readEntry_ok_iff, htokens]
  simpa [joinTokens] using @IsEntry.bare param.name.toList [] (.inr rfl)

end IsNamedParam

namespace Shortens

/-- Every entry is read from its text. -/
theorem readEntry_render (h : Shortens params entries)
    (hparams : ∀ param ∈ params, IsNamedParam param) :
    ∀ entry ∈ entries, readEntry entry.render.toList = .ok entry ∧
      IsItem ',' entry.render.toList := by
  induction h with
  | nil => simp
  | typed _ ih =>
    obtain ⟨hparam, hrest⟩ := List.forall_mem_cons.mp hparams
    exact List.forall_mem_cons.mpr ⟨hparam.readEntry_render, ih hrest⟩
  | shared _ _ ih =>
    obtain ⟨hparam, hrest⟩ := List.forall_mem_cons.mp hparams
    exact List.forall_mem_cons.mpr ⟨hparam.readEntry_name, ih hrest⟩

/-- The last parameter keeps its type, so that some entry has a name. -/
theorem exists_named (h : Shortens params entries) (hne : params ≠ [])
    (hparams : ∀ param ∈ params, IsNamedParam param) :
    ∃ entry ∈ entries, entry.name.isEmpty = false := by
  induction h with
  | nil => exact absurd rfl hne
  | typed => exact ⟨_, List.mem_cons_self, (hparams _ List.mem_cons_self).name_isEmpty⟩
  | shared _ _ ih =>
    obtain ⟨entry, hentry, hname⟩ := ih (by simp) (List.forall_mem_cons.mp hparams).2
    exact ⟨entry, List.mem_cons_of_mem _ hentry, hname⟩

/-- Sharing types gives back the parameters, after those whose names wait for the type of the
first. -/
theorem shareTypes_eq (h : Shortens params entries)
    (hparams : ∀ param ∈ params, IsNamedParam param) (text : String) (waiting : List Param)
    (hwaiting : ∀ earlier ∈ waiting, ∃ param ∈ params.head?, earlier.type = param.type) :
    shareTypes text (waiting.map Param.name) entries = .ok (waiting ++ params) := by
  induction h generalizing waiting with
  | nil =>
    obtain rfl : waiting = [] := List.eq_nil_iff_forall_not_mem.mpr fun earlier hearlier => by
      simpa using hwaiting earlier hearlier
    rfl
  | @typed param params entries _ ih =>
    obtain ⟨hparam, hrest⟩ := List.forall_mem_cons.mp hparams
    have hothers : shareTypes text [] entries = .ok params := ih hrest [] (by simp)
    have hshared : (waiting.map Param.name).map (fun name => ⟨name, param.type⟩) = waiting := by
      rw [List.map_map]
      refine (List.map_congr_left fun earlier hearlier => ?_).trans (List.map_id _)
      obtain ⟨_, hhead, htype⟩ := hwaiting earlier hearlier
      obtain rfl := Option.some.inj hhead
      rw [Function.comp_apply, ← htype, id]
    simp [shareTypes, hparam.name_isEmpty, hothers, hshared, Except.map]
  | @shared param next params entries htype _ ih =>
    obtain ⟨hparam, hrest⟩ := List.forall_mem_cons.mp hparams
    have hnext : ∀ earlier ∈ waiting ++ [param],
        ∃ first ∈ (next :: params).head?, earlier.type = first.type := by
      refine List.forall_mem_append.mpr ⟨fun earlier hearlier => ?_, by simpa using htype⟩
      obtain ⟨_, hhead, heq⟩ := hwaiting earlier hearlier
      obtain rfl := Option.some.inj hhead
      exact ⟨next, rfl, heq.trans htype⟩
    have hlater := ih hrest _ hnext
    rw [List.map_append, List.map_singleton, List.append_assoc, List.singleton_append] at hlater
    simpa [shareTypes, hparam.name] using hlater

end Shortens

/-- A list in which types are left out before parameters of the same type is read as the list with
all types, whatever blanks follow its commas. -/
theorem readParams_shortened {gap : Chars} (hgap : ∀ c ∈ gap, Text.isBlank c = true)
    (hparams : ∀ param ∈ params, IsNamedParam param) (h : Shortens params entries) :
    readParams ((',' :: gap).intercalate (entries.map fun entry => entry.render.toList)) =
      .ok params := by
  rw [readParams_join hgap (h.readEntry_render hparams)]
  split_ifs with hany
  · exact h.shareTypes_eq hparams _ [] (by simp)
  · cases params with
    | nil =>
      cases h
      rfl
    | cons param params =>
      obtain ⟨entry, hentry, hname⟩ := h.exists_named (by simp) hparams
      exact absurd (List.any_eq_true.mpr ⟨entry, hentry, by simp [hname]⟩) hany

/-- Names share a function type, a channel type and a type whose brackets differ in kind. -/
theorem readParams_shortened_sample :
    let params : List Param := [⟨"f", "func(x, y int) error"⟩, ⟨"g", "func(x, y int) error"⟩,
      ⟨"in", "<-chan int"⟩, ⟨"a", "map[string)(A, B]"⟩, ⟨"b", "map[string)(A, B]"⟩,
      ⟨"c", "map[string)(A, B]"⟩, ⟨"d", "map[string)(A, B]"⟩]
    let entries : List Param := [⟨"", "f"⟩, ⟨"g", "func(x, y int) error"⟩, ⟨"in", "<-chan int"⟩,
      ⟨"", "a"⟩, ⟨"", "b"⟩, ⟨"c", "map[string)(A, B]"⟩, ⟨"d", "map[string)(A, B]"⟩]
    (∀ param ∈ params, IsNamedParam param) ∧ Shortens params entries ∧
      readParams ([',', ' '].intercalate (entries.map fun entry => entry.render.toList)) =
        .ok params := by
  intro params entries
  have hparams : ∀ param ∈ params, IsNamedParam param := by
    simp only [params]
    decide
  have hshortens : Shortens params entries :=
    .shared rfl <| .typed <| .typed <| .shared rfl <| .shared rfl <| .typed <| .typed .nil
  exact ⟨hparams, hshortens, readParams_shortened (by simp; decide) hparams hshortens⟩

end Scaffold.Source
