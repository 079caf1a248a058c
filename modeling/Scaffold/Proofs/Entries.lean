import Scaffold.Proofs.Balance
import Scaffold.Proofs.Outcome
import Scaffold.Source.Params

/-!
# Entries of parameter lists

An entry is a bare type or a name and a type, as its tokens tell. What is read from an entry is
written as the same tokens, so it is read again from what is written, and a name that shares the
type of a later entry can be written with that type.
-/

namespace Scaffold.Source

variable {outside : Char → Prop} {item name : Chars} {tokens : List Chars}
variable {param : Param} {params : List Param} {text : Chars}

/-- The tokens are a type that may follow a name. -/
def IsNamedType (tokens : List Chars) : Prop :=
  tokens.length = 1 ∨ tokens.head?.any startsLongType = true

/-- The tokens are those of an entry: a bare type, or a name and a type. -/
inductive IsEntry : List Chars → Param → Prop
  | bare {first : Chars} {others : List Chars} : (startsLongType first = true ∨ others = []) →
      IsEntry (first :: others) ⟨"", joinTokens (first :: others)⟩
  | named {first : Chars} {others : List Chars} : startsLongType first = false →
      isIdentifier first = true → IsNamedType others →
      IsEntry (first :: others) ⟨String.ofList first, joinTokens others⟩

theorem IsNamedType.ne_nil (h : IsNamedType tokens) : tokens ≠ [] := by
  rintro rfl
  simp [IsNamedType] at h

/-- What reading an entry gives depends on its tokens alone. -/
theorem readEntry_ok_iff : readEntry item = .ok param ↔ IsEntry (splitTokens item) param := by
  cases htokens : splitTokens item with
  | nil =>
    simp only [readEntry, htokens, reduceCtorEq, false_iff]
    exact fun h => nomatch h
  | cons first others =>
    simp only [readEntry, htokens, Bool.or_eq_true, List.isEmpty_iff, Bool.and_eq_true,
      decide_eq_true_eq]
    split_ifs with hbare hnamed
    · constructor
      · intro h
        obtain rfl := Except.ok.inj h
        exact .bare hbare
      · intro h
        cases h with
        | bare => rfl
        | named hfirst _ htype => simp [hfirst, htype.ne_nil] at hbare
    · have hfirst : startsLongType first = false := Bool.eq_false_iff.mpr fun h => hbare (.inl h)
      constructor
      · intro h
        obtain rfl := Except.ok.inj h
        exact .named hfirst hnamed.1 hnamed.2
      · intro h
        cases h with
        | bare h => exact absurd h hbare
        | named => rfl
    · constructor
      · exact fun h => nomatch h
      · intro h
        cases h with
        | bare h => exact absurd h hbare
        | named _ hname htype => exact absurd ⟨hname, htype⟩ hnamed

theorem name_isEmpty_of_isIdentifier (h : isIdentifier name = true) :
    (String.ofList name).isEmpty = false := by
  cases name with
  | nil => cases h
  | cons c rest => simp

/-- An entry is written as its tokens. -/
theorem IsEntry.render (h : IsEntry tokens param) :
    param.render.toList = [' '].intercalate tokens := by
  cases h with
  | bare => simp [Param.render, joinTokens]
  | @named first others _ hname htype =>
    obtain ⟨second, rest, rfl⟩ := List.exists_cons_of_ne_nil htype.ne_nil
    simp [Param.render, name_isEmpty_of_isIdentifier hname, joinTokens, List.intercalate_cons_cons]

/-- What has been read from an entry is read again from what is written. -/
theorem readEntry_render (h : readEntry item = .ok param) :
    readEntry param.render.toList = .ok param := by
  rw [readEntry_ok_iff] at h ⊢
  rwa [h.render, (isTokens_splitTokens item).splitTokens_join]

theorem isTrimmed_render (h : readEntry item = .ok param) :
    Text.IsTrimmed param.render.toList := by
  rw [readEntry_ok_iff] at h
  rw [h.render]
  exact (isTokens_splitTokens item).isTrimmed_join

/-- The entry is read from its text, and the text can stand in a list. -/
structure IsListed (param : Param) : Prop where
  read : readEntry param.render.toList = .ok param
  nested : Nested (· ≠ ',') param.render.toList

theorem isListed_of_readEntry (hitem : Nested (· ≠ ',') item) (h : readEntry item = .ok param) :
    IsListed param := by
  refine ⟨readEntry_render h, ?_⟩
  rw [(readEntry_ok_iff.mp h).render]
  exact nested_join (.of_plain (by simp; decide)) (nested_of_splitTokens hitem)

/-- A word that is no keyword does not begin a type of several words. -/
theorem startsLongType_of_isIdentifier (h : isIdentifier name = true)
    (hkeyword : String.ofList name ∉ typeKeywords) : startsLongType name = false := by
  have hword := isWord_of_isIdentifier h
  have harrow : literal "<-" name = none := by
    cases name with
    | nil => rfl
    | cons c rest =>
      have hne : '<' ≠ c := by
        rintro rfl
        cases hword _ List.mem_cons_self
      simp [literal, List.isPrefixOf?, hne]
  simp only [startsLongType, harrow, Option.getD_none]
  rw [Bool.eq_false_iff, ne_eq, List.any_eq_true]
  rintro ⟨keyword, hmem, hany⟩
  cases hrest : literal keyword name with
  | none => simp [hrest] at hany
  | some rest =>
    have hname : keyword.toList ++ rest = name := List.append_eq_of_isPrefixOf?_eq_some hrest
    cases rest with
    | nil =>
      rw [List.append_nil] at hname
      rw [← hname, String.ofList_toList] at hkeyword
      exact hkeyword hmem
    | cons c rest =>
      have hc : Text.isWord c = true := hword c (by simp [← hname])
      simp [hrest, hc] at hany

/-- A name is one token. -/
theorem isTokens_name (hname : isIdentifier name = true) : IsTokens [name] := by
  have hblank : ∀ c ∈ name, Text.isBlank c = false := fun c hc =>
    Text.isBlank_of_isWord (isWord_of_isIdentifier hname c hc)
  refine .last ?_ (isSolid_of_not_isBlank hblank) fun c hc => hblank c (List.mem_of_mem_getLast? hc)
  rintro rfl
  cases hname

theorem nested_name (hname : isIdentifier name = true) : Nested (· ≠ ',') name := by
  refine .of_plain fun c hc => ?_
  have hword := isWord_of_isIdentifier hname c hc
  refine ⟨unbracketed_of_isWord hword, ?_⟩
  rintro rfl
  cases hword

/-- A name and the tokens of a type make an entry that is read from its text. -/
theorem readEntry_named {others : List Chars} (hname : isIdentifier name = true)
    (hkeyword : String.ofList name ∉ typeKeywords) (hothers : IsTokens others)
    (htype : IsNamedType others) :
    let param : Param := ⟨String.ofList name, joinTokens others⟩
    param.render.toList = [' '].intercalate (name :: others) ∧
      readEntry param.render.toList = .ok param := by
  have hentry := IsEntry.named (startsLongType_of_isIdentifier hname hkeyword) hname htype
  have htokens : IsTokens (name :: others) := .cons (isTokens_name hname).ne_nil
    (isTokens_name hname).isSolid (nested_name hname).rise_eq htype.ne_nil hothers
  refine ⟨hentry.render, ?_⟩
  rw [readEntry_ok_iff, hentry.render, htokens.splitTokens_join]
  exact hentry

/-- A name that takes the type of a listed entry makes a listed entry. -/
theorem IsListed.share (h : IsListed param) (hnamed : param.name.isEmpty = false)
    (hname : isIdentifier name = true) (hkeyword : String.ofList name ∉ typeKeywords) :
    IsListed ⟨String.ofList name, param.type⟩ := by
  have hentry := readEntry_ok_iff.mp h.read
  have htokens := isTokens_splitTokens param.render.toList
  have hnested := nested_of_splitTokens h.nested
  generalize splitTokens param.render.toList = tokens at hentry htokens hnested
  cases hentry with
  | bare => cases hnamed
  | @named first others hfirst hfirstName htype =>
    obtain ⟨hrender, hread⟩ := readEntry_named hname hkeyword htokens.tail htype
    refine ⟨hread, ?_⟩
    rw [hrender]
    refine nested_join (.of_plain (by simp; decide)) ?_
    exact List.forall_mem_cons.mpr ⟨nested_name hname, (List.forall_mem_cons.mp hnested).2⟩

/-! ## Lists -/

/-- All entries have names, or none has one. -/
def IsUniform (params : List Param) : Prop :=
  (∀ param ∈ params, param.name.isEmpty = false) ∨ ∀ param ∈ params, param.name.isEmpty = true

/-- A list keeps the entries that have names, and gives those that are bare names the type of such
an entry. -/
theorem exists_of_shareTypes {shown : String} {pending : List String} {entries all : List Param}
    (hall : entries ⊆ all)
    (hpending : ∀ name ∈ pending, ∃ other ∈ all,
      isIdentifier other.type.toList = true ∧ other.type = name)
    (h : shareTypes shown pending entries = .ok params) :
    ∀ param ∈ params, ∃ entry ∈ all, entry.name.isEmpty = false ∧ (param = entry ∨
      ∃ other ∈ all, isIdentifier other.type.toList = true ∧
        param = ⟨other.type, entry.type⟩) := by
  induction entries generalizing pending params with
  | nil =>
    rw [shareTypes] at h
    split_ifs at h
    obtain rfl := Except.ok.inj h
    exact List.forall_mem_nil _
  | cons entry rest ih =>
    obtain ⟨hentry, hrest⟩ := List.cons_subset.mp hall
    rw [shareTypes] at h
    split_ifs at h with hempty htype
    · refine ih hrest (List.forall_mem_append.mpr ⟨hpending, ?_⟩) h
      exact List.forall_mem_singleton.mpr ⟨entry, hentry, htype, rfl⟩
    · obtain ⟨others, hothers, rfl⟩ := map_eq_ok h
      have hnamed := Bool.eq_false_iff.mpr hempty
      simp only [List.forall_mem_append, List.forall_mem_map, List.forall_mem_cons]
      refine ⟨fun name hname => ?_, ⟨entry, hentry, hnamed, .inl rfl⟩,
        ih hrest (List.forall_mem_nil _) hothers⟩
      obtain ⟨other, hother, hid, rfl⟩ := hpending name hname
      exact ⟨entry, hentry, hnamed, .inr ⟨other, hother, hid, rfl⟩⟩

theorem shareTypes_of_named {text : String}
    (h : ∀ param ∈ params, param.name.isEmpty = false) :
    shareTypes text [] params = .ok params := by
  induction params with
  | nil => rfl
  | cons param rest ih =>
    obtain ⟨hparam, hrest⟩ := List.forall_mem_cons.mp h
    simp [shareTypes, hparam, ih hrest, Except.map]

theorem nested_of_splitTop {items : List Chars} (htext : Nested outside text)
    (h : splitTop (some ',') text = .ok items) : ∀ item ∈ items, Nested (· ≠ ',') item := by
  obtain ⟨pieces, hpieces, rfl⟩ := exists_of_splitTop h
  intro item hitem
  obtain ⟨piece, hpiece, rfl⟩ := List.mem_map.mp (List.mem_filter.mp hitem).1
  exact ((nested_of_topPieces htext hpieces).2 piece hpiece).trim

/-- What holds of every entry that is read, and passes to names that share a type, holds of every
parameter of a list. -/
theorem forall_of_readParams {holds : Param → Prop} (h : readParams text = .ok params)
    (hread : ∀ items, splitTop (some ',') text = .ok items → ∀ item ∈ items, ∀ entry,
      readEntry item = .ok entry → holds entry)
    (hshared : ∀ entry other, holds entry → holds other → holds ⟨other.type, entry.type⟩) :
    ∀ param ∈ params, holds param := by
  simp only [readParams, Outcome.bind_eq_ok_iff] at h
  obtain ⟨items, hitems, entries, hentries, h⟩ := h
  have hentered : ∀ entry ∈ entries, holds entry := by
    intro entry hentry
    obtain ⟨item, hitem, hok⟩ := Outcome.exists_of_mapM hentries entry hentry
    exact hread items hitems item hitem entry hok
  split_ifs at h
  · intro param hparam
    obtain ⟨entry, hentry, -, rfl | ⟨other, hother, -, rfl⟩⟩ :=
      exists_of_shareTypes (List.Subset.refl entries) (List.forall_mem_nil _) h param hparam
    · exact hentered _ hentry
    · exact hshared entry other (hentered entry hentry) (hentered other hother)
  · obtain rfl := Except.ok.inj h
    exact hentered

/-- Results are read from nothing, from a list in parentheses, or from one bare type. -/
theorem exists_of_readResults (h : readResults text = .ok params) :
    (Text.trim text = [] ∧ params = []) ∨
      (∃ inner after, Text.trim text = '(' :: inner ++ ')' :: after ∧ Text.trim after = [] ∧
        Nested (fun _ => True) inner ∧ readParams inner = .ok params) ∨
      ∃ entry, readEntry (Text.trim text) = .ok entry ∧ entry.name.isEmpty = true ∧
        params = [entry] := by
  simp only [readResults] at h
  split at h
  · next hclause => exact .inl ⟨hclause, (Except.ok.inj h).symm⟩
  · next rest hclause =>
    obtain ⟨⟨inside, after⟩, hclose, h⟩ := Outcome.bind_eq_ok_iff.mp h
    split_ifs at h with hafter
    rw [hclause] at hclose ⊢
    obtain ⟨inner, rfl, rfl, hinner⟩ := eq_of_splitAtClose hclose
    exact .inr (.inl ⟨inner, after, rfl, List.isEmpty_iff.mp hafter, hinner, h⟩)
  · obtain ⟨entry, hentry, h⟩ := Outcome.bind_eq_ok_iff.mp h
    split_ifs at h with hname
    exact .inr (.inr ⟨entry, hentry, hname, (Except.ok.inj h).symm⟩)

/-- What is read from nested text is a list of entries that can be written as one. -/
theorem isListed_of_readParams (htext : Nested outside text)
    (hkeyword : ∀ param ∈ params, param.name ∉ typeKeywords) (h : readParams text = .ok params) :
    (∀ param ∈ params, IsListed param) ∧ IsUniform params := by
  simp only [readParams, Outcome.bind_eq_ok_iff] at h
  obtain ⟨items, hitems, entries, hentries, h⟩ := h
  have hlisted : ∀ entry ∈ entries, IsListed entry := by
    intro entry hentry
    obtain ⟨item, hitem, hread⟩ := Outcome.exists_of_mapM hentries entry hentry
    exact isListed_of_readEntry (nested_of_splitTop htext hitems item hitem) hread
  split_ifs at h with hany
  · have hfrom := exists_of_shareTypes (List.Subset.refl entries) (List.forall_mem_nil _) h
    refine ⟨fun param hparam => ?_, .inl fun param hparam => ?_⟩
    · obtain ⟨entry, hentry, hnamed, rfl | ⟨other, -, hid, rfl⟩⟩ := hfrom param hparam
      · exact hlisted _ hentry
      · have hshare := (hlisted entry hentry).share hnamed hid (by simpa using hkeyword _ hparam)
        rwa [String.ofList_toList] at hshare
    · obtain ⟨entry, -, hnamed, rfl | ⟨other, -, hid, rfl⟩⟩ := hfrom param hparam
      · exact hnamed
      · simpa using name_isEmpty_of_isIdentifier hid
  · obtain rfl := Except.ok.inj h
    exact ⟨hlisted, .inr (by simpa using hany)⟩

theorem render_ne_nil (h : readEntry param.render.toList = .ok param) :
    param.render.toList ≠ [] := by
  intro hempty
  rw [hempty] at h
  cases h

/-- Entries that are read from their texts are what the list of the texts is read as, before types
are shared. -/
theorem readParams_join {gap : Chars} {entries : List Param}
    (hgap : ∀ c ∈ gap, Text.isBlank c = true)
    (h : ∀ entry ∈ entries, readEntry entry.render.toList = .ok entry ∧
      IsItem ',' entry.render.toList) :
    let text := (',' :: gap).intercalate (entries.map fun entry => entry.render.toList)
    readParams text =
      if entries.any fun entry => !entry.name.isEmpty then
        shareTypes (String.ofList (Text.trim text)) [] entries
      else .ok entries := by
  intro text
  have hitems : splitTop (some ',') text = .ok (entries.map fun entry => entry.render.toList) := by
    refine splitTop_join ⟨rfl, rfl⟩ (fun c hc => ⟨hgap c hc, ?_⟩) ?_
    · rintro rfl
      cases hgap _ hc
    · simp only [List.forall_mem_map]
      intro entry hentry
      obtain ⟨hread, hitem⟩ := h entry hentry
      exact ⟨hitem, isTrimmed_render hread, render_ne_nil hread⟩
  have hentries : (entries.map fun entry => entry.render.toList).mapM readEntry = .ok entries := by
    have hread := @Outcome.mapM_map_eq_ok _ _ _ _ (fun entry : Param => entry.render.toList)
      readEntry id entries fun entry hentry => (h entry hentry).1
    rwa [List.map_id] at hread
  rw [readParams, hitems]
  show (entries.map fun entry => entry.render.toList).mapM readEntry >>= _ = _
  rw [hentries]
  rfl

theorem nested_renderList (h : ∀ param ∈ params, IsListed param) :
    Nested (fun _ => True) (Signature.renderList params).toList := by
  rw [Signature.renderList, String.toList_intercalate]
  refine nested_join (.of_plain (by simp; decide)) ?_
  simp only [List.forall_mem_map]
  exact fun param hparam => (h param hparam).nested.mono fun _ _ => trivial

theorem isTrimmed_renderList (h : ∀ param ∈ params, IsListed param) :
    Text.IsTrimmed (Signature.renderList params).toList := by
  rw [Signature.renderList, String.toList_intercalate]
  apply Text.isTrimmed_intercalate
  simp only [List.forall_mem_map]
  exact fun param hparam =>
    ⟨render_ne_nil (h param hparam).read, isTrimmed_render (h param hparam).read⟩

/-- A list of such entries is read from its text. -/
theorem readParams_renderList (h : ∀ param ∈ params, IsListed param) (huniform : IsUniform params) :
    readParams (Signature.renderList params).toList = .ok params := by
  have htext : (Signature.renderList params).toList =
      [',', ' '].intercalate (params.map fun param => param.render.toList) := by
    rw [Signature.renderList, String.toList_intercalate, List.map_map]
    rfl
  have hread := @readParams_join [' '] params (by simp; decide) fun param hparam =>
    ⟨(h param hparam).read, (h param hparam).nested.isItem ⟨rfl, rfl⟩⟩
  rw [htext, hread]
  split_ifs with hany
  · rcases huniform with hnamed | hbare
    · exact shareTypes_of_named hnamed
    · obtain ⟨param, hparam, hname⟩ := List.any_eq_true.mp hany
      simp [hbare param hparam] at hname
  · rfl

end Scaffold.Source
