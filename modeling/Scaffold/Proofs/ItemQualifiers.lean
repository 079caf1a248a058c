import Scaffold.Proofs.ServiceFields
import Scaffold.Proofs.SignatureRoundTrip

/-!
# The qualifiers of services and signatures

The type of a service uses the service's own qualifier and no other. A signature uses the same
qualifiers in its source as in the line that is written for it, each first used at the same place,
though names that share a type are written with a type each.
-/

namespace Scaffold

namespace Source

variable {text item : Chars} {qualifier : String}

/-! ## Services -/

/-- A text ends in one word at most. -/
theorem eq_of_append_words {before before' word word' : Chars}
    (h : before ++ word = before' ++ word')
    (hword : ∀ c ∈ word, Text.isWord c = true) (hword' : ∀ c ∈ word', Text.isWord c = true)
    (hlast : before.getLast?.any Text.isWord = false)
    (hlast' : before'.getLast?.any Text.isWord = false) : word = word' := by
  have hnone : ∀ {shorter more : Chars}, (∀ c ∈ more, Text.isWord c = true) →
      (shorter ++ more).getLast?.any Text.isWord = false → more = [] := by
    intro shorter more hmore hend
    by_contra hne
    obtain ⟨others, last, rfl⟩ := List.eq_nil_or_concat more |>.resolve_left hne
    simp [hmore last (by simp)] at hend
  rcases List.append_eq_append_iff.mp h with ⟨more, rfl, rfl⟩ | ⟨more, rfl, rfl⟩
  · rw [hnone (fun c hc => hword c (List.mem_append_left _ hc)) hlast', List.nil_append]
  · rw [hnone (fun c hc => hword' c (List.mem_append_left _ hc)) hlast, List.nil_append]

/-- A package's name and a symbol of the package, perhaps after a star. -/
structure IsServiceType (star package symbol : Chars) : Prop where
  star : star = [] ∨ star = ['*']
  ne_nil : package ≠ []
  package : ∀ c ∈ package, Text.isWord c = true
  symbol : ∀ c ∈ symbol, Text.isWord c = true

/-- What reads as a service has a word for its name and such a type. -/
theorem of_mem_readServices {service : Service} {body : Chars} (h : service ∈ readServices body) :
    IsWord service.name.toList ∧
    ∃ star package symbol, service.type.toList = star ++ package ++ '.' :: symbol ∧
      IsServiceType star package symbol := by
  obtain ⟨_, rest, after, -, hline⟩ := mem_matchesFrom h
  rw [onLineStart] at hline
  split_ifs at hline
  obtain ⟨_, name, _, type, _, _, -, rfl, hname, htype, -⟩ := parts_of_serviceLine? hline
  obtain ⟨star, package, symbol, hstar, hpackage, hsymbol, rfl⟩ := htype
  exact ⟨by rwa [String.toList_ofList], star, package, symbol, by simp, by simpa using hstar,
    hpackage.1, hpackage.2, hsymbol.2⟩

theorem IsServiceType.eq_of_mem {star package symbol : Chars}
    (h : IsServiceType star package symbol)
    (hqualifier : qualifier ∈ qualifiersIn (star ++ package ++ '.' :: symbol)) :
    qualifier = String.ofList package := by
  obtain ⟨before, later, htext, hlast, hwords⟩ := exists_of_mem_qualifiersIn hqualifier
  have hstar : star.getLast?.any Text.isWord = false ∧ '.' ∉ star := by
    rcases h.star with rfl | rfl <;> decide
  have hnot : '.' ∉ star ++ package := by
    simpa [hstar.2] using not_mem_dot_of_isWord h.package
  obtain ⟨hword, -⟩ := (List.append_cons_inj_of_notMem hnot
    (not_mem_dot_of_isWord h.symbol)).mp htext
  rw [eq_of_append_words hword h.package hwords hstar.1 hlast, String.ofList_toList]

theorem IsServiceType.qualifier_eq {star package symbol : Chars} {service : Service}
    (h : IsServiceType star package symbol)
    (htype : service.type.toList = star ++ package ++ '.' :: symbol) :
    service.qualifier = String.ofList package := by
  obtain ⟨first, others, rfl⟩ := List.exists_cons_of_ne_nil h.ne_nil
  have hfirst : first ≠ '*' := by
    rintro rfl
    exact absurd (h.package '*' (by simp)) (by decide)
  have hbare : service.type.toList.dropWhile (· == '*') = first :: others ++ '.' :: symbol := by
    rw [htype]
    rcases h.star with rfl | rfl <;> simp [hfirst]
  have hcut : Text.splitOn "." (first :: others ++ '.' :: symbol) =
      (first :: others) :: Text.splitOn "." symbol := by
    have hnot : ¬ ['.'] <:+: first :: others ++ ['.'].dropLast := by
      intro hinfix
      refine not_mem_dot_of_isWord h.package ?_
      simpa using hinfix.subset List.mem_cons_self
    have hsplit := Text.splitFrom_append (by decide) hnot symbol
    rwa [List.append_assoc, List.singleton_append] at hsplit
  rw [Service.qualifier, hbare, Text.before, hcut]
  rfl

/-- A service's type uses no other qualifier than the service's. -/
theorem eq_qualifier_of_mem_readServices {service : Service} {body : Chars}
    (h : service ∈ readServices body) (hqualifier : qualifier ∈ qualifiersIn service.type.toList) :
    qualifier = service.qualifier := by
  obtain ⟨-, star, package, symbol, htype, hparts⟩ := of_mem_readServices h
  rw [htype] at hqualifier
  rw [hparts.eq_of_mem hqualifier, hparts.qualifier_eq htype]

/-! ## First uses -/

section FirstUses

variable {names first second : List String}

theorem eraseDups_filter (keep : String → Bool) (names : List String) :
    (names.filter keep).eraseDups = names.eraseDups.filter keep := by
  induction hlength : names.length using Nat.strong_induction_on generalizing names with
  | _ length ih =>
    cases names with
    | nil => rfl
    | cons name rest =>
      have hshorter : (rest.filter fun other => !other == name).length < length := by
        rw [← hlength]
        exact Nat.lt_succ_of_le (List.length_filter_le _ rest)
      have hrest := ih _ hshorter (rest.filter fun other => !other == name) rfl
      rw [List.eraseDups_cons, List.filter_cons, List.filter_cons, ← hrest]
      split_ifs with hkeep
      · rw [List.eraseDups_cons, List.filter_filter, List.filter_filter]
        refine congrArg (fun others => name :: List.eraseDups others) ?_
        exact List.filter_congr fun other _ => Bool.and_comm _ _
      · rw [List.filter_filter]
        congr 1
        refine List.filter_congr fun other _ => ?_
        by_cases hsame : other = name
        · simp [hsame, hkeep]
        · simp [hsame]

theorem eraseDups_append_congr {later later' : List String} (h : first.eraseDups = second.eraseDups)
    (hlater : later.eraseDups = later'.eraseDups) :
    (first ++ later).eraseDups = (second ++ later').eraseDups := by
  have hmem : ∀ name, first.elem name = second.elem name := by
    intro name
    rw [Bool.eq_iff_iff, List.elem_iff, List.elem_iff, ← List.mem_eraseDups, h, List.mem_eraseDups]
  rw [List.eraseDups_append, List.eraseDups_append, h, List.removeAll, List.removeAll,
    eraseDups_filter, eraseDups_filter, hlater]
  simp only [hmem]

/-- Repeating the first names changes no first use. -/
theorem eraseDups_repeat {α : Type} (items : List α) (first later : List String) :
    ((items.flatMap fun _ => first) ++ (first ++ later)).eraseDups =
      (first ++ later).eraseDups := by
  have htwice : (first ++ first).eraseDups = first.eraseDups := by
    have hnone : first.removeAll first = [] := by
      rw [List.removeAll, List.filter_eq_nil_iff]
      intro name hname
      simpa using hname
    rw [List.eraseDups_append, hnone, List.eraseDups_nil, List.append_nil]
  induction items with
  | nil => rfl
  | cons item rest ih =>
    rw [List.flatMap_cons, List.append_assoc, eraseDups_append_congr rfl ih, ← List.append_assoc]
    exact eraseDups_append_congr htwice rfl

end FirstUses

/-! ## Signatures -/

variable {param : Param} {params entries results : List Param}

/-- The qualifiers of a parameter or result. -/
def paramQualifiers (param : Param) : List String :=
  qualifiersIn param.render.toList

theorem paramQualifiers_of_readEntry (h : readEntry item = .ok param) :
    paramQualifiers param = qualifiersIn item := by
  rw [paramQualifiers, (readEntry_ok_iff.mp h).render,
    qualifiersIn_intercalate (by simp) (by decide), qualifiersIn_splitTokens]

theorem paramQualifiers_named {name type : String} (h : isIdentifier name.toList = true) :
    paramQualifiers ⟨name, type⟩ = qualifiersIn type.toList := by
  have hname : name.isEmpty = false := by simpa using name_isEmpty_of_isIdentifier h
  have hrender : (Param.render ⟨name, type⟩).toList = name.toList ++ ' ' :: type.toList := by
    simp [Param.render, hname]
  rw [paramQualifiers, hrender, qualifiersIn_append_cons (by decide),
    qualifiersIn_of_isIdentifier h, List.nil_append]

/-- Names that share a type bring no further qualifier. -/
theorem paramQualifiers_shareTypes {shown : String} {pending : List String}
    (hentries : ∀ entry ∈ entries, entry.name.isEmpty = true ∨
      isIdentifier entry.name.toList = true)
    (hpending : ∀ name ∈ pending, isIdentifier name.toList = true)
    (h : shareTypes shown pending entries = .ok params) :
    (params.flatMap paramQualifiers).eraseDups = (entries.flatMap paramQualifiers).eraseDups := by
  induction entries generalizing pending params with
  | nil =>
    rw [shareTypes] at h
    split_ifs at h
    obtain rfl := Except.ok.inj h
    rfl
  | cons entry rest ih =>
    obtain ⟨hentry, hrest⟩ := List.forall_mem_cons.mp hentries
    rw [shareTypes] at h
    split_ifs at h with hempty htype
    · have hnone : paramQualifiers entry = [] := by
        rw [paramQualifiers, Param.render, if_pos hempty]
        exact qualifiersIn_of_isIdentifier htype
      rw [List.flatMap_cons, hnone, List.nil_append]
      refine ih hrest (fun name hname => ?_) h
      rcases List.mem_append.mp hname with hname | hname
      · exact hpending name hname
      · rwa [List.mem_singleton.mp hname]
    · obtain ⟨others, hothers, rfl⟩ := map_eq_ok h
      have hnamed : paramQualifiers entry = qualifiersIn entry.type.toList :=
        paramQualifiers_named (hentry.resolve_left hempty)
      have hshared : (pending.map fun name => (⟨name, entry.type⟩ : Param)).flatMap
          paramQualifiers = pending.flatMap fun _ => paramQualifiers entry := by
        rw [List.flatMap_map]
        refine List.flatMap_congr fun name hname => ?_
        rw [paramQualifiers_named (hpending name hname), hnamed]
      rw [List.flatMap_append, List.flatMap_cons, List.flatMap_cons, hshared, eraseDups_repeat]
      exact eraseDups_append_congr rfl (ih hrest (by simp) hothers)

/-- The qualifiers of a list of parameters. -/
theorem findQualifiers_of_readParams (h : readParams text = .ok params) :
    findQualifiers text = (params.flatMap paramQualifiers).eraseDups := by
  simp only [readParams, Outcome.bind_eq_ok_iff] at h
  obtain ⟨items, hitems, entries, hentries, h⟩ := h
  have hread : entries.flatMap paramQualifiers = items.flatMap qualifiersIn := by
    rw [List.flatMap_def, List.flatMap_def,
      Outcome.map_eq_of_mapM (fun _ _ => paramQualifiers_of_readEntry) hentries]
  rw [findQualifiers_eq, qualifiersIn_of_splitTop hitems, ← hread]
  split_ifs at h
  · refine (paramQualifiers_shareTypes (fun entry hentry => ?_) (by simp) h).symm
    obtain ⟨item, -, hitem⟩ := Outcome.exists_of_mapM hentries entry hentry
    have hread := readEntry_ok_iff.mp hitem
    generalize splitTokens item = tokens at hread
    cases hread with
    | bare => exact Or.inl rfl
    | named _ hname => exact Or.inr (by simpa using hname)
  · obtain rfl := Except.ok.inj h
    rfl

/-- The qualifiers of a result clause. -/
theorem findQualifiers_of_readResults (h : readResults text = .ok results) :
    findQualifiers text = (results.flatMap paramQualifiers).eraseDups := by
  rw [findQualifiers_eq, ← qualifiersIn_trim]
  obtain ⟨hclause, rfl⟩ | ⟨inner, after, hclause, hafter, -, hread⟩ | ⟨entry, hentry, -, rfl⟩ :=
    exists_of_readResults h
  · rw [hclause]
    rfl
  · have hnone : qualifiersIn after = [] := by
      rw [← qualifiersIn_trim, hafter, qualifiersIn_nil]
    rw [hclause, qualifiersIn_append_cons (by decide), hnone, List.append_nil,
      ← List.singleton_append, qualifiersIn_separators_append (by decide)]
    exact findQualifiers_of_readParams hread
  · rw [List.flatMap_singleton, paramQualifiers_of_readEntry hentry]

theorem qualifiersIn_renderList (params : List Param) :
    qualifiersIn (Signature.renderList params).toList = params.flatMap paramQualifiers := by
  have hlist : (Signature.renderList params).toList =
      ", ".toList.intercalate (params.map fun param => param.render.toList) := by
    simp [Signature.renderList, String.toList_intercalate, Function.comp_def]
  rw [hlist, qualifiersIn_intercalate (by decide) (by decide), List.flatMap_map]
  rfl

end Source

namespace Signature

open Source

variable {signature : Signature}

/-- The qualifiers in the line of a signature. -/
theorem qualifiersIn_render (signature : Signature) :
    qualifiersIn signature.render.toList = qualifiersIn signature.name.toList ++
      (signature.params ++ signature.results).flatMap paramQualifiers := by
  have hresults : qualifiersIn signature.resultsText =
      signature.results.flatMap paramQualifiers := by
    rw [resultsText]
    split_ifs with hempty
    · simp [List.isEmpty_iff.mp hempty]
    · rw [← qualifiersIn_renderList, ← List.singleton_append,
        qualifiersIn_separators_append (by decide), renderResults]
      split_ifs
      · simp only [String.toList_append]
        rw [qualifiersIn_append_separators (by decide), qualifiersIn_separators_append (by decide)]
      · rfl
  rw [toList_render, List.append_assoc, List.cons_append, qualifiersIn_append_cons (by decide),
    qualifiersIn_append_cons (by decide), qualifiersIn_renderList, hresults, List.flatMap_append]

/-- A signature that was read from texts has their qualifiers, in the same order. -/
theorem findQualifiers_ofText {name params results : String}
    (h : ofText name params results = .ok signature) (hname : '.' ∉ name.toList) :
    findQualifiers signature.render.toList =
      findQualifiers (params.toList ++ ' ' :: results.toList) := by
  obtain ⟨rfl, -, hparams, hresults, -⟩ := ofText_ok_iff.mp h
  rw [findQualifiers_eq, qualifiersIn_render, qualifiersIn_of_not_mem_dot hname, List.nil_append,
    List.flatMap_append, findQualifiers_eq, qualifiersIn_append_cons (by decide)]
  exact eraseDups_append_congr (findQualifiers_of_readParams hparams).symm
    (findQualifiers_of_readResults hresults).symm

end Signature

end Scaffold
