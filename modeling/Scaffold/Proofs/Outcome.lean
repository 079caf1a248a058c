import Mathlib.Data.List.Basic
import Scaffold.Build.Construct

/-!
# Outcomes of steps in sequence

A sequence of steps that may fail succeeds exactly when each of its steps does. The lemmas here take
such a sequence apart, or put it together, once for all readers, builders and renderers.
-/

namespace Scaffold.Outcome

variable {ε α β : Type} {items : List α} {step : α → Except ε β} {ask : α → Except ε Bool}

/-- A sequence of two steps succeeds exactly when both do, the second on the result of the first. -/
theorem bind_eq_ok_iff {first : Except ε α} {second : α → Except ε β} {result : β} :
    (first >>= second) = .ok result ↔
      ∃ middle, first = .ok middle ∧ second middle = .ok result := by
  cases first with
  | error fault => simp [Bind.bind, Except.bind]
  | ok middle => simp [Bind.bind, Except.bind]

/-- Texts that are all read give the list of what is read from each. -/
theorem mapM_map_eq_ok {γ : Type} {write : γ → α} {read : α → Except ε β} {result : γ → β}
    {items : List γ} (h : ∀ item ∈ items, read (write item) = .ok (result item)) :
    (items.map write).mapM read = .ok (items.map result) := by
  induction items with
  | nil => rfl
  | cons item rest ih =>
    rw [List.forall_mem_cons] at h
    rw [List.map_cons, List.mapM_cons, h.1, ih h.2]
    rfl

/-- Steps that all succeed give the list of their results. -/
theorem mapM_eq_ok_map {result : α → β} (h : ∀ item ∈ items, step item = .ok (result item)) :
    items.mapM step = .ok (items.map result) := by
  have hmap := @mapM_map_eq_ok ε α β α id step result items h
  rwa [List.map_id] at hmap

/-- Steps that do the same on all items do the same in sequence. -/
theorem mapM_congr {step other : α → Except ε β}
    (h : ∀ item ∈ items, step item = other item) : items.mapM step = items.mapM other := by
  induction items with
  | nil => rfl
  | cons item rest ih =>
    rw [List.forall_mem_cons] at h
    rw [List.mapM_cons, List.mapM_cons, h.1, ih h.2]

/-- Steps that do the same from all states do the same in sequence. -/
theorem foldlM_congr {step other : β → α → Except ε β}
    (h : ∀ item ∈ items, ∀ state, step state item = other state item) (state : β) :
    items.foldlM step state = items.foldlM other state := by
  induction items generalizing state with
  | nil => rfl
  | cons item rest ih =>
    rw [List.forall_mem_cons] at h
    rw [List.foldlM_cons, List.foldlM_cons, h.1]
    exact bind_congr fun later => ih h.2 later

/-- What each result shows of its item, the results show of the items. -/
theorem map_eq_of_mapM {γ : Type} {view : β → γ} {source : α → γ}
    (h : ∀ item result, step item = .ok result → view result = source item)
    {results : List β} (hok : items.mapM step = .ok results) :
    results.map view = items.map source := by
  induction items generalizing results with
  | nil =>
    obtain rfl := Except.ok.inj hok
    rfl
  | cons item rest ih =>
    simp only [List.mapM_cons, bind_eq_ok_iff] at hok
    obtain ⟨result, hresult, later, hlater, hpure⟩ := hok
    obtain rfl := Except.ok.inj hpure
    rw [List.map_cons, List.map_cons, h item result hresult, ih hlater]

/-- Each result of steps in sequence is that of one of them. -/
theorem exists_of_mapM {results : List β} (h : items.mapM step = .ok results) :
    ∀ result ∈ results, ∃ item ∈ items, step item = .ok result := by
  induction items generalizing results with
  | nil =>
    obtain rfl := Except.ok.inj h
    simp
  | cons item rest ih =>
    simp only [List.mapM_cons, bind_eq_ok_iff] at h
    obtain ⟨result, hresult, later, hlater, hpure⟩ := h
    obtain rfl := Except.ok.inj hpure
    refine List.forall_mem_cons.mpr ⟨⟨item, by simp, hresult⟩, fun other hother => ?_⟩
    obtain ⟨source, hsource, hother⟩ := ih hlater other hother
    exact ⟨source, by simp [hsource], hother⟩

/-- Steps that succeed on items succeed on what gives the same results, in sequence. -/
theorem mapM_map_of_mapM {alike : α → α}
    (h : ∀ item result, step item = .ok result → step (alike item) = .ok result)
    {results : List β} (hok : items.mapM step = .ok results) :
    (items.map alike).mapM step = .ok results := by
  induction items generalizing results with
  | nil => exact hok
  | cons item rest ih =>
    simp only [List.mapM_cons, bind_eq_ok_iff] at hok
    obtain ⟨result, hresult, later, hlater, hpure⟩ := hok
    rw [List.map_cons, List.mapM_cons, h item result hresult, ih hlater]
    exact hpure

/-- Steps that all succeed succeed in sequence. -/
theorem exists_mapM_eq_ok (h : ∀ item ∈ items, ∃ result, step item = .ok result) :
    ∃ results, items.mapM step = .ok results := by
  induction items with
  | nil => exact ⟨[], rfl⟩
  | cons item rest ih =>
    obtain ⟨⟨result, hresult⟩, hrest⟩ := List.forall_mem_cons.mp h
    obtain ⟨results, hresults⟩ := ih hrest
    exact ⟨result :: results, by rw [List.mapM_cons, hresult, hresults]; rfl⟩

/-- Steps in sequence fail as the first of them that does. -/
theorem mapM_eq_error_of_find? {fails : α → Bool}
    (h : ∀ item, fails item = false → ∃ result, step item = .ok result) {item : α}
    (hfirst : items.find? fails = some item) {fault : ε} (hfault : step item = .error fault) :
    items.mapM step = .error fault := by
  induction items with
  | nil => cases hfirst
  | cons first rest ih =>
    rw [List.mapM_cons]
    cases hfails : fails first with
    | true =>
      rw [List.find?_cons_of_pos hfails] at hfirst
      obtain rfl := Option.some.inj hfirst
      rw [hfault]
      rfl
    | false =>
      obtain ⟨result, hresult⟩ := h first hfails
      rw [List.find?_cons_of_neg (by simp [hfails])] at hfirst
      rw [hresult, ih hfirst]
      rfl

/-- A question that is always answered selects as its answers do. -/
theorem filterM_eq_ok_filter {answer : α → Bool}
    (h : ∀ item ∈ items, ask item = .ok (answer item)) :
    items.filterM ask = .ok (items.filter answer) := by
  have hfrom : ∀ found, items.filterAuxM ask found =
      .ok ((items.filter answer).reverse ++ found) := by
    induction items with
    | nil => exact fun found => rfl
    | cons item rest ih =>
      intro found
      rw [List.forall_mem_cons] at h
      rw [List.filterAuxM, h.1]
      change List.filterAuxM ask rest _ = _
      rw [ih h.2]
      cases hanswer : answer item <;> simp [hanswer]
  rw [List.filterM, hfrom]
  simp [Bind.bind, Except.bind, Pure.pure, Except.pure]

/-- Questions that are answered alike select alike. -/
theorem filterM_congr {ask other : α → Except ε Bool}
    (h : ∀ item ∈ items, ask item = other item) : items.filterM ask = items.filterM other := by
  have hfrom : ∀ found, items.filterAuxM ask found = items.filterAuxM other found := by
    induction items with
    | nil => exact fun _ => rfl
    | cons item rest ih =>
      intro found
      rw [List.forall_mem_cons] at h
      rw [List.filterAuxM, List.filterAuxM, h.1]
      exact bind_congr fun _ => ih h.2 _
  rw [List.filterM, List.filterM, hfrom]

/-- Questions that select anything were all answered. -/
theorem answered_of_filterM {items found : List α}
    (h : items.filterM ask = .ok found) : ∀ item ∈ items, ∃ answer, ask item = .ok answer := by
  have hfrom : ∀ (rest earlier found : List α), rest.filterAuxM ask earlier = .ok found →
      ∀ item ∈ rest, ∃ answer, ask item = .ok answer := by
    intro rest
    induction rest with
    | nil => exact fun _ _ _ item hitem => absurd hitem List.not_mem_nil
    | cons first rest ih =>
      intro earlier found hfound
      rw [List.filterAuxM, bind_eq_ok_iff] at hfound
      obtain ⟨answer, hanswer, hfound⟩ := hfound
      exact List.forall_mem_cons.mpr ⟨⟨answer, hanswer⟩, ih _ _ hfound⟩
  rw [List.filterM, bind_eq_ok_iff] at h
  obtain ⟨reversed, hreversed, -⟩ := h
  exact hfrom items [] reversed hreversed

/-- What is selected is what the answers say. -/
theorem eq_filter_of_filterM {answer : α → Bool} {items found : List α}
    (h : items.filterM ask = .ok found)
    (hanswer : ∀ item reply, ask item = .ok reply → answer item = reply) :
    found = items.filter answer := by
  have hall : ∀ item ∈ items, ask item = .ok (answer item) := by
    intro item hitem
    obtain ⟨reply, hreply⟩ := answered_of_filterM h item hitem
    rw [hreply, hanswer item reply hreply]
  exact Except.ok.inj (h.symm.trans (filterM_eq_ok_filter hall))

/-- What a question selects was asked about, and the answer was yes. -/
theorem mem_of_filterM {items found : List α} (h : items.filterM ask = .ok found) :
    ∀ item ∈ found, item ∈ items ∧ ask item = .ok true := by
  intro item hitem
  have hfound : found = items.filter fun item => (ask item).toOption.getD false :=
    eq_filter_of_filterM h fun item reply hreply => by rw [hreply]; rfl
  obtain ⟨hmem, hyes⟩ := List.mem_filter.mp (hfound ▸ hitem)
  obtain ⟨reply, hreply⟩ := answered_of_filterM h item hmem
  rw [hreply] at hyes ⊢
  exact ⟨hmem, congrArg Except.ok hyes⟩

end Scaffold.Outcome
