import Scaffold.Proofs.TopLevel

/-!
# The closing bracket

The search for a closing bracket matches kinds on a stack. It ends with the shortest nested text
that begins at the opening bracket, and fails exactly if no nested text begins there. Cuts at the
top level count depth alone, and the two agree: what stands between a bracket and its partner can
be cut, with its blanks as they are or collapsed.
-/

namespace Scaffold.Source

variable {outside : Char → Prop} {kind : Bracket} {c first last : Char} {start stop : Nat}
  {text inner rest before inside after : Chars}

/-! ## Balance of nested text -/

/-- No start of nested text closes more brackets than it opens. -/
theorem Nested.rise_nonneg (h : Nested outside text) (hbefore : before <+: text) :
    0 ≤ rise before := by
  induction h generalizing before with
  | nil => simp [List.prefix_nil.mp hbefore]
  | plain hopened hclosed _ _ ih =>
    cases before with
    | nil => simp
    | cons d before =>
      obtain ⟨rfl, hstart⟩ := List.cons_prefix_cons.mp hbefore
      rw [rise_cons, depthStep_of_unbracketed ⟨hopened, hclosed⟩, Int.zero_add]
      exact ih hstart
  | @group outside kind first last inner rest hfirst hlast hinner _ ihinner ih =>
    cases before with
    | nil => simp
    | cons d before =>
      obtain ⟨rfl, after, hstart⟩ := List.cons_prefix_cons.mp hbefore
      rw [rise_cons, depthStep_of_opened? hfirst]
      rcases List.append_eq_append_iff.mp hstart with ⟨more, rfl, -⟩ | ⟨more, rfl, hmore⟩
      · have hwithin := ihinner (List.prefix_append before more)
        omega
      · rw [rise_append, hinner.rise_eq]
        cases more with
        | nil => simp
        | cons e more =>
          obtain ⟨rfl, rfl⟩ := List.cons.inj hmore
          have hlater := ih (List.prefix_append more after)
          rw [rise_cons, depthStep_of_closed? hlast]
          omega

theorem Nested.isBalanced (h : Nested outside text) : IsBalanced text :=
  isBalanced_iff.mpr ⟨fun _ hbefore => h.rise_nonneg hbefore, h.rise_eq⟩

theorem countP_filter_unblank {bracket : Char → Bool}
    (h : ∀ c, Text.isBlank c = true → bracket c = false) (text : Chars) :
    (text.filter fun c => !Text.isBlank c).countP bracket = text.countP bracket := by
  rw [List.countP_filter]
  refine List.countP_congr fun c _ => ?_
  cases hblank : Text.isBlank c <;> simp [hblank, h]

/-- Blanks have no part in the balance. -/
theorem isBalanced_filter_iff :
    IsBalanced (text.filter fun c => !Text.isBlank c) ↔ IsBalanced text := by
  have hopens := @countP_filter_unblank opens fun _ h => by simp [opens, unbracketed_of_isBlank h]
  have hcloses := @countP_filter_unblank closes fun _ h => by
    simp [closes, unbracketed_of_isBlank h]
  constructor
  · intro h
    refine ⟨fun before hbefore => ?_, by simpa only [hopens, hcloses] using h.closed⟩
    simpa only [hopens, hcloses] using h.opened _ (hbefore.filter _)
  · intro h
    refine ⟨fun before hbefore => ?_, by simpa only [hopens, hcloses] using h.closed⟩
    obtain ⟨longer, hlonger, rfl⟩ := List.prefix_filter_iff.mp hbefore
    simpa only [hopens, hcloses] using h.opened longer hlonger

theorem IsBalanced.collapse (h : IsBalanced text) : IsBalanced (Text.collapse text) := by
  rwa [← isBalanced_filter_iff, Text.filter_collapse, isBalanced_filter_iff]

/-! ## Groups -/

/-- The text is nested, and so is none of its starts but the empty one and the whole. -/
structure IsGroup (text : Chars) : Prop where
  nested : Nested (fun _ => True) text
  shortest : ∀ before, before <+: text → before ≠ [] → before ≠ text →
    ¬ Nested (fun _ => True) before

/-- Before its last bracket a group is never closed, whatever the kinds. -/
theorem rise_pos_of_group (hfirst : Bracket.opened? first = some kind)
    (hinner : Nested outside inner) (hbefore : before <+: first :: inner ++ [last])
    (hne : before ≠ []) (hproper : before ≠ first :: inner ++ [last]) : 0 < rise before := by
  cases before with
  | nil => exact absurd rfl hne
  | cons d before =>
    obtain ⟨rfl, hstart⟩ := List.cons_prefix_cons.mp hbefore
    rcases List.prefix_concat_iff.mp hstart with rfl | hwithin
    · exact absurd rfl hproper
    · have hopened := hinner.rise_nonneg hwithin
      rw [rise_cons, depthStep_of_opened? hfirst]
      omega

/-- A text that begins with a bracket is a group exactly if its last character is the partner of
that bracket and nested text stands between the two. -/
theorem isGroup_cons_iff (hfirst : Bracket.opened? first = some kind) :
    IsGroup (first :: text) ↔ ∃ inner last, text = inner ++ [last] ∧
      Nested (fun _ => True) inner ∧ Bracket.closed? last = some kind := by
  constructor
  · intro h
    obtain ⟨inner, last, rest, rfl, hinner, hlast⟩ :=
      h.nested.exists_group (List.nil_append _).symm hfirst
    have hgroup : Nested (fun _ => True) (first :: inner ++ [last]) :=
      .group hfirst hlast hinner .nil
    cases rest with
    | nil => exact ⟨inner, last, rfl, hinner, hlast⟩
    | cons d rest =>
      refine absurd hgroup (h.shortest _ ⟨d :: rest, by simp⟩ (by simp) fun heq => ?_)
      simpa using congrArg List.length heq
  · rintro ⟨inner, last, rfl, hinner, hlast⟩
    refine ⟨.group hfirst hlast hinner .nil, fun before hbefore hne hproper hnested => ?_⟩
    have hrise := rise_pos_of_group hfirst hinner hbefore hne hproper
    rw [hnested.rise_eq] at hrise
    exact absurd hrise (Int.lt_irrefl 0)

/-- The bracket at one place of the text is closed at another: the text from the one to the other,
both included, is a group. -/
structure ClosesAt (text : Chars) (start stop : Nat) : Prop where
  le : start ≤ stop
  lt : stop < text.length
  group : IsGroup (text.extract start (stop + 1))

/-- The text cut around a closing bracket: what stands before it, from the opening one on, and what
stands after it. -/
theorem extract_of_drop (h : text.drop start = inside ++ last :: after) :
    start + inside.length < text.length ∧
      text.extract start (start + inside.length) = inside ∧
      text.extract start (start + inside.length + 1) = inside ++ [last] ∧
      text.drop (start + inside.length + 1) = after := by
  have hlength := congrArg List.length h
  have hdrop : text.drop (start + inside.length + 1) =
      (text.drop start).drop (inside.length + 1) := by
    rw [List.drop_drop, Nat.add_assoc]
  have hassoc : inside ++ last :: after = (inside ++ [last]) ++ after := by simp
  refine ⟨?_, ?_, ?_, ?_⟩
  · simp only [List.length_drop, List.length_append, List.length_cons] at hlength
    omega
  · rw [List.extract, h, Nat.add_sub_cancel_left, List.take_left]
  · rw [List.extract, h, hassoc, Nat.add_assoc, Nat.add_sub_cancel_left]
    exact List.take_left' (by simp)
  · rw [hdrop, h, hassoc]
    exact List.drop_left' (by simp)

/-- An opening bracket is closed at the partner that nested text separates from it. -/
theorem closesAt_iff (hdrop : text.drop start = first :: rest)
    (hfirst : Bracket.opened? first = some kind) :
    ClosesAt text start stop ↔ ∃ inner last after,
      text.drop start = first :: inner ++ last :: after ∧ stop = start + (first :: inner).length ∧
        Nested (fun _ => True) inner ∧ Bracket.closed? last = some kind := by
  constructor
  · intro h
    have hle := h.le
    have hlt := h.lt
    have hlength := congrArg List.length hdrop
    simp only [List.length_drop, List.length_cons] at hlength
    have hgroup : IsGroup (first :: rest.take (stop - start)) := by
      have hwhole := h.group
      rwa [List.extract, hdrop, Nat.sub_add_comm hle, List.take_succ_cons] at hwhole
    obtain ⟨inner, last, htake, hinner, hlast⟩ := (isGroup_cons_iff hfirst).mp hgroup
    have hcount := congrArg List.length htake
    simp only [List.length_take, List.length_append, List.length_singleton] at hcount
    have hrest : rest = inner ++ last :: rest.drop (stop - start) := calc
      rest = rest.take (stop - start) ++ rest.drop (stop - start) :=
        (List.take_append_drop _ _).symm
      _ = inner ++ last :: rest.drop (stop - start) := by rw [htake]; simp
    refine ⟨inner, last, rest.drop (stop - start), ?_, ?_, hinner, hlast⟩
    · rw [hdrop, List.cons_append, ← hrest]
    · rw [List.length_cons]
      omega
  · rintro ⟨inner, last, after, htext, rfl, hinner, hlast⟩
    obtain ⟨hlt, -, hgroup, -⟩ := extract_of_drop htext
    refine ⟨Nat.le_add_right _ _, hlt, ?_⟩
    rw [hgroup]
    exact (isGroup_cons_iff hfirst).mpr ⟨inner, last, rfl, hinner, hlast⟩

/-! ## The search -/

/-- The search cuts the text at the place where the bracket is closed, and at no other. -/
theorem splitAtClose_drop_iff (hdrop : text.drop start = first :: rest)
    (hfirst : Bracket.opened? first = some kind) :
    splitAtClose (text.drop start) = .ok (text.extract start stop, text.drop (stop + 1)) ↔
      ClosesAt text start stop := by
  rw [closesAt_iff hdrop hfirst]
  constructor
  · intro h
    rw [hdrop] at h
    obtain ⟨inner, last, hinside, rfl, hinner, hlast⟩ := (splitAtClose_eq_ok_iff hfirst).mp h
    refine ⟨inner, last, _, hdrop, ?_, hinner, hlast⟩
    have hcount := congrArg List.length hinside
    have hlength := congrArg List.length hdrop
    simp only [List.length_take, List.length_drop, List.length_append, List.length_cons]
      at hcount hlength ⊢
    omega
  · rintro ⟨inner, last, after, htext, rfl, hinner, hlast⟩
    obtain ⟨-, hinside, -, hafter⟩ := extract_of_drop htext
    rw [hinside, hafter, htext]
    exact splitAtClose_group hfirst hlast hinner after

/-- Where a bracket is closed, every shorter start of the group leaves a bracket open, and what
stands between the two brackets is nested. -/
theorem ClosesAt.nested_between (h : ClosesAt text start stop)
    (hdrop : text.drop start = first :: rest) (hfirst : Bracket.opened? first = some kind) :
    (∀ before, before <+: text.extract start (stop + 1) → before ≠ [] →
      before ≠ text.extract start (stop + 1) → 0 < rise before) ∧
    Nested (fun _ => True) (text.extract (start + 1) stop) := by
  obtain ⟨inner, last, after, htext, rfl, hinner, -⟩ := (closesAt_iff hdrop hfirst).mp h
  obtain ⟨-, hinside, hgroup, -⟩ := extract_of_drop htext
  have hbetween : text.extract (start + 1) (start + (first :: inner).length) = inner := calc
    _ = (text.extract start (start + (first :: inner).length)).drop 1 := by
      rw [List.drop_take, List.drop_drop, Nat.sub_sub]
    _ = inner := by rw [hinside, List.drop_one, List.tail_cons]
  rw [hgroup, hbetween]
  exact ⟨fun _ hbefore hne hproper => rise_pos_of_group hfirst hinner hbefore hne hproper, hinner⟩

/-- From an opening bracket on, the search cuts the text at a place exactly if the text up to and
with that place is nested and no shorter start of it is; it fails exactly if there is no such place.
Before the place that it finds, more brackets are opened than closed, whatever their kinds, and what
stands between the two brackets can be split with any separator, as it is and with its blanks
collapsed. -/
theorem splitAtClose_exact (hc : text[start]? = some c) (hopens : opens c = true) :
    (∀ stop, splitAtClose (text.drop start) = .ok (text.extract start stop, text.drop (stop + 1)) ↔
      ClosesAt text start stop) ∧
    ((∃ fault, splitAtClose (text.drop start) = .error fault) ↔
      ¬ ∃ stop, ClosesAt text start stop) ∧
    ∀ stop, splitAtClose (text.drop start) = .ok (text.extract start stop, text.drop (stop + 1)) →
      (∀ before, before <+: text.extract start (stop + 1) → before ≠ [] →
        before ≠ text.extract start (stop + 1) → before.countP closes < before.countP opens) ∧
      ∀ separator,
        (∃ items, splitTop separator (text.extract (start + 1) stop) = .ok items) ∧
        ∃ items,
          splitTop separator (Text.collapse (text.extract (start + 1) stop)) = .ok items := by
  obtain ⟨kind, hkind⟩ := Option.isSome_iff_exists.mp hopens
  obtain ⟨hlt, hget⟩ := List.getElem?_eq_some_iff.mp hc
  have hdrop : text.drop start = c :: text.drop (start + 1) := by
    rw [List.drop_eq_getElem_cons hlt, hget]
  have hfound : ∀ stop, splitAtClose (text.drop start) =
      .ok (text.extract start stop, text.drop (stop + 1)) ↔ ClosesAt text start stop :=
    fun stop => splitAtClose_drop_iff hdrop hkind
  refine ⟨hfound, ?_, fun stop hstop => ?_⟩
  · constructor
    · rintro ⟨fault, hfault⟩ ⟨stop, hstop⟩
      rw [(hfound stop).mpr hstop] at hfault
      cases hfault
    · intro hnone
      cases hsplit : splitAtClose (text.drop start) with
      | error fault => exact ⟨fault, rfl⟩
      | ok parts =>
        rw [hdrop] at hsplit
        obtain ⟨inner, last, -, hrest, hinner, hlast⟩ := (splitAtClose_eq_ok_iff hkind).mp hsplit
        have htext : text.drop start = c :: inner ++ last :: parts.2 := by
          rw [hdrop, hrest, List.cons_append]
        exact absurd ⟨_, (closesAt_iff hdrop hkind).mpr ⟨inner, last, _, htext, rfl, hinner, hlast⟩⟩
          hnone
  · obtain ⟨hopened, hnested⟩ := ((hfound stop).mp hstop).nested_between hdrop hkind
    refine ⟨fun before hbefore hne hproper => ?_, fun separator => ⟨?_, ?_⟩⟩
    · have hrise := hopened before hbefore hne hproper
      rw [rise_eq_count] at hrise
      omega
    · exact exists_splitTop_iff.mpr hnested.isBalanced
    · exact exists_splitTop_iff.mpr hnested.isBalanced.collapse

/-- A parameter list that holds brackets of another kind and blanks to collapse, and after it a
bracket that one of another kind meets first. -/
theorem splitAtClose_exact_sample :
    "m(a, [b,\t c]) (d]".toList[1]? = some '(' ∧ opens '(' = true ∧
      ClosesAt "m(a, [b,\t c]) (d]".toList 1 12 ∧
      (∃ items, splitTop (some ',') (Text.collapse ("m(a, [b,\t c]) (d]".toList.extract 2 12)) =
        .ok items) ∧
      "m(a, [b,\t c]) (d]".toList[14]? = some '(' ∧
      ¬ ∃ stop, ClosesAt "m(a, [b,\t c]) (d]".toList 14 stop := by
  have hopens : opens '(' = true := rfl
  have hlist : "m(a, [b,\t c]) (d]".toList[1]? = some '(' := by decide
  have hlater : "m(a, [b,\t c]) (d]".toList[14]? = some '(' := by decide
  have hcut : splitAtClose ("m(a, [b,\t c]) (d]".toList.drop 1) =
      .ok ("m(a, [b,\t c]) (d]".toList.extract 1 12, "m(a, [b,\t c]) (d]".toList.drop 13) := by
    decide
  have hfault : splitAtClose ("m(a, [b,\t c]) (d]".toList.drop 14) =
      .error (.unbalancedClose ']' "(d]") := by decide
  obtain ⟨hfound, -, hagree⟩ := splitAtClose_exact hlist hopens
  obtain ⟨-, hnone, -⟩ := splitAtClose_exact hlater hopens
  exact ⟨hlist, hopens, (hfound 12).mp hcut, ((hagree 12 hcut).2 (some ',')).2, hlater,
    hnone.mp ⟨_, hfault⟩⟩

end Scaffold.Source
