import Scaffold.Proofs.Balance

/-!
# Cuts at the top level

A text can be cut where no bracket is open exactly if its brackets balance, whatever their kinds: no
start of it closes more of them than it opens, and the whole closes all. Its pieces are then the
only balanced texts without separators outside their brackets that make it up. The items of the list
are those pieces without the blanks around them, and joined again they are cut into themselves.
-/

namespace Scaffold.Source

variable {separator c : Char} {text piece rest : Chars} {pieces : List Chars}

/-! ## Balance -/

/-- The brackets of the text balance, whatever their kinds: no start of it closes more of them than
it opens, and the whole closes as many as it opens. -/
structure IsBalanced (text : Chars) : Prop where
  opened : ∀ before, before <+: text → before.countP closes ≤ before.countP opens
  closed : text.countP closes = text.countP opens

/-- Every separator of the text stands inside brackets of the text. -/
def KeepsInside (separator : Char) (text : Chars) : Prop :=
  ∀ before after, text = before ++ separator :: after →
    before.countP closes < before.countP opens

/-- The pieces make up the text with separators between them; each is balanced and keeps its own
separators inside its brackets. -/
structure IsCut (separator : Char) (text : Chars) (pieces : List Chars) : Prop where
  ne_nil : pieces ≠ []
  join : [separator].intercalate pieces = text
  balanced : ∀ piece ∈ pieces, IsBalanced piece
  inside : ∀ piece ∈ pieces, KeepsInside separator piece

theorem closes_eq_false_of_opens (h : opens c = true) : closes c = false := by
  obtain ⟨kind, hkind⟩ := Option.isSome_iff_exists.mp h
  cases hclosed : Bracket.closed? c with
  | none => simp [closes, hclosed]
  | some other => simp [opened?_of_closed? hclosed] at hkind

/-- The depth is what is opened less what is closed. -/
theorem rise_eq_count (text : Chars) : rise text = text.countP opens - text.countP closes := by
  induction text with
  | nil => rfl
  | cons c rest ih =>
    rw [rise_cons, ih, List.countP_cons, List.countP_cons, depthStep]
    by_cases hopens : opens c = true
    · simp only [hopens, closes_eq_false_of_opens hopens, if_true, Bool.false_eq_true, if_false]
      omega
    · by_cases hcloses : closes c = true
      · simp only [hopens, hcloses, if_true, Bool.false_eq_true, if_false]
        omega
      · simp only [hopens, hcloses, Bool.false_eq_true, if_false]
        omega

/-- Depth never falls below zero and ends there. -/
theorem isBalanced_iff :
    IsBalanced text ↔ (∀ before, before <+: text → 0 ≤ rise before) ∧ rise text = 0 := by
  simp only [rise_eq_count]
  constructor
  · intro h
    refine ⟨fun before hbefore => ?_, ?_⟩
    · have hopened := h.opened before hbefore
      omega
    · have hclosed := h.closed
      omega
  · rintro ⟨hopened, hclosed⟩
    refine ⟨fun before hbefore => ?_, ?_⟩
    · have hcount := hopened before hbefore
      omega
    · omega

/-- The pieces of a cut are items. -/
theorem isItem_iff : IsItem separator piece ↔ IsBalanced piece ∧ KeepsInside separator piece := by
  rw [isBalanced_iff]
  constructor
  · intro h
    have hopened : ∀ before, before <+: piece → 0 ≤ rise before := by
      intro before hbefore
      simpa using h.opened before hbefore
    refine ⟨⟨hopened, h.level⟩, fun before after heq => ?_⟩
    have hwhole := h.whole before after heq
    have hbefore := hopened before ⟨separator :: after, heq.symm⟩
    rw [rise_eq_count] at hwhole hbefore
    omega
  · rintro ⟨⟨hopened, hlevel⟩, hinside⟩
    refine ⟨⟨fun before hbefore => ?_, fun before after heq => ?_⟩, hlevel⟩
    · simpa using hopened before hbefore
    · have hless := hinside before after heq
      rw [rise_eq_count]
      omega

/-! ## When a text can be cut -/

/-- From depth `depth` on, a text can be cut exactly if no start of it closes a bracket that is not
open and the whole leaves none open. -/
theorem exists_topPieces_iff {separator : Option Char} {depth : Nat} :
    (∃ pieces, topPieces separator depth text = .ok pieces) ↔
      (∀ before, before <+: text → 0 ≤ depth + rise before) ∧ depth + rise text = 0 := by
  induction text generalizing depth with
  | nil =>
    rw [topPieces]
    split_ifs with hdepth
    · simp [hdepth]
    · simp [hdepth]
  | cons c rest ih =>
    have hlater : ∀ (cut : Bool) (later : Except DepthFault (List Chars)),
        (∃ pieces, (if cut then later.map ([] :: ·) else later.map (Text.consHead c)) =
          .ok pieces) ↔ ∃ pieces, later = .ok pieces := by
      intro cut later
      cases cut <;> cases later <;> simp [Except.map]
    have hstarts : (∀ before, before <+: c :: rest → 0 ≤ depth + rise before) ↔
        ∀ before, before <+: rest → 0 ≤ depth + rise (c :: before) := by
      constructor
      · exact fun h before hbefore => h _ (List.cons_prefix_cons.mpr ⟨rfl, hbefore⟩)
      · intro h before hbefore
        rcases List.prefix_cons_iff.mp hbefore with rfl | ⟨start, rfl, hstart⟩
        · simp
        · exact h start hstart
    rw [topPieces, hstarts]
    by_cases hstray : (closes c && depth = 0) = true
    · obtain ⟨hcloses, rfl⟩ : closes c = true ∧ depth = 0 := by simpa using hstray
      obtain ⟨kind, hkind⟩ := Option.isSome_iff_exists.mp hcloses
      rw [if_pos hstray]
      refine iff_of_false (by simp) fun h => ?_
      simpa [depthStep_of_closed? hkind] using h.1 [] List.nil_prefix
    · rw [if_neg hstray]
      simp only [hlater]
      rw [ih, natCast_depth hstray]
      simp only [rise_cons, Int.add_assoc]

/-- What a text is cut into are items, the first of which goes on at the depth before the text. -/
theorem isItem_of_topPieces {depth : Nat} {first : Chars} {others : List Chars}
    (hseparator : Bracket.opened? separator = none ∧ Bracket.closed? separator = none)
    (h : topPieces (some separator) depth text = .ok (first :: others)) :
    IsPiece separator depth first ∧ depth + rise first = 0 ∧
      ∀ other ∈ others, IsItem separator other := by
  induction text generalizing depth first others with
  | nil =>
    rw [topPieces] at h
    split_ifs at h with hdepth
    obtain ⟨rfl, rfl⟩ := List.cons.inj (Except.ok.inj h)
    exact ⟨isPiece_nil_iff.mpr (by omega), by simp [hdepth], List.forall_mem_nil _⟩
  | cons c rest ih =>
    obtain ⟨next, later, hnext, hlater, hcases⟩ := topPieces_cons_cases h
    obtain ⟨second, more, rfl⟩ := List.exists_cons_of_ne_nil (intercalate_topPieces hlater).1
    obtain ⟨hpiece, hlevel, hitems⟩ := ih hlater
    rcases hcases with ⟨rfl, rfl, heq⟩ | ⟨hkeep, heq⟩
    · obtain ⟨rfl, rfl⟩ := List.cons.inj heq
      rw [depthStep_of_unbracketed hseparator] at hnext
      refine ⟨isPiece_nil_iff.mpr (by omega), by rw [rise_nil]; omega, ?_⟩
      exact List.forall_mem_cons.mpr ⟨⟨hpiece, by omega⟩, hitems⟩
    · obtain ⟨rfl, rfl⟩ := List.cons.inj heq
      refine ⟨isPiece_cons_iff.mpr ⟨by omega, fun hc hzero => ?_, hnext ▸ hpiece⟩, ?_, hitems⟩
      · subst hc
        rw [depthStep_of_unbracketed hseparator] at hnext
        exact hkeep rfl (by omega)
      · rw [rise_cons]
        omega

/-! ## The one cut of a text -/

theorem isCut_iff : IsCut separator text pieces ↔
    pieces ≠ [] ∧ [separator].intercalate pieces = text ∧
      ∀ piece ∈ pieces, IsItem separator piece := by
  simp only [isItem_iff]
  constructor
  · intro h
    exact ⟨h.ne_nil, h.join, fun piece hpiece => ⟨h.balanced piece hpiece, h.inside piece hpiece⟩⟩
  · rintro ⟨hne, hjoin, hpieces⟩
    exact ⟨hne, hjoin, fun piece hpiece => (hpieces piece hpiece).1,
      fun piece hpiece => (hpieces piece hpiece).2⟩

/-- The scan finds a cut of the text, and finds no other. -/
theorem topPieces_ok_iff
    (hseparator : Bracket.opened? separator = none ∧ Bracket.closed? separator = none) :
    topPieces (some separator) 0 text = .ok pieces ↔ IsCut separator text pieces := by
  rw [isCut_iff]
  constructor
  · intro h
    obtain ⟨hne, hjoin⟩ := intercalate_topPieces h
    obtain ⟨first, others, rfl⟩ := List.exists_cons_of_ne_nil hne
    obtain ⟨hpiece, hlevel, hothers⟩ := isItem_of_topPieces hseparator h
    refine ⟨hne, hjoin, List.forall_mem_cons.mpr ⟨⟨hpiece, by omega⟩, hothers⟩⟩
  · rintro ⟨hne, rfl, hitems⟩
    obtain ⟨first, others, rfl⟩ := List.exists_cons_of_ne_nil hne
    exact topPieces_join hseparator hitems

/-- A text has a cut exactly if its brackets balance. -/
theorem exists_isCut_iff
    (hseparator : Bracket.opened? separator = none ∧ Bracket.closed? separator = none) :
    (∃ pieces, IsCut separator text pieces) ↔ IsBalanced text := by
  simp only [← topPieces_ok_iff hseparator, exists_topPieces_iff, isBalanced_iff,
    Int.natCast_zero, Int.zero_add]

/-! ## Items -/

/-- Blanks around an item are no part of what makes it one. -/
theorem IsItem.trim (h : IsItem separator piece) : IsItem separator (Text.trim piece) := by
  obtain ⟨before, after, htext, hbefore, hafter⟩ := Text.exists_trim piece
  have hrise : ∀ {blanks : Chars}, (∀ c ∈ blanks, Text.isBlank c = true) → rise blanks = 0 := by
    intro blanks hblanks
    induction blanks with
    | nil => rfl
    | cons c rest ih =>
      obtain ⟨hc, hrest⟩ := List.forall_mem_cons.mp hblanks
      rw [rise_cons, depthStep_of_isBlank hc, ih hrest]
      rfl
  have hwhole : rise piece = rise (Text.trim piece) := by
    conv_lhs => rw [htext]
    rw [rise_append, rise_append, hrise hbefore, hrise hafter]
    omega
  refine ⟨⟨fun start hstart => ?_, fun start rest heq => ?_⟩, hwhole ▸ h.level⟩
  · obtain ⟨rest, hrest⟩ := hstart
    have hopened := h.opened (before ++ start) ⟨rest ++ after, by rw [htext, ← hrest]; simp⟩
    rwa [rise_append, hrise hbefore, Int.zero_add] at hopened
  · have hkept := h.whole (before ++ start) (rest ++ after) (by rw [htext, heq]; simp)
    rwa [rise_append, hrise hbefore, Int.zero_add] at hkept

/-- The pieces without the blanks around them; those that hold nothing else are left out. -/
def trimmedItems (pieces : List Chars) : List Chars :=
  (pieces.map Text.trim).filter fun item => !item.isEmpty

theorem splitTop_eq_ok_iff
    (hseparator : Bracket.opened? separator = none ∧ Bracket.closed? separator = none)
    {items : List Chars} :
    splitTop (some separator) text = .ok items ↔
      ∃ pieces, IsCut separator text pieces ∧ items = trimmedItems pieces := by
  simp only [← topPieces_ok_iff hseparator]
  unfold splitTop
  cases topPieces (some separator) 0 text with
  | ok pieces =>
    constructor
    · intro h
      exact ⟨pieces, rfl, (Except.ok.inj h).symm⟩
    · rintro ⟨others, hothers, rfl⟩
      rw [Except.ok.inj hothers]
      rfl
  | error fault => cases fault <;> simp

/-- With any separator, or none, the texts that can be split are those whose brackets balance. -/
theorem exists_splitTop_iff {separator : Option Char} :
    (∃ items, splitTop separator text = .ok items) ↔ IsBalanced text := by
  have hcut := @exists_topPieces_iff text separator 0
  rw [Int.natCast_zero] at hcut
  simp only [Int.zero_add] at hcut
  rw [isBalanced_iff, ← hcut]
  unfold splitTop
  cases topPieces separator 0 text with
  | ok pieces => simp
  | error fault => cases fault <;> simp

theorem splitTop_error_iff {separator : Option Char} :
    (∃ fault, splitTop separator text = .error fault) ↔ ¬ IsBalanced text := by
  rw [← @exists_splitTop_iff text separator]
  cases splitTop separator text <;> simp

/-- The items of a list, joined again, are split into themselves. -/
theorem splitTop_trimmedItems
    (hseparator : Bracket.opened? separator = none ∧ Bracket.closed? separator = none)
    (h : IsCut separator text pieces) :
    splitTop (some separator) ([separator].intercalate (trimmedItems pieces)) =
      .ok (trimmedItems pieces) := by
  refine splitTop_join hseparator (List.forall_mem_nil _) fun item hitem => ?_
  obtain ⟨hmem, hne⟩ := List.mem_filter.mp hitem
  obtain ⟨piece, hpiece, rfl⟩ := List.mem_map.mp hmem
  exact ⟨((isCut_iff.mp h).2.2 piece hpiece).trim, Text.isTrimmed_trim piece, by simpa using hne⟩

/-- A list is refused exactly if some start of it closes more brackets than it opens, or the whole
does not close as many as it opens. Otherwise it is in one way only made of balanced pieces with
separators between them and none outside their brackets; its items are those pieces without the
blanks around them, the empty ones left out; and the items with separators between them are split
into the same items. -/
theorem splitTop_exact (hopens : opens separator = false) (hcloses : closes separator = false)
    (text : Chars) :
    ((∃ fault, splitTop (some separator) text = .error fault) ↔
      (∃ before, before <+: text ∧ before.countP opens < before.countP closes) ∨
        text.countP opens ≠ text.countP closes) ∧
    (¬ ((∃ before, before <+: text ∧ before.countP opens < before.countP closes) ∨
        text.countP opens ≠ text.countP closes) →
      ∃ pieces items, IsCut separator text pieces ∧
        (∀ others, IsCut separator text others → others = pieces) ∧
        items = trimmedItems pieces ∧ splitTop (some separator) text = .ok items ∧
        splitTop (some separator) ([separator].intercalate items) = .ok items) := by
  have hseparator : Bracket.opened? separator = none ∧ Bracket.closed? separator = none :=
    ⟨by simpa [opens] using hopens, by simpa [closes] using hcloses⟩
  have hbalanced : IsBalanced text ↔
      ¬ ((∃ before, before <+: text ∧ before.countP opens < before.countP closes) ∨
        text.countP opens ≠ text.countP closes) := by
    constructor
    · rintro h (⟨before, hbefore, hless⟩ | hne)
      · have hopened := h.opened before hbefore
        omega
      · exact hne h.closed.symm
    · intro h
      obtain ⟨hstarts, htotal⟩ := not_or.mp h
      refine ⟨fun before hbefore => ?_, (not_not.mp htotal).symm⟩
      exact Nat.not_lt.mp fun hless => hstarts ⟨before, hbefore, hless⟩
  refine ⟨by rw [splitTop_error_iff, hbalanced, not_not], fun h => ?_⟩
  obtain ⟨pieces, hcut⟩ := (exists_isCut_iff hseparator).mpr (hbalanced.mpr h)
  refine ⟨pieces, trimmedItems pieces, hcut, fun others hothers => ?_, rfl,
    (splitTop_eq_ok_iff hseparator).mpr ⟨pieces, hcut, rfl⟩, splitTop_trimmedItems hseparator hcut⟩
  have hsame := (topPieces_ok_iff hseparator).mpr hothers
  rw [(topPieces_ok_iff hseparator).mpr hcut] at hsame
  exact (Except.ok.inj hsame).symm

/-- A list with an empty piece, separators inside brackets, a bracket closed by another kind, and a
separator at its end. -/
theorem splitTop_exact_sample :
    opens ',' = false ∧ closes ',' = false ∧
      ∃ pieces, IsCut ',' "f map[k, v]t ,, (a, \x7bb\x7d],".toList pieces ∧
        (∀ others, IsCut ',' "f map[k, v]t ,, (a, \x7bb\x7d],".toList others → others = pieces) ∧
        trimmedItems pieces = ["f map[k, v]t".toList, "(a, \x7bb\x7d]".toList] ∧
        splitTop (some ',') "f map[k, v]t,(a, \x7bb\x7d]".toList =
          .ok ["f map[k, v]t".toList, "(a, \x7bb\x7d]".toList] := by
  have hopens : opens ',' = false := rfl
  have hcloses : closes ',' = false := rfl
  have hsplit : splitTop (some ',') "f map[k, v]t ,, (a, \x7bb\x7d],".toList =
      .ok ["f map[k, v]t".toList, "(a, \x7bb\x7d]".toList] := by decide
  obtain ⟨herror, hexact⟩ := splitTop_exact hopens hcloses "f map[k, v]t ,, (a, \x7bb\x7d],".toList
  obtain ⟨pieces, items, hcut, hunique, rfl, hitems, hagain⟩ := hexact fun hbad => by
    obtain ⟨fault, hfault⟩ := herror.mpr hbad
    rw [hsplit] at hfault
    cases hfault
  rw [hsplit] at hitems
  rw [← Except.ok.inj hitems] at hagain
  exact ⟨hopens, hcloses, pieces, hcut, hunique, (Except.ok.inj hitems).symm, hagain⟩

end Scaffold.Source
