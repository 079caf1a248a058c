import Scaffold.Proofs.Tokens

/-!
# Depth and separators

A list is cut where no bracket is open, and for that only the depth counts. A piece that closes no
bracket which is not open, and has no separator where none is open, passes through the cut whole;
pieces that end at depth zero are what the list of them is cut into.
-/

namespace Scaffold.Source

variable {outside : Char → Prop} {separator c : Char} {depth : Int} {text rest : Chars}
  {pieces : List Chars}

/-- Where `depth` brackets are open before the text, it closes none that is not open, and no
separator of it stands where none is open. -/
structure IsPiece (separator : Char) (depth : Int) (text : Chars) : Prop where
  opened : ∀ before, before <+: text → 0 ≤ depth + rise before
  whole : ∀ before after, text = before ++ separator :: after → depth + rise before ≠ 0

theorem isPiece_nil_iff : IsPiece separator depth [] ↔ 0 ≤ depth := by
  constructor
  · intro h
    simpa using h.opened [] List.nil_prefix
  · intro hdepth
    constructor
    · intro before hbefore
      rw [List.prefix_nil.mp hbefore, rise_nil]
      omega
    · intro before after heq
      simp at heq

theorem isPiece_cons_iff :
    IsPiece separator depth (c :: rest) ↔
      0 ≤ depth ∧ (c = separator → depth ≠ 0) ∧ IsPiece separator (depth + depthStep c) rest := by
  constructor
  · intro h
    refine ⟨by simpa using h.opened [] List.nil_prefix, ?_, ?_, ?_⟩
    · rintro rfl
      simpa using h.whole [] rest rfl
    · intro before hbefore
      have hopened := h.opened (c :: before) (List.cons_prefix_cons.mpr ⟨rfl, hbefore⟩)
      rwa [rise_cons, ← Int.add_assoc] at hopened
    · intro before after heq
      have hwhole := h.whole (c :: before) after (congrArg (List.cons c) heq)
      rwa [rise_cons, ← Int.add_assoc] at hwhole
  · rintro ⟨hdepth, hc, hrest⟩
    constructor
    · intro before hbefore
      cases before with
      | nil => simpa using hdepth
      | cons d before =>
        obtain ⟨rfl, hstart⟩ := List.cons_prefix_cons.mp hbefore
        rw [rise_cons, ← Int.add_assoc]
        exact hrest.opened before hstart
    · intro before after heq
      cases before with
      | nil => simpa using hc (List.cons.inj heq).1
      | cons d before =>
        obtain ⟨rfl, rfl⟩ := List.cons.inj heq
        rw [rise_cons, ← Int.add_assoc]
        exact hrest.whole before after rfl

instance instDecidableIsPiece (separator : Char) :
    (depth : Int) → (text : Chars) → Decidable (IsPiece separator depth text)
  | depth, [] => decidable_of_iff (0 ≤ depth) isPiece_nil_iff.symm
  | depth, c :: rest =>
    have := instDecidableIsPiece separator (depth + depthStep c) rest
    decidable_of_iff (0 ≤ depth ∧ (c = separator → depth ≠ 0) ∧
      IsPiece separator (depth + depthStep c) rest) isPiece_cons_iff.symm

theorem IsPiece.append (h : IsPiece separator depth text)
    (hrest : IsPiece separator (depth + rise text) rest) :
    IsPiece separator depth (text ++ rest) := by
  induction text generalizing depth with
  | nil => simpa using hrest
  | cons c text ih =>
    obtain ⟨hdepth, hc, htext⟩ := isPiece_cons_iff.mp h
    rw [rise_cons, ← Int.add_assoc] at hrest
    exact isPiece_cons_iff.mpr ⟨hdepth, hc, ih htext hrest⟩

/-- Nested text is a piece where it has no separator of its own, or brackets are open around it. -/
theorem Nested.isPiece (h : Nested outside text) (hdepth : 0 ≤ depth)
    (hseparator : Bracket.opened? separator = none ∧ Bracket.closed? separator = none)
    (houtside : depth = 0 → ∀ c, outside c → c ≠ separator) : IsPiece separator depth text := by
  induction h generalizing depth with
  | nil => exact isPiece_nil_iff.mpr hdepth
  | @plain outside c rest hopened hclosed hc _ ih =>
    have hstep := depthStep_of_unbracketed ⟨hopened, hclosed⟩
    refine isPiece_cons_iff.mpr ⟨hdepth, fun heq hzero => houtside hzero c hc heq, ?_⟩
    rw [hstep, Int.add_zero]
    exact ih hdepth houtside
  | @group outside kind first last inner rest hfirst hlast hinner _ ihinner ih =>
    have hbracket : first ≠ separator ∧ last ≠ separator := by
      constructor <;> rintro rfl <;> simp_all
    have hwithin : IsPiece separator (depth + 1) inner :=
      ihinner (by omega) fun hzero => by omega
    have hafter : IsPiece separator (depth + 1 + rise inner) (last :: rest) := by
      rw [hinner.rise_eq, Int.add_zero]
      refine isPiece_cons_iff.mpr ⟨by omega, fun heq => absurd heq hbracket.2, ?_⟩
      rw [depthStep_of_closed? hlast, Int.add_neg_cancel_right]
      exact ih hdepth houtside
    refine isPiece_cons_iff.mpr ⟨hdepth, fun heq => absurd heq hbracket.1, ?_⟩
    rw [depthStep_of_opened? hfirst]
    exact hwithin.append hafter

/-- The text is a piece that leaves no bracket open. -/
structure IsItem (separator : Char) (text : Chars) : Prop extends IsPiece separator 0 text where
  level : rise text = 0

instance : Decidable (IsItem separator text) :=
  decidable_of_iff (IsPiece separator 0 text ∧ rise text = 0)
    ⟨fun h => ⟨h.1, h.2⟩, fun h => ⟨h.toIsPiece, h.level⟩⟩

theorem IsItem.append (h : IsItem separator text) (hrest : IsItem separator rest) :
    IsItem separator (text ++ rest) := by
  refine ⟨h.toIsPiece.append ?_, ?_⟩
  · rw [h.level]
    exact hrest.toIsPiece
  · rw [rise_append, h.level, hrest.level]
    rfl

theorem Nested.isItem (h : Nested (· ≠ separator) text)
    (hseparator : Bracket.opened? separator = none ∧ Bracket.closed? separator = none) :
    IsItem separator text :=
  ⟨h.isPiece (Int.le_refl 0) hseparator fun _ _ hc => hc, h.rise_eq⟩

/-! ## Cutting -/

/-- A character that closes no bracket which is not open takes the depth one step further. -/
theorem natCast_depth {depth : Nat} (h : ¬ (closes c && depth = 0) = true) :
    ((if opens c then depth + 1 else if closes c then depth - 1 else depth : Nat) : Int) =
      depth + depthStep c := by
  unfold depthStep
  split_ifs with hopens hcloses
  · rfl
  · have hpositive : depth ≠ 0 := by simpa [hcloses] using h
    omega
  · omega

/-- One character further, the cut has the depth after that character. -/
theorem topPieces_cons {depth next : Nat} (hnext : (next : Int) = depth + depthStep c)
    (hcut : c = separator → next ≠ 0) :
    topPieces (some separator) depth (c :: rest) =
      (topPieces (some separator) next rest).map (Text.consHead c) := by
  have hdepth : (if opens c then depth + 1 else if closes c then depth - 1 else depth) = next := by
    unfold depthStep at hnext
    split_ifs at hnext ⊢ <;> omega
  have hclose : ¬ (closes c && depth = 0) = true := by
    intro h
    obtain ⟨hcloses, hzero⟩ : closes c = true ∧ depth = 0 := by simpa using h
    obtain ⟨kind, hkind⟩ := Option.isSome_iff_exists.mp hcloses
    simp [depthStep_of_closed? hkind, hzero] at hnext
  have hkeep : ¬ (some separator = some c && next = 0) = true := by
    intro h
    obtain ⟨rfl, hzero⟩ : separator = c ∧ next = 0 := by simpa using h
    exact hcut rfl hzero
  rw [topPieces, if_neg hclose]
  simp only [hdepth]
  rw [if_neg hkeep]

/-- At depth zero a separator ends a piece. -/
theorem topPieces_separator
    (hseparator : Bracket.opened? separator = none ∧ Bracket.closed? separator = none) :
    topPieces (some separator) 0 (separator :: rest) =
      (topPieces (some separator) 0 rest).map ([] :: ·) := by
  simp [topPieces, opens, closes, hseparator]

/-- The cut passes over a piece. -/
theorem topPieces_append {depth next : Nat} (h : IsPiece separator depth text)
    (hseparator : Bracket.opened? separator = none ∧ Bracket.closed? separator = none)
    (hnext : (next : Int) = depth + rise text) (rest : Chars) :
    topPieces (some separator) depth (text ++ rest) =
      (topPieces (some separator) next rest).map fun pieces =>
        text.foldr Text.consHead pieces := by
  induction text generalizing depth with
  | nil =>
    obtain rfl : next = depth := by
      rw [rise_nil] at hnext
      omega
    rw [List.nil_append]
    cases topPieces (some separator) next rest <;> rfl
  | cons c text ih =>
    obtain ⟨-, hc, htext⟩ := isPiece_cons_iff.mp h
    obtain ⟨middle, hmiddle⟩ : ∃ middle : Nat, (middle : Int) = depth + depthStep c :=
      ⟨_, Int.toNat_of_nonneg (by simpa using htext.opened [] List.nil_prefix)⟩
    have hcut : c = separator → middle ≠ 0 := by
      rintro rfl
      have hdepth := hc rfl
      rw [depthStep_of_unbracketed hseparator] at hmiddle
      omega
    rw [← hmiddle] at htext
    rw [rise_cons, ← Int.add_assoc, ← hmiddle] at hnext
    rw [List.cons_append, topPieces_cons hmiddle hcut, ih htext hnext]
    cases topPieces (some separator) next rest <;> rfl

/-- Where no bracket is open, the cut passes over an item and has none open after it. -/
theorem topPieces_append_item (h : IsItem separator text)
    (hseparator : Bracket.opened? separator = none ∧ Bracket.closed? separator = none)
    (rest : Chars) :
    topPieces (some separator) 0 (text ++ rest) =
      (topPieces (some separator) 0 rest).map fun pieces => text.foldr Text.consHead pieces := by
  have hnext : ((0 : Nat) : Int) = (0 : Nat) + rise text := by simp [h.level]
  exact topPieces_append h.toIsPiece hseparator hnext rest

theorem foldr_consHead (inner piece : Chars) (pieces : List Chars) :
    inner.foldr Text.consHead (piece :: pieces) = (inner ++ piece) :: pieces := by
  induction inner with
  | nil => rfl
  | cons c rest ih => rw [List.foldr_cons, ih, Text.consHead, List.cons_append]

/-- Items with separators between them are cut into themselves. -/
theorem topPieces_join {first : Chars} {others : List Chars}
    (hseparator : Bracket.opened? separator = none ∧ Bracket.closed? separator = none)
    (h : ∀ item ∈ first :: others, IsItem separator item) :
    topPieces (some separator) 0 ([separator].intercalate (first :: others)) =
      .ok (first :: others) := by
  induction others generalizing first with
  | nil =>
    have hpass := topPieces_append_item (h first (by simp)) hseparator []
    simpa [topPieces, Except.map, foldr_consHead] using hpass
  | cons second others ih =>
    obtain ⟨hfirst, hothers⟩ := List.forall_mem_cons.mp h
    rw [List.intercalate_cons_cons, List.append_assoc, topPieces_append_item hfirst hseparator,
      List.singleton_append, topPieces_separator hseparator, ih hothers]
    simp [Except.map, foldr_consHead]

/-- One character of a text that is cut: it ends a piece, or it goes to the first of the later
pieces. -/
theorem topPieces_cons_cases {depth : Nat}
    (h : topPieces (some separator) depth (c :: rest) = .ok pieces) :
    ∃ (next : Nat) (others : List Chars), (next : Int) = depth + depthStep c ∧
      topPieces (some separator) next rest = .ok others ∧
      (c = separator ∧ next = 0 ∧ pieces = [] :: others ∨
        (c = separator → next ≠ 0) ∧ pieces = Text.consHead c others) := by
  rw [topPieces] at h
  simp only at h
  split at h
  · cases h
  · next hclose =>
    have hnext := natCast_depth hclose
    generalize (if opens c then depth + 1 else if closes c then depth - 1 else depth) = inner
      at h hnext
    split_ifs at h with hcut
    · obtain ⟨others, hothers, rfl⟩ := map_eq_ok h
      obtain ⟨rfl, rfl⟩ : separator = c ∧ inner = 0 := by simpa using hcut
      exact ⟨0, others, hnext, hothers, .inl ⟨rfl, rfl, rfl⟩⟩
    · obtain ⟨others, hothers, rfl⟩ := map_eq_ok h
      refine ⟨inner, others, hnext, hothers, .inr ⟨?_, rfl⟩⟩
      rintro rfl hzero
      exact hcut (by simp [hzero])

/-- A text is made of the pieces that it is cut into, with separators between them. -/
theorem intercalate_topPieces {depth : Nat}
    (h : topPieces (some separator) depth text = .ok pieces) :
    pieces ≠ [] ∧ [separator].intercalate pieces = text := by
  induction text generalizing depth pieces with
  | nil =>
    rw [topPieces] at h
    split_ifs at h
    obtain rfl := Except.ok.inj h
    simp
  | cons c rest ih =>
    obtain ⟨next, others, -, hrest, hcases⟩ := topPieces_cons_cases h
    obtain ⟨hne, hjoined⟩ := ih hrest
    obtain ⟨first, more, rfl⟩ := List.exists_cons_of_ne_nil hne
    rcases hcases with ⟨rfl, -, rfl⟩ | ⟨-, rfl⟩
    · exact ⟨by simp, by rw [List.intercalate_cons_cons, hjoined]; rfl⟩
    · refine ⟨by simp [Text.consHead], ?_⟩
      rw [← hjoined]
      cases more <;> simp [Text.consHead, List.intercalate_cons_cons]

/-- The items of a list are its pieces, trimmed, where that leaves something. -/
theorem exists_of_splitTop {separator : Option Char} {items : List Chars}
    (h : splitTop separator text = .ok items) :
    ∃ pieces, topPieces separator 0 text = .ok pieces ∧
      items = (pieces.map Text.trim).filter fun piece => !piece.isEmpty := by
  unfold splitTop at h
  split at h
  · next pieces hpieces => exact ⟨pieces, hpieces, (Except.ok.inj h).symm⟩
  · cases h
  · cases h

private theorem intercalate_gap (gap first : Chars) (others : List Chars) :
    (separator :: gap).intercalate (first :: others) =
      [separator].intercalate (first :: others.map (gap ++ ·)) := by
  induction others generalizing first with
  | nil => simp
  | cons second others ih =>
    cases others <;> simp_all [List.intercalate_cons_cons]

/-- Trimmed items are what the list of them splits into, with any blanks after its separators. -/
theorem splitTop_join {gap : Chars} {items : List Chars}
    (hseparator : Bracket.opened? separator = none ∧ Bracket.closed? separator = none)
    (hgap : ∀ c ∈ gap, Text.isBlank c = true ∧ c ≠ separator)
    (h : ∀ item ∈ items, IsItem separator item ∧ Text.IsTrimmed item ∧ item ≠ []) :
    splitTop (some separator) ((separator :: gap).intercalate items) = .ok items := by
  cases items with
  | nil => rfl
  | cons first others =>
    obtain ⟨⟨hfirst, htrimmed, -⟩, hothers⟩ := List.forall_mem_cons.mp h
    have hgapItem : IsItem separator gap :=
      Nested.isItem (.of_plain fun c hc => ⟨unbracketed_of_isBlank (hgap c hc).1, (hgap c hc).2⟩)
        hseparator
    have hpieces := @topPieces_join separator first (others.map (gap ++ ·)) hseparator (by
      simp only [List.forall_mem_cons, List.forall_mem_map]
      exact ⟨hfirst, fun item hitem => hgapItem.append (hothers item hitem).1⟩)
    have htrim : (first :: others.map (gap ++ ·)).map Text.trim = first :: others := by
      rw [List.map_cons, List.map_map, htrimmed.trim_eq, List.cons.injEq]
      refine ⟨rfl, (List.map_congr_left fun item hitem => ?_).trans (List.map_id _)⟩
      rw [Function.comp_apply, Text.trim_blank_append fun c hc => (hgap c hc).1,
        (hothers item hitem).2.1.trim_eq, id]
    rw [intercalate_gap, splitTop, hpieces]
    simp only [htrim]
    rw [List.filter_eq_self.mpr]
    exact fun item hitem => by simpa using (h item hitem).2.2

/-- Nested text is cut into nested pieces without commas of their own: what has nothing to cut in it
goes to the first of the later pieces. -/
theorem nested_of_topPieces (h : Nested outside text)
    (hpieces : topPieces (some ',') 0 text = .ok pieces) :
    pieces ≠ [] ∧ ∀ piece ∈ pieces, Nested (· ≠ ',') piece := by
  have hjoin : ∀ {start rest : Chars} {pieces : List Chars}, Nested (· ≠ ',') start →
      (∀ {pieces : List Chars}, topPieces (some ',') 0 rest = .ok pieces →
        pieces ≠ [] ∧ ∀ piece ∈ pieces, Nested (· ≠ ',') piece) →
      topPieces (some ',') 0 (start ++ rest) = .ok pieces →
        pieces ≠ [] ∧ ∀ piece ∈ pieces, Nested (· ≠ ',') piece := by
    intro start rest pieces hstart ih hpieces
    rw [topPieces_append_item (hstart.isItem ⟨rfl, rfl⟩) ⟨rfl, rfl⟩] at hpieces
    obtain ⟨found, hfound, rfl⟩ := map_eq_ok hpieces
    obtain ⟨hne, hnested⟩ := ih hfound
    obtain ⟨piece, others, rfl⟩ := List.exists_cons_of_ne_nil hne
    obtain ⟨hpiece, hothers⟩ := List.forall_mem_cons.mp hnested
    rw [foldr_consHead]
    exact ⟨by simp, List.forall_mem_cons.mpr ⟨hstart.append hpiece, hothers⟩⟩
  induction h generalizing pieces with
  | nil =>
    cases hpieces
    simpa using Nested.nil
  | @plain _ c rest hopened hclosed _ _ ih =>
    by_cases hcomma : c = ','
    · subst hcomma
      rw [topPieces_separator ⟨rfl, rfl⟩] at hpieces
      obtain ⟨others, hothers, rfl⟩ := map_eq_ok hpieces
      simpa using ⟨Nested.nil, (ih hothers).2⟩
    · exact hjoin (.plain hopened hclosed hcomma .nil) ih hpieces
  | @group _ _ first last inner rest hfirst hlast hinner _ _ ih =>
    have hassoc : first :: inner ++ last :: rest = (first :: inner ++ [last]) ++ rest := by simp
    rw [hassoc] at hpieces
    exact hjoin (.group hfirst hlast hinner .nil) ih hpieces

end Scaffold.Source
