import Scaffold.Proofs.TopLevel

/-!
# Rows of tokens

Unlike a list, a text is cut into tokens whether its brackets balance or not: depth may fall below
zero, and may stay open to the end. Its tokens are a normal form all the same. They are the only row
of tokens that the text spreads out with blanks, so nothing but blanks is lost, and the row with
single spaces is cut into itself.
-/

namespace Scaffold.Source

variable {c : Char} {depth : Int} {text token rest gap : Chars} {tokens others : List Chars}

/-! ## Tokens -/

/-- The text can be a token: it is not empty, no blank stands at its ends, and where a blank stands
in it, the brackets opened and closed before the blank differ in number. -/
structure IsToken (token : Chars) : Prop where
  ne_nil : token ≠ []
  trimmed : Text.IsTrimmed token
  solid : ∀ before c after, token = before ++ c :: after → Text.isBlank c = true →
    before.countP opens ≠ before.countP closes

/-- The list can be the tokens of a text: each is a token, and all but the last close as many
brackets as they open. -/
structure IsTokenRow (tokens : List Chars) : Prop where
  token : ∀ token ∈ tokens, IsToken token
  level : ∀ token ∈ tokens.dropLast, token.countP opens = token.countP closes

theorem isSolid_iff : IsSolid depth text ↔
    ∀ before c after, text = before ++ c :: after → Text.isBlank c = true →
      depth + rise before ≠ 0 := by
  induction text generalizing depth with
  | nil => simp [IsSolid]
  | cons d rest ih =>
    rw [IsSolid, ih]
    constructor
    · rintro ⟨hfirst, hrest⟩ before c after heq hblank
      cases before with
      | nil =>
        obtain ⟨rfl, -⟩ := List.cons.inj heq
        rw [depthStep_of_isBlank hblank] at hfirst
        exact fun hzero => hfirst ⟨hblank, hzero⟩
      | cons e before =>
        obtain ⟨rfl, rfl⟩ := List.cons.inj heq
        rw [rise_cons, ← Int.add_assoc]
        exact hrest before c after rfl hblank
    · intro h
      refine ⟨?_, fun before c after heq hblank => ?_⟩
      · rintro ⟨hblank, hzero⟩
        rw [depthStep_of_isBlank hblank] at hzero
        exact h [] d rest rfl hblank hzero
      · have hlater := h (d :: before) c after (congrArg (List.cons d) heq) hblank
        rwa [rise_cons, ← Int.add_assoc] at hlater

theorem rise_eq_zero_iff : rise text = 0 ↔ text.countP opens = text.countP closes := by
  rw [rise_eq_count]
  omega

/-- A token that ends where no bracket is open ends with no blank. -/
theorem IsSolid.stop (h : IsSolid 0 token) (hrise : rise token = 0) :
    ∀ c ∈ token.getLast?, Text.isBlank c = false := by
  intro c hc
  obtain ⟨before, rfl⟩ := List.getLast?_eq_some_iff.mp hc
  rw [Bool.eq_false_iff]
  intro hblank
  apply isSolid_iff.mp h before c [] rfl hblank
  rw [rise_append, rise_cons, depthStep_of_isBlank hblank, rise_nil] at hrise
  omega

theorem IsSolid.isToken (h : IsSolid 0 token) (hne : token ≠ []) (htrimmed : Text.IsTrimmed token) :
    IsToken token := by
  refine ⟨hne, htrimmed, fun before c after heq hblank hcount => ?_⟩
  apply isSolid_iff.mp h before c after heq hblank
  rw [rise_eq_zero_iff.mpr hcount, Int.add_zero]

theorem IsToken.isSolid (h : IsToken token) : IsSolid 0 token := by
  refine isSolid_iff.mpr fun before c after heq hblank hzero => ?_
  rw [Int.zero_add] at hzero
  exact h.solid before c after heq hblank (rise_eq_zero_iff.mp hzero)

theorem IsTokens.isTokenRow (h : IsTokens tokens) : IsTokenRow tokens := by
  induction h with
  | nil => exact ⟨List.forall_mem_nil _, List.forall_mem_nil _⟩
  | last hne hsolid hstop =>
    have htrimmed : Text.IsTrimmed _ := ⟨(IsTokens.last hne hsolid hstop).start, hstop⟩
    exact ⟨by simpa using hsolid.isToken hne htrimmed, by simp⟩
  | cons hne hsolid hrise hothers htokens ih =>
    have htrimmed : Text.IsTrimmed _ :=
      ⟨(IsTokens.cons hne hsolid hrise hothers htokens).start, hsolid.stop hrise⟩
    constructor
    · exact List.forall_mem_cons.mpr ⟨hsolid.isToken hne htrimmed, ih.token⟩
    · rw [List.dropLast_cons_of_ne_nil hothers]
      exact List.forall_mem_cons.mpr ⟨rise_eq_zero_iff.mp hrise, ih.level⟩

theorem IsTokenRow.isTokens (h : IsTokenRow tokens) : IsTokens tokens := by
  induction tokens with
  | nil => exact .nil
  | cons token others ih =>
    obtain ⟨htoken, hothers⟩ := List.forall_mem_cons.mp h.token
    cases others with
    | nil => exact .last htoken.ne_nil htoken.isSolid htoken.trimmed.stop
    | cons second more =>
      obtain ⟨hlevel, hlater⟩ := List.forall_mem_cons.mp h.level
      exact .cons htoken.ne_nil htoken.isSolid (rise_eq_zero_iff.mpr hlevel) (by simp)
        (ih ⟨hothers, hlater⟩)

/-! ## The tokens of a text -/

/-- Nothing is lost but blanks. -/
theorem IsSpread.filter_eq (h : IsSpread tokens text) :
    (text.filter fun c => !Text.isBlank c) = tokens.flatten.filter fun c => !Text.isBlank c := by
  have hgap : ∀ {gap : Chars}, (∀ c ∈ gap, Text.isBlank c = true) →
      (gap.filter fun c => !Text.isBlank c) = [] := by
    intro gap hblank
    simpa using hblank
  induction h with
  | nil hblank => rw [hgap hblank, List.flatten_nil, List.filter_nil]
  | cons hblank _ _ ih =>
    rw [List.filter_append, List.filter_append, hgap hblank, ih, List.flatten_cons,
      List.filter_append, List.nil_append]

/-- The tokens of a text are the one row of tokens that the text spreads. -/
theorem splitTokens_eq_iff :
    splitTokens text = tokens ↔ IsTokenRow tokens ∧ IsSpread tokens text := by
  constructor
  · rintro rfl
    exact ⟨(isTokens_splitTokens text).isTokenRow, isSpread_splitTokens text⟩
  · rintro ⟨hrow, hspread⟩
    exact hrow.isTokens.splitTokens_spread hspread

/-- The tokens of any text, balanced or not, are not empty, begin and end without blanks, and have
none where as many of their brackets are opened as closed; all but the last close as many as they
open. They hold all of the text but blanks, and with single spaces between them they are cut into
themselves. The text spreads no other row of tokens. -/
theorem splitTokens_normal_form (text : Chars) :
    IsTokenRow (splitTokens text) ∧
    (text.filter fun c => !Text.isBlank c) =
      (splitTokens text).flatten.filter (fun c => !Text.isBlank c) ∧
    splitTokens ([' '].intercalate (splitTokens text)) = splitTokens text ∧
    ∀ tokens, IsTokenRow tokens ∧ IsSpread tokens text ↔ tokens = splitTokens text := by
  obtain ⟨hrow, hspread⟩ := splitTokens_eq_iff.mp (rfl : splitTokens text = splitTokens text)
  refine ⟨hrow, hspread.filter_eq, ?_, fun tokens => ?_⟩
  · exact splitTokens_eq_iff.mpr ⟨hrow, isSpread_join (splitTokens text)⟩
  · rw [← splitTokens_eq_iff, eq_comm]

/-- A bracket closed in excess keeps the blanks up to the one that makes up for it, and one left
open keeps all blanks after it. -/
example : splitTokens " a) b (c \t d (e  f ".toList =
    ["a) b (c".toList, "d".toList, "(e  f".toList] := by decide

end Scaffold.Source
