import Scaffold.Proofs.Nesting

/-!
# Tokens

A token has no blank outside its brackets, where depth is counted without regard to kinds. Tokens
that a text spreads with blanks are the tokens of that text, so those of any text, with one space
between neighbours, are a text with the same tokens; where the text is nested, so are they.
-/

namespace Scaffold.Source

variable {outside : Char → Prop} {c : Char} {depth : Int} {text token rest gap : Chars}
  {tokens others : List Chars}

/-- No blank of the text stands where the depth is zero; `depth` brackets are open before it. -/
def IsSolid (depth : Int) : Chars → Prop
  | [] => True
  | c :: rest =>
    ¬(Text.isBlank c = true ∧ depth + depthStep c = 0) ∧ IsSolid (depth + depthStep c) rest

/-- How far the text raises the depth. -/
def rise : Chars → Int
  | [] => 0
  | c :: rest => depthStep c + rise rest

@[simp] theorem rise_nil : rise [] = 0 := rfl

@[simp] theorem rise_cons : rise (c :: rest) = depthStep c + rise rest := rfl

/-- What is no bracket stays at its depth. -/
theorem depthStep_of_unbracketed
    (h : Bracket.opened? c = none ∧ Bracket.closed? c = none) : depthStep c = 0 := by
  simp [depthStep, opens, closes, h]

/-- An opening bracket goes one level down. -/
theorem depthStep_of_opened? {kind : Bracket} (h : Bracket.opened? c = some kind) :
    depthStep c = 1 := by
  simp [depthStep, opens, h]

/-- A closing bracket goes one level up. -/
theorem depthStep_of_closed? {kind : Bracket} (h : Bracket.closed? c = some kind) :
    depthStep c = -1 := by
  simp [depthStep, opens, closes, opened?_of_closed? h, h]

theorem depthStep_of_isBlank (h : Text.isBlank c = true) : depthStep c = 0 :=
  depthStep_of_unbracketed (unbracketed_of_isBlank h)

/-- A blank outside of brackets ends the token before it. -/
theorem tokensFrom_blank (h : Text.isBlank c = true) :
    tokensFrom 0 (c :: rest) =
      ([], if (tokensFrom 0 rest).1.isEmpty then (tokensFrom 0 rest).2
        else (tokensFrom 0 rest).1 :: (tokensFrom 0 rest).2) := by
  simp [tokensFrom, h, depthStep_of_isBlank h]

/-- Any other character goes to the first token. -/
theorem tokensFrom_cons (h : ¬(Text.isBlank c = true ∧ depth + depthStep c = 0)) :
    tokensFrom depth (c :: rest) =
      (c :: (tokensFrom (depth + depthStep c) rest).1,
        (tokensFrom (depth + depthStep c) rest).2) := by
  simp [tokensFrom, h]

/-- Solid text belongs to the token that it begins in. -/
theorem tokensFrom_append (h : IsSolid depth token) (rest : Chars) :
    tokensFrom depth (token ++ rest) =
      (token ++ (tokensFrom (depth + rise token) rest).1,
        (tokensFrom (depth + rise token) rest).2) := by
  induction token generalizing depth with
  | nil => simp
  | cons c token ih =>
    rw [List.cons_append, tokensFrom_cons h.1, ih h.2, rise_cons, Int.add_assoc, List.cons_append]

/-- Text without blanks is solid at every depth. -/
theorem isSolid_of_not_isBlank (h : ∀ c ∈ text, Text.isBlank c = false) : IsSolid depth text := by
  induction text generalizing depth with
  | nil => trivial
  | cons c rest ih => exact ⟨by simp [h c], ih fun d hd => h d (by simp [hd])⟩

/-- The list is one of tokens: each is solid, a further one comes at depth zero only, and the last
does not end with a blank. -/
inductive IsTokens : List Chars → Prop
  | nil : IsTokens []
  | last {token : Chars} : token ≠ [] → IsSolid 0 token →
      (∀ c ∈ token.getLast?, Text.isBlank c = false) → IsTokens [token]
  | cons {token : Chars} {others : List Chars} : token ≠ [] → IsSolid 0 token → rise token = 0 →
      others ≠ [] → IsTokens others → IsTokens (token :: others)

/-- The tokens of a text that does not end with a blank: it is solid, or its first token ends at
depth zero and others follow. -/
theorem tokensFrom_cases (hstop : ∀ c ∈ text.getLast?, Text.isBlank c = false) (depth : Int) :
    (tokensFrom depth text = (text, []) ∧ IsSolid depth text) ∨
      ∃ token others, tokensFrom depth text = (token, others) ∧ IsSolid depth token ∧
        depth + rise token = 0 ∧ others ≠ [] ∧ IsTokens others := by
  induction text generalizing depth with
  | nil => exact .inl ⟨rfl, trivial⟩
  | cons c rest ih =>
    by_cases hcut : Text.isBlank c = true ∧ depth + depthStep c = 0
    · obtain ⟨hblank, hzero⟩ := hcut
      obtain rfl : depth = 0 := by rw [← hzero, depthStep_of_isBlank hblank, Int.add_zero]
      have hrest : rest ≠ [] := by
        rintro rfl
        simp [hblank] at hstop
      have hstop' : ∀ c ∈ rest.getLast?, Text.isBlank c = false := by
        rwa [List.getLast?_cons_of_ne_nil hrest] at hstop
      right
      rw [tokensFrom_blank hblank]
      refine ⟨_, _, rfl, trivial, rfl, ?_⟩
      rcases ih hstop' 0 with ⟨heq, hsolid⟩ | ⟨token, others, heq, hsolid, hrise, hne, hothers⟩
      · simp only [heq, List.isEmpty_iff, hrest, if_false]
        exact ⟨by simp, .last hrest hsolid hstop'⟩
      · simp only [heq]
        split_ifs with hempty
        · exact ⟨hne, hothers⟩
        · refine ⟨by simp, .cons (by simpa using hempty) hsolid (by simpa using hrise) hne hothers⟩
    · have hstop' : ∀ c ∈ rest.getLast?, Text.isBlank c = false := by
        intro d hd
        apply hstop
        rw [List.getLast?_cons, Option.mem_def.mp hd]
        rfl
      rw [tokensFrom_cons hcut]
      rcases ih hstop' (depth + depthStep c) with
        ⟨heq, hsolid⟩ | ⟨token, others, heq, hsolid, hrise, hne, hothers⟩
      · exact .inl ⟨by rw [heq], hcut, hsolid⟩
      · refine .inr ⟨c :: token, others, by rw [heq], ⟨hcut, hsolid⟩, ?_, hne, hothers⟩
        rw [rise_cons, ← Int.add_assoc, hrise]

/-- Text is split into tokens. -/
theorem isTokens_splitTokens (text : Chars) : IsTokens (splitTokens text) := by
  have hstop := (Text.isTrimmed_trim text).stop
  rw [splitTokens]
  rcases tokensFrom_cases hstop 0 with
    ⟨heq, hsolid⟩ | ⟨token, others, heq, hsolid, hrise, hne, hothers⟩
  · simp only [heq]
    split_ifs with hempty
    · exact .nil
    · exact .last (by simpa using hempty) hsolid hstop
  · simp only [heq]
    split_ifs with hempty
    · exact hothers
    · exact .cons (by simpa using hempty) hsolid (by simpa using hrise) hne hothers

namespace IsTokens

theorem tail (h : IsTokens (token :: others)) : IsTokens others := by
  cases h with
  | last => exact .nil
  | cons _ _ _ _ hothers => exact hothers

theorem ne_nil (h : IsTokens (token :: others)) : token ≠ [] := by
  cases h <;> assumption

theorem isSolid (h : IsTokens (token :: others)) : IsSolid 0 token := by
  cases h <;> assumption

theorem start (h : IsTokens (token :: others)) : ∀ c ∈ token.head?, Text.isBlank c = false := by
  have hsolid := h.isSolid
  cases token with
  | nil => simp
  | cons first rest =>
    intro c hc
    obtain rfl := Option.some.inj hc
    rw [Bool.eq_false_iff]
    exact fun hblank => hsolid.1 ⟨hblank, by rw [depthStep_of_isBlank hblank]; rfl⟩

/-- Tokens are joined into text that is not empty. -/
theorem join_ne_nil (h : IsTokens tokens) (hne : tokens ≠ []) : [' '].intercalate tokens ≠ [] := by
  cases h with
  | nil => exact absurd rfl hne
  | last htoken => simpa using htoken
  | @cons token others htoken _ _ hothers =>
    obtain ⟨second, rest, rfl⟩ := List.exists_cons_of_ne_nil hothers
    simp [List.intercalate_cons_cons]

/-- Tokens are joined into trimmed text. -/
theorem isTrimmed_join (h : IsTokens tokens) : Text.IsTrimmed ([' '].intercalate tokens) := by
  induction h with
  | nil => exact ⟨by simp, by simp⟩
  | last hne hsolid hstop =>
    rw [List.intercalate_singleton]
    exact ⟨(IsTokens.last hne hsolid hstop).start, hstop⟩
  | @cons token others hne hsolid hrise hothers htokens ih =>
    obtain ⟨second, rest, rfl⟩ := List.exists_cons_of_ne_nil hothers
    rw [List.intercalate_cons_cons]
    exact Text.isTrimmed_append hne (IsTokens.cons hne hsolid hrise hothers htokens).start
      (htokens.join_ne_nil hothers) ih.stop

end IsTokens

/-! ## Spread tokens -/

/-- The text is made of the tokens in their order, with blanks before and after them and at least
one between neighbours. -/
inductive IsSpread : List Chars → Chars → Prop
  | nil {gap : Chars} : (∀ c ∈ gap, Text.isBlank c = true) → IsSpread [] gap
  | cons {gap token rest : Chars} {others : List Chars} : (∀ c ∈ gap, Text.isBlank c = true) →
      IsSpread others rest → (others ≠ [] → ∃ c ∈ rest.head?, Text.isBlank c = true) →
      IsSpread (token :: others) (gap ++ token ++ rest)

namespace IsSpread

/-- Blanks before a spread do not matter. -/
theorem blank_append (h : IsSpread tokens text) (hgap : ∀ c ∈ gap, Text.isBlank c = true) :
    IsSpread tokens (gap ++ text) := by
  cases h with
  | nil hblank => exact .nil (List.forall_mem_append.mpr ⟨hgap, hblank⟩)
  | cons hblank hrest hnext =>
    rw [← List.append_assoc, ← List.append_assoc]
    exact .cons (List.forall_mem_append.mpr ⟨hgap, hblank⟩) hrest hnext

/-- Blanks after a spread do not matter. -/
theorem append_blank (h : IsSpread tokens text) (hgap : ∀ c ∈ gap, Text.isBlank c = true) :
    IsSpread tokens (text ++ gap) := by
  induction h with
  | nil hblank => exact .nil (List.forall_mem_append.mpr ⟨hblank, hgap⟩)
  | cons hblank _ hnext ih =>
    rw [List.append_assoc]
    refine .cons hblank ih fun hne => ?_
    obtain ⟨c, hc, hcblank⟩ := hnext hne
    exact ⟨c, by rw [List.head?_append, Option.mem_def.mp hc]; rfl, hcblank⟩

/-- What comes before the rest may turn out to be no token at all. -/
theorem of_first (hgap : ∀ c ∈ gap, Text.isBlank c = true) (h : IsSpread others rest)
    (hnext : others ≠ [] → ∃ c ∈ rest.head?, Text.isBlank c = true) (token : Chars) :
    IsSpread (if token.isEmpty then others else token :: others) (gap ++ (token ++ rest)) := by
  split_ifs with hempty
  · rw [List.isEmpty_iff.mp hempty, List.nil_append]
    exact h.blank_append hgap
  · rw [← List.append_assoc]
    exact .cons hgap h hnext

/-- Tokens have no characters but those of the text that spreads them. -/
theorem subset (h : IsSpread tokens text) (htoken : token ∈ tokens) : token ⊆ text := by
  induction h with
  | nil => cases htoken
  | cons _ _ _ ih =>
    rcases List.mem_cons.mp htoken with rfl | hlater
    · exact fun c hc => List.mem_append_left _ (List.mem_append_right _ hc)
    · exact fun c hc => List.mem_append_right _ (ih hlater hc)

end IsSpread

/-- A text begins with its first token, and the text after it spreads the others. -/
theorem exists_rest_of_tokensFrom (depth : Int) (text : Chars) :
    ∃ rest, text = (tokensFrom depth text).1 ++ rest ∧ IsSpread (tokensFrom depth text).2 rest ∧
      ((tokensFrom depth text).2 ≠ [] → ∃ c ∈ rest.head?, Text.isBlank c = true) := by
  induction text generalizing depth with
  | nil => exact ⟨[], rfl, .nil (List.forall_mem_nil _), absurd rfl⟩
  | cons c text ih =>
    by_cases hcut : Text.isBlank c = true ∧ depth + depthStep c = 0
    · obtain ⟨hblank, hzero⟩ := hcut
      obtain rfl : depth = 0 := by rw [← hzero, depthStep_of_isBlank hblank, Int.add_zero]
      obtain ⟨rest, hrest, hspread, hnext⟩ := ih 0
      have hgap : ∀ d ∈ [c], Text.isBlank d = true := by simpa using hblank
      have hfirst := IsSpread.of_first hgap hspread hnext (tokensFrom 0 text).1
      rw [← hrest] at hfirst
      rw [tokensFrom_blank hblank]
      exact ⟨c :: text, rfl, hfirst, fun _ => ⟨c, rfl, hblank⟩⟩
    · obtain ⟨rest, hrest, hspread, hnext⟩ := ih (depth + depthStep c)
      rw [tokensFrom_cons hcut]
      exact ⟨rest, by rw [List.cons_append, ← hrest], hspread, hnext⟩

/-- Text spreads the tokens that it is split into. -/
theorem isSpread_splitTokens (text : Chars) : IsSpread (splitTokens text) text := by
  obtain ⟨before, after, htext, hbefore, hafter⟩ := Text.exists_trim text
  obtain ⟨rest, hrest, hspread, hnext⟩ := exists_rest_of_tokensFrom 0 (Text.trim text)
  have hfirst := IsSpread.of_first hbefore hspread hnext (tokensFrom 0 (Text.trim text)).1
  rw [← hrest] at hfirst
  have hwhole := hfirst.append_blank hafter
  rwa [← htext] at hwhole

/-- Text that joins tokens spreads them. -/
theorem isSpread_join (tokens : List Chars) : IsSpread tokens ([' '].intercalate tokens) := by
  have hspace : ∀ c ∈ [' '], Text.isBlank c = true := List.forall_mem_singleton.mpr rfl
  induction tokens with
  | nil => exact .nil (List.forall_mem_nil _)
  | cons token others ih =>
    cases others with
    | nil => simpa using @IsSpread.cons [] token [] [] (List.forall_mem_nil _) ih (absurd rfl)
    | cons second more =>
      rw [List.intercalate_cons_cons, List.append_assoc]
      exact @IsSpread.cons [] token _ _ (List.forall_mem_nil _) (ih.blank_append hspace)
        fun _ => ⟨' ', rfl, rfl⟩

/-- Blanks outside of brackets end the token before them. -/
theorem tokensFrom_blanks (hne : gap ≠ []) (hgap : ∀ c ∈ gap, Text.isBlank c = true) :
    tokensFrom 0 (gap ++ text) =
      ([], if (tokensFrom 0 text).1.isEmpty then (tokensFrom 0 text).2
        else (tokensFrom 0 text).1 :: (tokensFrom 0 text).2) := by
  induction gap with
  | nil => exact absurd rfl hne
  | cons c gap ih =>
    obtain ⟨hc, hrest⟩ := List.forall_mem_cons.mp hgap
    rw [List.cons_append, tokensFrom_blank hc]
    cases gap with
    | nil => rfl
    | cons d gap =>
      rw [ih (by simp) hrest]
      rfl

namespace IsTokens

/-- Tokens are found again in a text that spreads them. -/
theorem tokensFrom_spread (h : IsTokens (token :: others)) (hspread : IsSpread others rest)
    (hnext : others ≠ [] → ∃ c ∈ rest.head?, Text.isBlank c = true) :
    tokensFrom 0 (Text.trimEnd (token ++ rest)) = (token, others) := by
  induction others generalizing token rest with
  | nil =>
    cases hspread with
    | nil hgap =>
      cases h with
      | last _ hsolid hstop =>
        rw [Text.trimEnd_append_of_blank hgap, Text.trimEnd_eq_self hstop]
        simpa [tokensFrom] using tokensFrom_append hsolid []
      | cons _ _ _ hothers => exact absurd rfl hothers
  | cons second more ih =>
    cases hspread with
    | @cons gap _ later _ hgap hmore hlater =>
      cases h with
      | cons _ hsolid hrise _ htokens =>
        have hfound := ih htokens hmore hlater
        have hsecond : second.isEmpty = false := by simpa using htokens.ne_nil
        have hkept : Text.trimEnd (second ++ later) ≠ [] := by
          intro hnil
          rw [hnil] at hfound
          exact htokens.ne_nil (congrArg Prod.fst hfound).symm
        have hne : gap ≠ [] := by
          rintro rfl
          obtain ⟨c, hc, hblank⟩ := hnext (by simp)
          obtain ⟨d, second, rfl⟩ := List.exists_cons_of_ne_nil htokens.ne_nil
          obtain rfl : d = c := by simpa using hc
          simp [htokens.start d rfl] at hblank
        rw [List.append_assoc, ← List.append_assoc, Text.trimEnd_append hkept, List.append_assoc,
          tokensFrom_append hsolid, hrise, Int.add_zero, tokensFrom_blanks hne hgap, hfound]
        simp [hsecond]

/-- Text that spreads tokens is split into them. -/
theorem splitTokens_spread (h : IsTokens tokens) (hspread : IsSpread tokens text) :
    splitTokens text = tokens := by
  cases hspread with
  | nil hgap =>
    rw [splitTokens, Text.trim_of_blank hgap]
    rfl
  | @cons gap token rest others hgap hrest hnext =>
    have hstart : ∀ c ∈ (token ++ rest).head?, Text.isBlank c = false := by
      obtain ⟨first, more, rfl⟩ := List.exists_cons_of_ne_nil h.ne_nil
      exact h.start
    rw [splitTokens, List.append_assoc, Text.trim_blank_append hgap, Text.trim,
      Text.trimStart_eq_self hstart, h.tokensFrom_spread hrest hnext]
    simp [h.ne_nil]

/-- Joined tokens are split again. -/
theorem splitTokens_join (h : IsTokens tokens) :
    splitTokens ([' '].intercalate tokens) = tokens :=
  h.splitTokens_spread (isSpread_join tokens)

end IsTokens

/-! ## Tokens of nested text -/

/-- Levels add up over texts. -/
theorem rise_append (text rest : Chars) : rise (text ++ rest) = rise text + rise rest := by
  induction text with
  | nil => simp
  | cons c text ih => rw [List.cons_append, rise_cons, rise_cons, ih, Int.add_assoc]

/-- Nested text ends at the level where it starts. -/
theorem Nested.rise_eq (h : Nested outside text) : rise text = 0 := by
  induction h with
  | nil => rfl
  | plain hopened hclosed _ _ ih =>
    rw [rise_cons, depthStep_of_unbracketed ⟨hopened, hclosed⟩, ih]
    rfl
  | group hfirst hlast _ _ ihinner ih =>
    simp [rise_append, ihinner, ih, depthStep_of_opened? hfirst, depthStep_of_closed? hlast]

/-- Solid text goes on with text that is solid at the depth reached. -/
theorem isSolid_append (h : IsSolid depth text) (hrest : IsSolid (depth + rise text) rest) :
    IsSolid depth (text ++ rest) := by
  induction text generalizing depth with
  | nil => simpa using hrest
  | cons c text ih => exact ⟨h.1, ih h.2 (by rwa [rise_cons, ← Int.add_assoc] at hrest)⟩

/-- A group is solid if its inside is, one level down. -/
theorem isSolid_group {kind : Bracket} {first last : Char} {inner : Chars}
    (hfirst : Bracket.opened? first = some kind) (hlast : Bracket.closed? last = some kind)
    (hinner : IsSolid (depth + 1) inner) : IsSolid depth (first :: inner ++ [last]) := by
  have hfirst' : ¬Text.isBlank first = true := fun h => by
    simp [(unbracketed_of_isBlank h).1] at hfirst
  have hlast' : ¬Text.isBlank last = true := fun h => by
    simp [(unbracketed_of_isBlank h).2] at hlast
  refine ⟨fun h => hfirst' h.1, isSolid_append (by rwa [depthStep_of_opened? hfirst]) ?_⟩
  exact ⟨fun h => hlast' h.1, trivial⟩

/-- Nested text is solid inside brackets. -/
theorem Nested.isSolid (h : Nested outside text) (hdepth : 0 < depth) : IsSolid depth text := by
  induction h generalizing depth with
  | nil => trivial
  | plain hopened hclosed _ _ ih =>
    rw [IsSolid, depthStep_of_unbracketed ⟨hopened, hclosed⟩, Int.add_zero]
    exact ⟨by omega, ih hdepth⟩
  | @group _ _ first last inner rest hfirst hlast hinner _ ihinner ih =>
    have hgroup := Nested.rise_eq (Nested.group hfirst hlast hinner (@Nested.nil outside))
    have hsolid := isSolid_group hfirst hlast (@ihinner (depth + 1) (by omega))
    have hwhole := isSolid_append hsolid (by rw [hgroup, Int.add_zero]; exact ih hdepth)
    simpa using hwhole

/-- The tokens of nested text are nested. -/
theorem nested_of_tokensFrom (h : Nested outside text) :
    ∀ token ∈ (tokensFrom 0 text).1 :: (tokensFrom 0 text).2, Nested outside token := by
  induction h with
  | nil => simpa [tokensFrom] using Nested.nil
  | @plain outside c rest hopened hclosed hc _ ih =>
    by_cases hblank : Text.isBlank c = true
    · rw [tokensFrom_blank hblank]
      refine List.forall_mem_cons.mpr ⟨.nil, ?_⟩
      split_ifs
      · exact (List.forall_mem_cons.mp ih).2
      · exact ih
    · obtain ⟨htoken, hothers⟩ := List.forall_mem_cons.mp ih
      rw [tokensFrom_cons fun h => hblank h.1, depthStep_of_unbracketed ⟨hopened, hclosed⟩]
      exact List.forall_mem_cons.mpr ⟨.plain hopened hclosed hc htoken, hothers⟩
  | @group outside _ first last inner rest hfirst hlast hinner _ _ ih =>
    obtain ⟨htoken, hothers⟩ := List.forall_mem_cons.mp ih
    have hgroup := Nested.group hfirst hlast hinner (@Nested.nil outside)
    have hsolid : IsSolid 0 (first :: inner ++ [last]) :=
      isSolid_group hfirst hlast (hinner.isSolid (by omega))
    have hassoc : first :: inner ++ last :: rest = (first :: inner ++ [last]) ++ rest := by simp
    rw [hassoc, tokensFrom_append hsolid, hgroup.rise_eq]
    exact List.forall_mem_cons.mpr ⟨hgroup.append htoken, hothers⟩

/-- Nested text is split into nested tokens. -/
theorem nested_of_splitTokens (h : Nested outside text) :
    ∀ token ∈ splitTokens text, Nested outside token := by
  have htokens := nested_of_tokensFrom h.trim
  simp only [splitTokens]
  split_ifs
  · exact (List.forall_mem_cons.mp htokens).2
  · exact htokens

/-- Nested pieces are joined into nested text. -/
theorem nested_join {separator : Chars} (hseparator : Nested outside separator)
    (h : ∀ piece ∈ tokens, Nested outside piece) :
    Nested outside (separator.intercalate tokens) := by
  induction tokens with
  | nil => exact .nil
  | cons first others ih =>
    obtain ⟨hfirst, hothers⟩ := List.forall_mem_cons.mp h
    cases others with
    | nil => simpa using hfirst
    | cons second rest =>
      rw [List.intercalate_cons_cons]
      exact (hfirst.append hseparator).append (ih hothers)

end Scaffold.Source
