import Mathlib.Data.List.Induction
import Scaffold.Proofs.Trimming
import Scaffold.Source.Bracket

/-!
# Nested brackets

A text is nested when every bracket in it has a partner of its kind. The search for a closing
bracket stops right after nested text.
-/

namespace Scaffold.Source

variable {outside other : Char → Prop} {c first last : Char} {kind : Bracket}
  {stack : List Bracket} {text inner rest inside after : Chars}

/-- Every bracket of the text has its partner, and the other characters outside of brackets satisfy
`outside`. -/
inductive Nested : (Char → Prop) → Chars → Prop
  | nil {outside : Char → Prop} : Nested outside []
  | plain {outside : Char → Prop} {c : Char} {rest : Chars} :
      Bracket.opened? c = none → Bracket.closed? c = none → outside c →
      Nested outside rest → Nested outside (c :: rest)
  | group {outside : Char → Prop} {kind : Bracket} {first last : Char} {inner rest : Chars} :
      Bracket.opened? first = some kind → Bracket.closed? last = some kind →
      Nested (fun _ => True) inner → Nested outside rest →
      Nested outside (first :: inner ++ last :: rest)

theorem opened?_of_closed? (h : Bracket.closed? c = some kind) : Bracket.opened? c = none := by
  unfold Bracket.closed? at h
  split at h <;> first | rfl | cases h

theorem unbracketed_of_isBlank (h : Text.isBlank c = true) :
    Bracket.opened? c = none ∧ Bracket.closed? c = none := by
  constructor
  · unfold Bracket.opened?
    split <;> first | rfl | cases h
  · unfold Bracket.closed?
    split <;> first | rfl | cases h

theorem unbracketed_of_isWord (h : Text.isWord c = true) :
    Bracket.opened? c = none ∧ Bracket.closed? c = none := by
  constructor
  · unfold Bracket.opened?
    split <;> first | rfl | cases h
  · unfold Bracket.closed?
    split <;> first | rfl | cases h

namespace Nested

theorem mono (h : Nested outside text) (himp : ∀ c, outside c → other c) : Nested other text := by
  induction h with
  | nil => exact .nil
  | plain hopened hclosed hc _ ih => exact .plain hopened hclosed (himp _ hc) (ih himp)
  | group hfirst hlast hinner _ _ ih => exact .group hfirst hlast hinner (ih himp)

/-- Nested texts make a nested text. -/
theorem append (h : Nested outside text) (hrest : Nested outside rest) :
    Nested outside (text ++ rest) := by
  induction h with
  | nil => exact hrest
  | plain hopened hclosed hc _ ih => exact .plain hopened hclosed hc (ih hrest)
  | group hfirst hlast hinner _ _ ih =>
    simpa using Nested.group hfirst hlast hinner (ih hrest)

/-- Text without brackets is nested. -/
theorem of_plain (h : ∀ c ∈ text,
    (Bracket.opened? c = none ∧ Bracket.closed? c = none) ∧ outside c) : Nested outside text := by
  induction text with
  | nil => exact .nil
  | cons c rest ih =>
    obtain ⟨⟨hopened, hclosed⟩, hc⟩ := h c (by simp)
    exact .plain hopened hclosed hc (ih fun d hd => h d (by simp [hd]))

theorem of_cons_blank (hc : Text.isBlank c = true) (h : Nested outside (c :: rest)) :
    Nested outside rest := by
  cases h with
  | plain _ _ _ hrest => exact hrest
  | group hfirst => simp [(unbracketed_of_isBlank hc).1] at hfirst

/-- A blank at the end closes no group: the text before it is nested. -/
theorem of_concat_blank (hc : Text.isBlank c = true) (h : Nested outside (text ++ [c])) :
    Nested outside text := by
  generalize hwhole : text ++ [c] = whole at h
  induction h generalizing text with
  | nil => simp at hwhole
  | plain hopened hclosed hd hrest ih =>
    cases text with
    | nil => exact .nil
    | cons first others =>
      obtain ⟨rfl, rfl⟩ := List.cons.inj hwhole
      exact .plain hopened hclosed hd (ih rfl)
  | @group _ _ first last inner rest hfirst hlast hinner hrest _ ih =>
    rcases List.eq_nil_or_concat rest with rfl | ⟨others, d, rfl⟩
    · obtain ⟨-, heq⟩ := List.append_inj' (hwhole : _ = (first :: inner) ++ [last]) rfl
      obtain rfl := List.singleton_inj.mp heq
      simp [(unbracketed_of_isBlank hc).2] at hlast
    · have hwhole' : text ++ [c] = (first :: inner ++ last :: others) ++ [d] := by
        simpa using hwhole
      obtain ⟨rfl, heq⟩ := List.append_inj' hwhole' rfl
      obtain rfl := List.singleton_inj.mp heq
      exact .group hfirst hlast hinner (ih (by simp))

/-- Trimming keeps text nested. -/
theorem trim (h : Nested outside text) : Nested outside (Text.trim text) := by
  have hstart : ∀ before rest : Chars, (∀ c ∈ before, Text.isBlank c = true) →
      Nested outside (before ++ rest) → Nested outside rest := by
    intro before rest hblank
    induction before with
    | nil => exact id
    | cons c others ih =>
      exact fun h => ih (fun d hd => hblank d (by simp [hd])) (h.of_cons_blank (hblank c (by simp)))
  have hstop : ∀ rest after : Chars, (∀ c ∈ after, Text.isBlank c = true) →
      Nested outside (rest ++ after) → Nested outside rest := by
    intro rest after hblank
    induction after using List.reverseRecOn with
    | nil => simp
    | append_singleton others c ih =>
      intro h
      rw [← List.append_assoc] at h
      exact ih (fun d hd => hblank d (by simp [hd])) (h.of_concat_blank (hblank c (by simp)))
  obtain ⟨before, after, htext, hbefore, hafter⟩ := Text.exists_trim text
  rw [htext, List.append_assoc] at h
  exact hstop _ _ hafter (hstart _ _ hbefore h)

end Nested

/-! ## The closing bracket -/

theorem map_eq_ok {ε α β : Type} {value : Except ε α} {f : α → β} {result : β}
    (h : value.map f = .ok result) : ∃ found, value = .ok found ∧ f found = result := by
  cases value with
  | error e => cases h
  | ok found => exact ⟨found, rfl, Except.ok.inj h⟩

/-- The search passes over nested text. -/
theorem closeFrom_append (h : Nested outside inner) (rest : Chars) :
    closeFrom (kind :: stack) (inner ++ rest) =
      (closeFrom (kind :: stack) rest).map fun (inside, after) => (inner ++ inside, after) := by
  induction h generalizing kind stack rest with
  | nil =>
    rw [List.nil_append]
    cases closeFrom (kind :: stack) rest <;> rfl
  | plain hopened hclosed _ _ ih =>
    simp only [List.cons_append, closeFrom, hopened, hclosed, ih]
    cases closeFrom (kind :: stack) rest <;> rfl
  | group hfirst hlast _ _ ihinner ih =>
    simp only [List.cons_append, List.append_assoc, closeFrom, hfirst, ihinner,
      opened?_of_closed? hlast, hlast, ih]
    cases closeFrom (kind :: stack) rest <;> simp [Except.map]

/-- What the search passes over before it closes the innermost bracket is nested. -/
theorem nested_of_closeFrom (h : closeFrom (kind :: stack) text = .ok (inside, after)) :
    ∃ inner last rest, text = inner ++ last :: rest ∧ Nested (fun _ => True) inner ∧
      Bracket.closed? last = some kind ∧
      ((stack = [] ∧ inside = inner ∧ after = rest) ∨
        ∃ later, stack ≠ [] ∧ closeFrom stack rest = .ok (later, after) ∧
          inside = inner ++ last :: later) := by
  induction hlength : text.length using Nat.strongRecOn generalizing kind stack text inside after
  with
  | ind length ih =>
    subst hlength
    cases text with
    | nil => cases h
    | cons c others =>
      rw [closeFrom] at h
      split at h
      · next open' hopened =>
        obtain ⟨⟨inside₁, after₁⟩, hclose, heq⟩ := map_eq_ok h
        obtain ⟨rfl, rfl⟩ := Prod.mk.inj heq
        obtain ⟨inner, last, rest, rfl, hinner, hlast, ⟨hstack, -⟩ | ⟨later, -, hlater, rfl⟩⟩ :=
          ih _ (by simp) hclose rfl
        · cases hstack
        obtain ⟨inner', last', rest', rfl, hinner', hlast', hend⟩ :=
          ih _ (by simp; omega) hlater rfl
        refine ⟨c :: inner ++ last :: inner', last', rest', by simp,
          .group hopened hlast hinner hinner', hlast', ?_⟩
        rcases hend with ⟨hstack, rfl, rfl⟩ | ⟨later', hstack, hlater', rfl⟩
        · exact .inl ⟨hstack, by simp, rfl⟩
        · exact .inr ⟨later', hstack, hlater', by simp⟩
      · next hopened =>
        split at h
        · next hclosed =>
          obtain ⟨⟨inside₁, after₁⟩, hclose, heq⟩ := map_eq_ok h
          obtain ⟨rfl, rfl⟩ := Prod.mk.inj heq
          obtain ⟨inner, last, rest, rfl, hinner, hlast, hend⟩ := ih _ (by simp) hclose rfl
          refine ⟨c :: inner, last, rest, rfl, .plain hopened hclosed trivial hinner, hlast, ?_⟩
          rcases hend with ⟨hstack, rfl, rfl⟩ | ⟨later, hstack, hlater, rfl⟩
          · exact .inl ⟨hstack, rfl, rfl⟩
          · exact .inr ⟨later, hstack, hlater, rfl⟩
        · next closed hclosed =>
          simp only at h
          split_ifs at h with hkind hstack
          · cases h
            refine ⟨[], c, _, rfl, .nil, by rw [hclosed, not_not.mp hkind], .inl ⟨?_, rfl, rfl⟩⟩
            exact List.isEmpty_iff.mp hstack
          · obtain ⟨⟨inside₁, after₁⟩, hclose, heq⟩ := map_eq_ok h
            obtain ⟨rfl, rfl⟩ := Prod.mk.inj heq
            exact ⟨[], c, others, rfl, .nil, by rw [hclosed, not_not.mp hkind],
              .inr ⟨inside₁, by simpa using hstack, hclose, rfl⟩⟩

/-- A closing bracket that is found is found in every longer text. -/
theorem closeFrom_append_right (h : closeFrom stack text = .ok (inside, after)) (more : Chars) :
    closeFrom stack (text ++ more) = .ok (inside, after ++ more) := by
  induction text generalizing stack inside with
  | nil => cases h
  | cons c rest ih =>
    have hnext : ∀ {stack}, (closeFrom stack rest).map
        (fun (inside, after) => (c :: inside, after)) = .ok (inside, after) →
        (closeFrom stack (rest ++ more)).map (fun (inside, after) => (c :: inside, after)) =
          .ok (inside, after ++ more) := by
      intro stack hmap
      obtain ⟨⟨later, _⟩, hlater, heq⟩ := map_eq_ok hmap
      obtain ⟨rfl, rfl⟩ := Prod.mk.inj heq
      rw [ih hlater]
      rfl
    rw [closeFrom] at h
    rw [List.cons_append, closeFrom]
    split at h
    · exact hnext h
    · split at h
      · exact hnext h
      · cases stack with
        | nil => cases h
        | cons top below =>
          simp only at h ⊢
          split_ifs at h ⊢
          · obtain ⟨rfl, rfl⟩ := Prod.mk.inj (Except.ok.inj h)
            rfl
          · exact hnext h

theorem closeFrom_of_splitAtClose (h : splitAtClose text = .ok (inside, after)) :
    closeFrom [] text = .ok (inside, after) := by
  unfold splitAtClose at h
  split at h <;> cases h
  assumption

/-- A cut at a closing bracket is the same in every longer text. -/
theorem splitAtClose_append_right (h : splitAtClose text = .ok (inside, after)) (more : Chars) :
    splitAtClose (text ++ more) = .ok (inside, after ++ more) := by
  rw [splitAtClose, closeFrom_append_right (closeFrom_of_splitAtClose h)]

/-- A text that begins with a group is cut after that group. -/
theorem splitAtClose_group (hfirst : Bracket.opened? first = some kind)
    (hlast : Bracket.closed? last = some kind) (h : Nested outside inner) (after : Chars) :
    splitAtClose (first :: inner ++ last :: after) = .ok (first :: inner, after) := by
  have hclose : closeFrom [] (first :: inner ++ last :: after) = .ok (first :: inner, after) := by
    rw [List.cons_append, closeFrom]
    simp only [hfirst, closeFrom_append h]
    simp [closeFrom, opened?_of_closed? hlast, hlast, Except.map]
  rw [splitAtClose, hclose]

/-- Nested text in parentheses is cut at the closing one. -/
theorem splitAtClose_append (h : Nested outside inner) (after : Chars) :
    splitAtClose ('(' :: inner ++ ')' :: after) = .ok ('(' :: inner, after) :=
  splitAtClose_group rfl rfl h after

/-- A bracket that opens in nested text begins a group of that text. -/
theorem Nested.exists_group (h : Nested outside text) {before : Chars}
    (htext : text = before ++ c :: after) (hc : Bracket.opened? c = some kind) :
    ∃ inner last rest, after = inner ++ last :: rest ∧ Nested (fun _ => True) inner ∧
      Bracket.closed? last = some kind := by
  induction h generalizing before after with
  | nil => simp at htext
  | plain hopened _ _ _ ih =>
    cases before with
    | nil =>
      obtain ⟨rfl, -⟩ := List.cons.inj htext
      simp [hopened] at hc
    | cons d before => exact ih (List.cons.inj htext).2
  | @group _ _ first last inner rest hfirst hlast hinner _ ihinner ih =>
    cases before with
    | nil =>
      obtain ⟨rfl, rfl⟩ := List.cons.inj htext
      obtain rfl := Option.some.inj (hfirst.symm.trans hc)
      exact ⟨inner, last, rest, rfl, hinner, hlast⟩
    | cons d before =>
      have hinside : inner ++ last :: rest = before ++ c :: after := (List.cons.inj htext).2
      rcases List.append_eq_append_iff.mp hinside with
        ⟨between, rfl, hlater⟩ | ⟨between, rfl, hlater⟩
      · cases between with
        | nil =>
          obtain ⟨rfl, -⟩ := List.cons.inj hlater
          simp [opened?_of_closed? hlast] at hc
        | cons e between => exact ih (List.cons.inj hlater).2
      · cases between with
        | nil =>
          obtain ⟨rfl, -⟩ := List.cons.inj hlater
          simp [opened?_of_closed? hlast] at hc
        | cons e between =>
          obtain ⟨rfl, rfl⟩ := List.cons.inj hlater
          obtain ⟨inner', last', rest', rfl, hinner', hlast'⟩ := ihinner rfl
          exact ⟨inner', last', rest' ++ last :: rest, by simp, hinner', hlast'⟩

/-- A text that begins with a bracket is cut around the nested text in it. -/
theorem splitAtClose_eq_ok_iff (hfirst : Bracket.opened? first = some kind) :
    splitAtClose (first :: text) = .ok (inside, after) ↔
      ∃ inner last, inside = first :: inner ∧ text = inner ++ last :: after ∧
        Nested (fun _ => True) inner ∧ Bracket.closed? last = some kind := by
  constructor
  · intro h
    have hclose := closeFrom_of_splitAtClose h
    simp only [closeFrom, hfirst] at hclose
    obtain ⟨⟨inner, rest⟩, hkind, heq⟩ := map_eq_ok hclose
    obtain ⟨rfl, rfl⟩ := Prod.mk.inj heq
    obtain ⟨_, last, _, rfl, hinner, hlast, ⟨-, rfl, rfl⟩ | ⟨_, hstack, -⟩⟩ :=
      nested_of_closeFrom hkind
    · exact ⟨inner, last, rfl, rfl, hinner, hlast⟩
    · exact absurd rfl hstack
  · rintro ⟨inner, last, rfl, rfl, hinner, hlast⟩
    exact splitAtClose_group hfirst hlast hinner after

/-- What is cut at a closing parenthesis is nested. -/
theorem eq_of_splitAtClose (h : splitAtClose ('(' :: text) = .ok (inside, after)) :
    ∃ inner, inside = '(' :: inner ∧ text = inner ++ ')' :: after ∧
      Nested (fun _ => True) inner := by
  obtain ⟨inner, last, rfl, rfl, hinner, hlast⟩ := (splitAtClose_eq_ok_iff rfl).mp h
  obtain rfl : last = ')' := by
    unfold Bracket.closed? at hlast
    split at hlast <;> cases hlast
    rfl
  exact ⟨inner, rfl, rfl, hinner⟩

theorem nested_of_splitAtClose (h : splitAtClose ('(' :: text) = .ok (inside, after)) :
    Nested (fun _ => True) (inside.drop 1) := by
  obtain ⟨inner, rfl, -, hinner⟩ := eq_of_splitAtClose h
  exact hinner

end Scaffold.Source
