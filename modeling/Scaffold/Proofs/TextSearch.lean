import Mathlib.Data.List.Infix
import Scaffold.Naming
import Scaffold.Path

/-!
# Occurrences in texts

Searching for a part decides whether it is an infix, and a text without the separator is one piece.
Lower-casing brings no mark into a text, so that a name made of words stays the name of one entry.
-/

namespace Scaffold

namespace Text

variable {part separator text : Chars}

theorem occursIn_iff : occursIn part text = true ↔ part <:+: text := by
  induction text with
  | nil => simp [occursIn]
  | cons c rest ih => simp [occursIn, ih, List.infix_cons_iff]

theorem contains_append (before part after : String) :
    contains (before ++ part ++ after) part = true := by
  rw [contains, occursIn_iff]
  exact ⟨before.toList, after.toList, by simp⟩

/-- A text in which the separator does not occur is one piece. -/
theorem splitFrom_eq_singleton (h : ¬ separator <:+: text) :
    splitFrom separator 0 text = [text] := by
  induction text with
  | nil => rfl
  | cons c rest ih =>
    have hhere : separator.isPrefixOf (c :: rest) = false := by
      rw [Bool.eq_false_iff, ne_eq, List.isPrefixOf_iff_prefix]
      exact fun hstart => h hstart.isInfix
    have hrest := ih fun hlater => h (hlater.trans (List.suffix_cons c rest).isInfix)
    simp only [splitFrom, hhere, Bool.false_eq_true, if_false, hrest, consHead]

theorem splitFrom_skip (skipped rest : Chars) :
    splitFrom separator skipped.length (skipped ++ rest) = splitFrom separator 0 rest := by
  induction skipped with
  | nil => rfl
  | cons c skipped ih => exact ih

/-- A text is cut at the separator where its first occurrence ends. -/
theorem splitFrom_append {piece : Chars} (hne : separator ≠ [])
    (h : ¬ separator <:+: piece ++ separator.dropLast) (rest : Chars) :
    splitFrom separator 0 (piece ++ separator ++ rest) = piece :: splitFrom separator 0 rest := by
  induction piece with
  | nil =>
    obtain ⟨c, others, rfl⟩ := List.exists_cons_of_ne_nil hne
    have hhere : (c :: others).isPrefixOf (c :: (others ++ rest)) = true :=
      List.isPrefixOf_iff_prefix.mpr ⟨rest, rfl⟩
    simpa [splitFrom, hhere] using splitFrom_skip others rest
  | cons c piece ih =>
    have hhere : separator.isPrefixOf (c :: (piece ++ separator ++ rest)) = false := by
      rw [Bool.eq_false_iff, ne_eq, List.isPrefixOf_iff_prefix]
      intro hstart
      refine h (List.IsPrefix.isInfix (List.prefix_of_prefix_length_le hstart
        ⟨[separator.getLast hne] ++ rest, ?_⟩ ?_))
      · rw [List.append_assoc, ← List.append_assoc separator.dropLast,
          List.dropLast_append_getLast hne]
        simp
      · have hlength := List.length_pos_of_ne_nil hne
        simp only [List.length_append, List.length_cons, List.length_dropLast]
        omega
    have hpiece := ih fun hlater => h (hlater.trans (List.suffix_cons c _).isInfix)
    simp only [List.cons_append, splitFrom, hhere, Bool.false_eq_true, if_false, hpiece, consHead]

theorem splitFrom_ne_nil (skip : Nat) (text : Chars) : splitFrom separator skip text ≠ [] := by
  induction text generalizing skip with
  | nil => simp [splitFrom]
  | cons c rest ih =>
    cases skip with
    | succ skip => exact ih skip
    | zero =>
      rw [splitFrom]
      split_ifs
      · exact List.cons_ne_nil _ _
      · cases splitFrom separator 0 rest <;> exact List.cons_ne_nil _ _

/-- The pieces with the separator between neighbours are the text. -/
theorem intercalate_splitFrom (hne : separator ≠ []) (skip : Nat) (text : Chars) :
    separator.intercalate (splitFrom separator skip text) = text.drop skip := by
  induction text generalizing skip with
  | nil => simp [splitFrom]
  | cons c rest ih =>
    cases skip with
    | succ skip => exact ih skip
    | zero =>
      rw [splitFrom]
      split_ifs with hhere
      · obtain ⟨d, others, rfl⟩ := List.exists_cons_of_ne_nil hne
        obtain ⟨after, hafter⟩ := List.isPrefixOf_iff_prefix.mp hhere
        obtain ⟨rfl, rfl⟩ := List.cons.inj hafter
        rw [List.intercalate_cons_of_ne_nil (splitFrom_ne_nil _ _), ih]
        simp
      · obtain ⟨piece, pieces, hpieces⟩ :=
          List.exists_cons_of_ne_nil (@splitFrom_ne_nil separator 0 rest)
        have hrest := ih 0
        rw [hpieces, List.drop_zero] at hrest
        rw [hpieces, consHead, List.drop_zero, ← hrest]
        cases pieces <;> simp [List.intercalate_cons_cons]

/-- No character of the text stands before the digits, as slashes, dots and the null character
do. -/
def IsMarkFree (text : String) : Prop := ∀ c ∈ text.toList, 0x30 ≤ c.toNat

instance (text : String) : Decidable (IsMarkFree text) :=
  List.decidableBAll (fun c : Char => 0x30 ≤ c.toNat) text.toList

theorem IsMarkFree.not_mem {text : String} (h : IsMarkFree text) {mark : Char}
    (hmark : mark.toNat < 0x30) : mark ∉ text.toList :=
  fun hmem => absurd (h mark hmem) (Nat.not_le.mpr hmark)

/-- The table maps no character to a mark, and none to a number that stands for no character. -/
private theorem shiftPoint_lowerRuns {point : Nat} (h : 0x80 ≤ point) (hvalid : point.isValidChar) :
    0x30 ≤ shiftPoint lowerRuns point ∧ (shiftPoint lowerRuns point).isValidChar := by
  have htable : lowerRuns.all (fun run => decide ((0x30 : Int) ≤ run.first + run.shift ∧
      (run.last + run.shift < 0xD800 ∨
        0xE000 ≤ run.first + run.shift ∧ run.last + run.shift < 0x110000))) = true := by
    decide
  unfold shiftPoint
  split
  · next run hrun =>
    have hmem := List.mem_of_find?_eq_some hrun
    have hshift := of_decide_eq_true (List.all_eq_true.mp htable run hmem)
    have hdomain := List.find?_some hrun
    simp only [Run.has, Bool.and_eq_true] at hdomain
    have hfirst : run.first ≤ point := of_decide_eq_true hdomain.1.1
    have hlast : point ≤ run.last := of_decide_eq_true hdomain.1.2
    unfold Nat.isValidChar
    omega
  · exact ⟨by omega, hvalid⟩

private theorem toNat_ofNat {point : Nat} (h : point.isValidChar) :
    (Char.ofNat point).toNat = point := by
  rw [Char.ofNat, dif_pos h]
  rfl

private theorem isMarkFree_lowerChar {c : Char} (h : 0x30 ≤ c.toNat) :
    ∀ d ∈ lowerChar c, 0x30 ≤ d.toNat := by
  have hasciiTable : ∀ point < 0x80, 0x30 ≤ point →
      0x30 ≤ (Char.ofNat point).toLower.toNat := by
    decide
  unfold lowerChar
  split_ifs with hascii hdotted
  · have hlower := hasciiTable c.toNat hascii h
    rw [Char.ofNat_toNat] at hlower
    simpa using hlower
  · exact List.forall_mem_cons.mpr ⟨by decide, List.forall_mem_singleton.mpr (by decide)⟩
  · obtain ⟨hbound, hvalid⟩ := @shiftPoint_lowerRuns c.toNat (by omega) c.valid
    simpa [toNat_ofNat hvalid] using hbound

private theorem isMarkFree_lowerFrom {chars : Chars} (afterCased : Bool)
    (h : ∀ c ∈ chars, 0x30 ≤ c.toNat) : ∀ c ∈ lowerFrom afterCased chars, 0x30 ≤ c.toNat := by
  induction chars generalizing afterCased with
  | nil => exact List.forall_mem_nil _
  | cons c rest ih =>
    rw [List.forall_mem_cons] at h
    rw [lowerFrom, List.forall_mem_append]
    refine ⟨?_, ih _ h.2⟩
    split_ifs
    · exact List.forall_mem_singleton.mpr (by decide)
    · exact List.forall_mem_singleton.mpr (by decide)
    · exact isMarkFree_lowerChar h.1

/-- Lower-casing brings no mark into a text. -/
theorem IsMarkFree.lower {text : String} (h : IsMarkFree text) : IsMarkFree (lower text) := by
  intro c hc
  rw [Text.lower, String.toList_ofList] at hc
  exact isMarkFree_lowerFrom false h c hc

/-- The name of a receiver has no mark where the name that it is made of has none. -/
theorem IsMarkFree.initial {name : String} (h : IsMarkFree name) :
    IsMarkFree (Naming.initial name) := by
  intro c hc
  unfold Naming.initial at hc
  split at hc
  · cases hc
  · next first others hname =>
    rw [String.toList_ofList] at hc
    refine isMarkFree_lowerFrom false ?_ c hc
    exact List.forall_mem_singleton.mpr (h first (by simp [hname]))

end Text

/-- A name of one entry leads from a directory to that entry. -/
theorem Path.child_eq {path : Path} {name : String} (hslash : '/' ∉ name.toList) (hne : name ≠ "")
    (hdot : name ≠ ".") : path.child name = ⟨path.anchor, path.parts ++ [name]⟩ := by
  have hsplit : Text.splitOn "/" name.toList = [name.toList] := by
    refine Text.splitFrom_eq_singleton fun hinfix => hslash ?_
    exact hinfix.subset List.mem_cons_self
  have hparts : partsOf name.toList = [name] := by
    have hkeep : (name.toList.isEmpty || name.toList == ['.']) = false := by
      rw [Bool.or_eq_false_iff, List.isEmpty_eq_false_iff, beq_eq_false_iff_ne]
      exact ⟨fun hempty => hne (String.toList_eq_nil_iff.mp hempty),
        fun hone => hdot (String.toList_inj.mp hone)⟩
    rw [partsOf, hsplit, List.filter_cons, hkeep]
    simp
  have hanchor : anchorOf name.toList = .relative := by
    cases hchars : name.toList with
    | nil => rfl
    | cons c rest =>
      have hc : c ≠ '/' := by
        rintro rfl
        exact hslash (by simp [hchars])
      unfold anchorOf
      split <;> simp_all
  simp [child, join, ofString, hparts, hanchor, isAbsolute]

end Scaffold
