import Mathlib.Data.List.TakeWhile
import Scaffold.Source.Scan

/-!
# Trimmed texts

Trimming takes blanks off both ends of a text and nothing else, so a text without blanks at its
ends is left alone. Words have no blank in them, and collapsing a text keeps its words.
-/

namespace Scaffold

namespace Text

variable {text before after : Chars} {c : Char}

/-- A run over the text decides what holds of each of its characters. -/
theorem forall_mem_of_all {holds : Char → Prop} [DecidablePred holds]
    (h : (text.all fun c => decide (holds c)) = true) : ∀ c ∈ text, holds c := by
  simpa using h

/-- No blank stands at either end of the text. -/
structure IsTrimmed (text : Chars) : Prop where
  start : ∀ c ∈ text.head?, isBlank c = false
  stop : ∀ c ∈ text.getLast?, isBlank c = false

private theorem all_not_isBlank_iff (end? : Option Char) :
    (end?.all fun c => !isBlank c) = true ↔ ∀ c ∈ end?, isBlank c = false := by
  cases end? <;> simp

instance (text : Chars) : Decidable (IsTrimmed text) :=
  decidable_of_iff ((text.head?.all fun c => !isBlank c) = true ∧
      (text.getLast?.all fun c => !isBlank c) = true)
    ⟨fun h => ⟨(all_not_isBlank_iff _).mp h.1, (all_not_isBlank_iff _).mp h.2⟩,
      fun h => ⟨(all_not_isBlank_iff _).mpr h.start, (all_not_isBlank_iff _).mpr h.stop⟩⟩

/-- Text that does not begin with a blank is left as it is at its start. -/
theorem trimStart_eq_self (h : ∀ c ∈ text.head?, isBlank c = false) : trimStart text = text := by
  cases text with
  | nil => rfl
  | cons c rest => exact List.dropWhile_cons_of_neg (by simp [h c rfl])

/-- Text that does not end with a blank is left as it is at its end. -/
theorem trimEnd_eq_self (h : ∀ c ∈ text.getLast?, isBlank c = false) : trimEnd text = text := by
  have hreverse := @trimStart_eq_self text.reverse (by simpa using h)
  rw [trimStart] at hreverse
  rw [trimEnd, dropEndWhile, hreverse, List.reverse_reverse]

/-- Trimmed text is left as it is. -/
theorem IsTrimmed.trim_eq (h : IsTrimmed text) : trim text = text := by
  rw [trim, trimStart_eq_self h.start, trimEnd_eq_self h.stop]

/-- Text is trimmed if it neither begins nor ends with a blank. -/
theorem isTrimmed_append {middle : Chars} (hne : before ≠ [])
    (hstart : ∀ c ∈ before.head?, isBlank c = false) (hne' : after ≠ [])
    (hstop : ∀ c ∈ after.getLast?, isBlank c = false) : IsTrimmed (before ++ middle ++ after) := by
  constructor
  · obtain ⟨c, rest, rfl⟩ := List.exists_cons_of_ne_nil hne
    simpa using hstart
  · rw [List.getLast?_eq_some_getLast hne'] at hstop
    rwa [List.getLast?_append, List.getLast?_eq_some_getLast hne', Option.some_or]

/-- Trimmed pieces that are not empty are joined into trimmed text. -/
theorem isTrimmed_intercalate {separator : Chars} {pieces : List Chars}
    (h : ∀ piece ∈ pieces, piece ≠ [] ∧ IsTrimmed piece) :
    IsTrimmed (separator.intercalate pieces) := by
  induction pieces with
  | nil => exact ⟨by simp, by simp⟩
  | cons first others ih =>
    obtain ⟨⟨hne, hfirst⟩, hothers⟩ := List.forall_mem_cons.mp h
    cases others with
    | nil => simpa using hfirst
    | cons second rest =>
      have hsecond := (hothers second (by simp)).1
      rw [List.intercalate_cons_cons]
      refine isTrimmed_append hne hfirst.start ?_ (ih hothers).stop
      cases rest <;> simp [List.intercalate_cons_cons, hsecond]

/-- Only blanks are taken away at the start. -/
theorem exists_trimStart (text : Chars) :
    ∃ before, text = before ++ trimStart text ∧ ∀ c ∈ before, isBlank c = true :=
  ⟨text.takeWhile isBlank, List.takeWhile_append_dropWhile.symm,
    fun _ hc => List.mem_takeWhile_imp hc⟩

/-- Only blanks are taken away at the end. -/
theorem exists_trimEnd (text : Chars) :
    ∃ after, text = trimEnd text ++ after ∧ ∀ c ∈ after, isBlank c = true := by
  obtain ⟨before, htext, hblank⟩ := exists_trimStart text.reverse
  refine ⟨before.reverse, ?_, by simpa using hblank⟩
  rw [trimEnd, dropEndWhile, ← List.reverse_append]
  exact List.reverse_eq_iff.mp htext

/-- Trimming takes nothing but blanks off the two ends. -/
theorem exists_trim (text : Chars) :
    ∃ before after, text = before ++ trim text ++ after ∧
      (∀ c ∈ before, isBlank c = true) ∧ ∀ c ∈ after, isBlank c = true := by
  obtain ⟨before, hstart, hbefore⟩ := exists_trimStart text
  obtain ⟨after, hend, hafter⟩ := exists_trimEnd (trimStart text)
  refine ⟨before, after, ?_, hbefore, hafter⟩
  rw [trim, List.append_assoc, ← hend]
  exact hstart

/-- Trimming at the end stops at a character that is no blank. -/
theorem trimEnd_append_cons (hc : isBlank c = false) (before after : Chars) :
    trimEnd (before ++ c :: after) = before ++ c :: trimEnd after := by
  have hhead : (c :: before.reverse).dropWhile isBlank = c :: before.reverse :=
    List.dropWhile_cons_of_neg (by simp [hc])
  simp only [trimEnd, dropEndWhile, List.reverse_append, List.reverse_cons, List.append_assoc,
    List.singleton_append, List.dropWhile_append, hhead]
  split
  · next hempty => simp [List.isEmpty_iff.mp hempty]
  · simp

/-- Blanks after the text do not matter. -/
theorem trimEnd_append_of_blank (h : ∀ c ∈ after, isBlank c = true) :
    trimEnd (text ++ after) = trimEnd text := by
  have hdropped : after.reverse.dropWhile isBlank = [] := by
    rw [List.dropWhile_eq_nil_iff]
    simpa using h
  simp [trimEnd, dropEndWhile, List.dropWhile_append, hdropped]

/-- Text that is not all blank keeps what stands before it. -/
theorem trimEnd_append (h : trimEnd text ≠ []) (before : Chars) :
    trimEnd (before ++ text) = before ++ trimEnd text := by
  have hne : text.reverse.dropWhile isBlank ≠ [] := by simpa [trimEnd, dropEndWhile] using h
  simp only [trimEnd, dropEndWhile, List.reverse_append, List.dropWhile_append,
    List.isEmpty_iff, hne, if_false, List.reverse_reverse]

theorem trimEnd_append_of_stop (hne : text ≠ []) (h : ∀ c ∈ text.getLast?, isBlank c = false)
    (after : Chars) : trimEnd (text ++ after) = text ++ trimEnd after := by
  obtain ⟨others, last, rfl⟩ := List.eq_nil_or_concat text |>.resolve_left hne
  have hlast : isBlank last = false := h last (by simp)
  simpa using trimEnd_append_cons hlast others after

theorem start_trimStart (hc : c ∈ (trimStart text).head?) : isBlank c = false := by
  have hfirst := List.head?_dropWhile_not isBlank text
  rwa [← trimStart, Option.mem_def.mp hc] at hfirst

/-- What trimming leaves is trimmed. -/
theorem isTrimmed_trim (text : Chars) : IsTrimmed (trim text) := by
  constructor
  · intro c hc
    obtain ⟨after, hstart, -⟩ := exists_trimEnd (trimStart text)
    apply @start_trimStart text
    rw [hstart, ← trim, List.head?_append, Option.mem_def.mp hc]
    rfl
  · intro c hc
    rw [trim, trimEnd, dropEndWhile, List.getLast?_reverse] at hc
    exact start_trimStart hc

/-- Blanks after the text are trimmed away. -/
theorem trim_append_of_blank (h : ∀ c ∈ after, isBlank c = true) :
    trim (text ++ after) = trim text := by
  have hdropped : after.dropWhile isBlank = [] := List.dropWhile_eq_nil_iff.mpr h
  rw [trim, trim, trimStart, trimStart, List.dropWhile_append]
  split
  · next hempty => rw [hdropped, List.isEmpty_iff.mp hempty]
  · exact trimEnd_append_of_blank h

theorem trim_trimEnd (text : Chars) : trim (trimEnd text) = trim text := by
  obtain ⟨after, htext, hblank⟩ := exists_trimEnd text
  rw [← @trim_append_of_blank (trimEnd text) after hblank, ← htext]

/-- Blanks before the text are trimmed away. -/
theorem trim_blank_append (h : ∀ c ∈ before, isBlank c = true) (text : Chars) :
    trim (before ++ text) = trim text := by
  rw [trim, trimStart, List.dropWhile_append_of_pos h, ← trimStart, ← trim]

/-- Nothing is left of blanks. -/
theorem trim_of_blank (h : ∀ c ∈ text, isBlank c = true) : trim text = [] :=
  @trim_append_of_blank [] text h

theorem trim_cons (hc : isBlank c = true) (text : Chars) : trim (c :: text) = trim text :=
  @trim_blank_append [c] (by simpa using hc) text

private theorem isWord_blankRanges :
    ∀ range ∈ blankRanges, ∀ offset < range.2 + 1 - range.1,
      isWord (Char.ofNat (range.1 + offset)) = false := by
  decide +kernel

/-- No character of a word is blank. -/
theorem isBlank_of_isWord (h : isWord c = true) : isBlank c = false := by
  rw [Bool.eq_false_iff]
  intro hblank
  obtain ⟨range, hrange, hin⟩ := List.any_eq_true.mp hblank
  simp only [Bool.and_eq_true, decide_eq_true_eq] at hin
  have hword := isWord_blankRanges range hrange (c.toNat - range.1) (by omega)
  rw [Nat.add_sub_cancel' hin.1, Char.ofNat_toNat, h] at hword
  cases hword

/-! ## Words -/

/-- A blank ends the word before it and begins no word. -/
theorem words_append_cons (hc : isBlank c = true) (before after : Chars) :
    words (before ++ c :: after) = words before ++ words after := by
  have hfrom : wordsFrom (before ++ c :: after) =
      ((wordsFrom before).1, (wordsFrom before).2 ++ words after) := by
    induction before with
    | nil => simp [wordsFrom, hc, words]
    | cons d rest ih =>
      rw [List.cons_append, wordsFrom, ih, wordsFrom]
      by_cases hd : isBlank d = true
      · by_cases hword : (wordsFrom rest).1.isEmpty = true <;> simp [hd, hword]
      · simp [hd]
  rw [words, hfrom, words.eq_1 before]
  by_cases hword : (wordsFrom before).1.isEmpty = true <;> simp [hword]

/-- Text without blanks is one word. -/
theorem words_of_unblank (hne : text ≠ []) (h : ∀ c ∈ text, isBlank c = false) :
    words text = [text] := by
  have hfrom : wordsFrom text = (text, []) := by
    clear hne
    induction text with
    | nil => rfl
    | cons c rest ih =>
      obtain ⟨hc, hrest⟩ := List.forall_mem_cons.mp h
      rw [wordsFrom, ih hrest]
      simp [hc]
  simp [words, hfrom, hne]

/-- Spaces around a text leave no trace when it is collapsed. -/
theorem collapse_spaced (text : Chars) : collapse (' ' :: (text ++ [' '])) = collapse text := by
  have hblank : isBlank ' ' = true := rfl
  have hstart := words_append_cons hblank [] text
  have hstop := words_append_cons hblank (' ' :: text) []
  have hnil : words [] = [] := rfl
  rw [hnil, List.nil_append, List.nil_append] at hstart
  rw [hnil, List.append_nil, hstart, List.cons_append] at hstop
  rw [collapse, hstop, collapse]

/-- The words hold what is not blank. -/
theorem flatten_words (text : Chars) : (words text).flatten = text.filter fun c => !isBlank c := by
  have hwords : (words text).flatten = (wordsFrom text).1 ++ (wordsFrom text).2.flatten := by
    rw [words]
    by_cases hword : (wordsFrom text).1.isEmpty = true
    · simp [List.isEmpty_iff.mp hword]
    · simp [hword]
  rw [hwords]
  clear hwords
  induction text with
  | nil => rfl
  | cons c rest ih =>
    rw [wordsFrom]
    by_cases hc : isBlank c = true
    · by_cases hword : (wordsFrom rest).1 = [] <;> simp [hc, hword, ← ih]
    · simp [hc, ← ih]

/-- Collapsing takes only blanks away, and adds only spaces. -/
theorem filter_collapse (text : Chars) :
    ((collapse text).filter fun c => !isBlank c) = text.filter fun c => !isBlank c := by
  have hspace : isBlank ' ' = true := rfl
  have hjoin : ∀ pieces : List Chars,
      (([' '].intercalate pieces).filter fun c => !isBlank c) =
        pieces.flatten.filter fun c => !isBlank c := by
    intro pieces
    induction pieces with
    | nil => simp
    | cons first others ih =>
      cases others with
      | nil => simp
      | cons second others =>
        rw [List.intercalate_cons_cons, List.filter_append, ih, List.flatten_cons]
        simp [hspace]
  rw [collapse, hjoin, flatten_words, List.filter_filter]
  simp

/-- Collapsing keeps every character that is no blank. -/
theorem mem_collapse (hc : isBlank c = false) : c ∈ collapse text ↔ c ∈ text := by
  have hfilter : ∀ text : Chars, (c ∈ text.filter fun c => !isBlank c) ↔ c ∈ text := by
    simp [hc]
  rw [← hfilter, filter_collapse, hfilter]

end Text

namespace Source

variable {name : Chars} {c : Char}

/-- An identifier starts with a character of one byte. -/
theorem toNat_lt_of_startsIdentifier (h : startsIdentifier c = true) : c.toNat < 0x80 := by
  simp only [startsIdentifier, Text.isAsciiLetter, Bool.or_eq_true, Bool.and_eq_true,
    decide_eq_true_eq, beq_iff_eq] at h
  rcases h with (⟨-, h⟩ | ⟨-, h⟩) | rfl
  · exact lt_of_le_of_lt (UInt32.le_iff_toNat_le.mp h) (by decide)
  · exact lt_of_le_of_lt (UInt32.le_iff_toNat_le.mp h) (by decide)
  · decide

/-- What starts an identifier is part of a word. -/
theorem isWord_of_startsIdentifier (h : startsIdentifier c = true) : Text.isWord c = true := by
  have hascii := toNat_lt_of_startsIdentifier h
  simp only [startsIdentifier, Bool.or_eq_true] at h
  rcases h with h | h <;> simp [Text.isWord, hascii, h]

/-- An identifier is a word. -/
theorem isWord_of_isIdentifier (h : isIdentifier name = true) :
    ∀ c ∈ name, Text.isWord c = true := by
  cases name with
  | nil => cases h
  | cons first rest =>
    simp only [isIdentifier, Bool.and_eq_true, List.all_eq_true] at h
    intro c hc
    rcases List.mem_cons.mp hc with rfl | hc
    · exact isWord_of_startsIdentifier h.1
    · exact h.2 c hc

/-- An identifier has no blanks to be trimmed away. -/
theorem isTrimmed_of_isIdentifier (h : isIdentifier name = true) : Text.IsTrimmed name :=
  ⟨fun _ hc => Text.isBlank_of_isWord (isWord_of_isIdentifier h _ (List.mem_of_mem_head? hc)),
    fun _ hc => Text.isBlank_of_isWord (isWord_of_isIdentifier h _ (List.mem_of_mem_getLast? hc))⟩

end Source

end Scaffold
