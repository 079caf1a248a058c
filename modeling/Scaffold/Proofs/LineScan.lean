import Mathlib.Data.List.TakeWhile
import Scaffold.Proofs.TextSearch
import Scaffold.Source.Marker

/-!
# Searches along the starts of lines

A recogniser that looks at the starts of lines is asked once for each line. Where its finds end on
the line that they begin on, the finds without overlap are all finds. The one marking of a source
is thereby the only place where a marked struct can be found.
-/

namespace Scaffold.Source

variable {α β : Type} {recognise : Chars → Option (α × Chars)} {text line rest : Chars}

/-- The text from each start of a line on; `start` says whether the text itself begins one. -/
def lineStarts (start : Bool) : Chars → List Chars
  | [] => []
  | c :: rest => (if start then [c :: rest] else []) ++ lineStarts (c == '\n') rest

@[simp] theorem atLineStart_some (c : Char) : atLineStart (some c) = (c == '\n') := rfl

/-- What is found at the front of a text. -/
def foundAt (recognise : Chars → Option (α × Chars)) (text : Chars) : Option α :=
  (recognise text).map Prod.fst

/-- The leftmost find is that of the first line where there is one. -/
theorem firstMatch?_onLineStart :
    firstMatch? (onLineStart recognise) text =
      (lineStarts true text).findSome? (foundAt recognise) := by
  have hfrom : ∀ previous, searchFrom (onLineStart recognise) previous text =
      (lineStarts (atLineStart previous) text).findSome? (foundAt recognise) := by
    induction text with
    | nil => exact fun _ => rfl
    | cons c rest ih =>
      intro previous
      cases hstart : atLineStart previous with
      | false => simpa [searchFrom, onLineStart, hstart, lineStarts] using ih (some c)
      | true =>
        cases hfound : recognise (c :: rest) with
        | none =>
          simpa [searchFrom, onLineStart, hstart, lineStarts, foundAt, hfound] using ih (some c)
        | some find => simp [searchFrom, onLineStart, hstart, lineStarts, foundAt, hfound]
  exact hfrom none

/-- The recogniser takes something, and nothing beyond the line. -/
def StaysOnLine (recognise : Chars → Option (α × Chars)) : Prop :=
  ∀ text found after, recognise text = some (found, after) →
    ∃ used, used ≠ [] ∧ text = used ++ after ∧ '\n' ∉ used

/-- The finds without overlap are the finds of all lines. -/
theorem allMatches_onLineStart (hline : StaysOnLine recognise) :
    allMatches (onLineStart recognise) text =
      (lineStarts true text).filterMap (foundAt recognise) := by
  have hfrom : ∀ previous skip,
      skip = 0 ∨ (atLineStart previous = false ∧ '\n' ∉ text.take skip) →
      matchesFrom (onLineStart recognise) previous skip text =
        (lineStarts (atLineStart previous) text).filterMap (foundAt recognise) := by
    induction text with
    | nil => exact fun _ _ _ => rfl
    | cons c rest ih =>
      intro previous skip hskip
      cases skip with
      | succ skip =>
        obtain hzero | ⟨hstart, hnot⟩ := hskip
        · cases hzero
        obtain ⟨hc, hrest⟩ := List.ne_and_not_mem_of_not_mem_cons hnot
        have hnext : atLineStart (some c) = false := by simpa using Ne.symm hc
        simpa [matchesFrom, lineStarts, hstart] using ih (some c) skip (.inr ⟨hnext, hrest⟩)
      | zero =>
        cases hstart : atLineStart previous with
        | false =>
          simpa [matchesFrom, onLineStart, hstart, lineStarts] using ih (some c) 0 (.inl rfl)
        | true =>
          cases hfound : recognise (c :: rest) with
          | none =>
            simpa [matchesFrom, onLineStart, hstart, lineStarts, foundAt, hfound] using
              ih (some c) 0 (.inl rfl)
          | some find =>
            obtain ⟨found, after⟩ := find
            obtain ⟨used, hne, htext, hnot⟩ := hline _ _ _ hfound
            obtain ⟨d, used, rfl⟩ := List.exists_cons_of_ne_nil hne
            rw [List.cons_append] at htext
            obtain ⟨rfl, rfl⟩ := List.cons.inj htext
            obtain ⟨hc, hused⟩ := List.ne_and_not_mem_of_not_mem_cons hnot
            have hnext : atLineStart (some c) = false := by simpa using Ne.symm hc
            have hlater := ih (some c) ((used ++ after).length - after.length)
              (.inr ⟨hnext, by simpa using hused⟩)
            simpa [matchesFrom, onLineStart, hstart, lineStarts, foundAt, hfound] using hlater
  exact hfrom none 0 (.inl rfl)

/-- The lines of two texts: where the second begins one, or goes on with the last line of the
first. -/
theorem lineStarts_append (start : Bool) (before rest : Chars) :
    lineStarts start (before ++ rest) = (lineStarts start before).map (· ++ rest) ++
      lineStarts (before.getLast?.elim start (· == '\n')) rest := by
  induction before generalizing start with
  | nil => rfl
  | cons c before ih =>
    have hlast : (c :: before).getLast?.elim start (· == '\n') =
        before.getLast?.elim (c == '\n') (· == '\n') := by
      rw [List.getLast?_cons]
      cases before.getLast? <;> rfl
    rw [List.cons_append, lineStarts, lineStarts, hlast, ih]
    cases start <;> simp

/-- After whole lines a text begins a line of its own. -/
theorem lineStarts_append_of_lines {before : Chars} (hbefore : ∀ c ∈ before.getLast?, c = '\n')
    (rest : Chars) :
    lineStarts true (before ++ rest) =
      (lineStarts true before).map (· ++ rest) ++ lineStarts true rest := by
  have hstart : before.getLast?.elim true (· == '\n') = true := by
    cases hlast : before.getLast? with
    | none => rfl
    | some c => simpa using hbefore c hlast
  rw [lineStarts_append, hstart]

/-- A line that starts is an end of the text. -/
theorem of_mem_lineStarts {start : Bool} (h : line ∈ lineStarts start text) :
    line ≠ [] ∧ line <:+ text := by
  induction text generalizing start with
  | nil => cases h
  | cons c rest ih =>
    rw [lineStarts, List.mem_append] at h
    rcases h with h | h
    · cases start with
      | false => cases h
      | true =>
        obtain rfl := List.mem_singleton.mp h
        exact ⟨List.cons_ne_nil c rest, List.suffix_rfl⟩
    · obtain ⟨hne, hsuffix⟩ := ih h
      exact ⟨hne, hsuffix.trans (List.suffix_cons c rest)⟩

/-- The lines of a text that ends with a line feed have one each. -/
theorem newline_mem_of_mem_lineStarts (htext : ∀ c ∈ text.getLast?, c = '\n')
    (h : line ∈ lineStarts true text) : '\n' ∈ line := by
  obtain ⟨hne, before, rfl⟩ := of_mem_lineStarts h
  have hlast : line.getLast? = some (line.getLast hne) := List.getLast?_eq_some_getLast hne
  have hfeed := htext (line.getLast hne) (by rw [List.getLast?_append, hlast]; rfl)
  exact hfeed ▸ List.getLast_mem hne

theorem lineStarts_of_not_mem (h : '\n' ∉ text) : lineStarts false text = [] := by
  induction text with
  | nil => rfl
  | cons c rest ih =>
    obtain ⟨hc, hrest⟩ := List.ne_and_not_mem_of_not_mem_cons h
    rw [lineStarts, beq_eq_false_iff_ne.mpr hc.symm, ih hrest]
    rfl

/-! ## Markers -/

variable {marker : Chars} {continuation other : Chars → Option α}

theorem skipSpaces_eq_self (h : ∀ c ∈ text.head?, Text.isSpaceOrTab c = false) :
    skipSpaces text = text := by
  cases text with
  | nil => rfl
  | cons c rest => exact List.dropWhile_cons_of_neg (by simp [h c rfl])

/-- Only spaces are skipped. -/
theorem exists_skipSpaces (text : Chars) :
    ∃ spaces, text = spaces ++ skipSpaces text ∧ ∀ c ∈ spaces, Text.isSpaceOrTab c = true :=
  ⟨text.takeWhile Text.isSpaceOrTab, List.takeWhile_append_dropWhile.symm,
    fun _ hc => List.mem_takeWhile_imp hc⟩

theorem skipSpaces_append {spaces : Chars} (hspaces : ∀ c ∈ spaces, Text.isSpaceOrTab c = true)
    (hrest : ∀ c ∈ rest.head?, Text.isSpaceOrTab c = false) :
    skipSpaces (spaces ++ rest) = rest := by
  rw [skipSpaces, List.dropWhile_append_of_pos hspaces]
  exact skipSpaces_eq_self hrest

theorem someSpaces_append {spaces : Chars} (hne : spaces ≠ [])
    (hspaces : ∀ c ∈ spaces, Text.isSpaceOrTab c = true)
    (hrest : ∀ c ∈ rest.head?, Text.isSpaceOrTab c = false) :
    someSpaces (spaces ++ rest) = some rest := by
  obtain ⟨c, others, rfl⟩ := List.exists_cons_of_ne_nil hne
  obtain ⟨hc, hothers⟩ := List.forall_mem_cons.mp hspaces
  simp only [List.cons_append, someSpaces, hc, if_true, skipSpaces_append hothers hrest]

theorem exists_someSpaces (h : someSpaces text = some rest) :
    ∃ spaces, spaces ≠ [] ∧ text = spaces ++ rest ∧
      ∀ c ∈ spaces, Text.isSpaceOrTab c = true := by
  unfold someSpaces at h
  split at h
  · next c others =>
    split_ifs at h with hc
    obtain rfl := Option.some.inj h
    obtain ⟨spaces, htext, hspaces⟩ := exists_skipSpaces others
    exact ⟨c :: spaces, by simp, congrArg (List.cons c) htext,
      List.forall_mem_cons.mpr ⟨hc, hspaces⟩⟩
  · cases h

theorem backtrackSpaces_eq (h : ∀ c ∈ text.head?, Text.isSpaceOrTab c = false) :
    backtrackSpaces 0 continuation text = continuation text := by
  cases text with
  | nil => rfl
  | cons c rest => simp [backtrackSpaces, h c rfl]

/-- The spaces that are skipped, and what the continuation finds after them. -/
theorem spaces_of_backtrackSpaces {least : Nat} {found : α}
    (h : backtrackSpaces least continuation text = some found) :
    ∃ spaces rest, text = spaces ++ rest ∧ (∀ c ∈ spaces, Text.isSpaceOrTab c = true) ∧
      continuation rest = some found := by
  induction text generalizing least with
  | nil =>
    rw [backtrackSpaces] at h
    split_ifs at h
    exact ⟨[], [], rfl, by simp, h⟩
  | cons c rest ih =>
    rw [backtrackSpaces, Option.or_eq_some_iff] at h
    rcases h with h | ⟨-, h⟩
    · split_ifs at h with hspace
      obtain ⟨spaces, later, rfl, hspaces, hfound⟩ := ih h
      exact ⟨c :: spaces, later, rfl, by simpa [hspace] using hspaces, hfound⟩
    · split_ifs at h
      exact ⟨[], c :: rest, rfl, by simp, h⟩

/-- Going back over spaces finds what stands after them. -/
theorem isSome_backtrackSpaces {spaces : Chars}
    (hspaces : ∀ c ∈ spaces, Text.isSpaceOrTab c = true) (h : (continuation rest).isSome) :
    (backtrackSpaces 0 continuation (spaces ++ rest)).isSome := by
  induction spaces with
  | nil => cases rest <;> simp [backtrackSpaces, h]
  | cons c spaces ih =>
    obtain ⟨hc, hspaces⟩ := List.forall_mem_cons.mp hspaces
    simp [backtrackSpaces, hc, ih hspaces]

theorem literal_append (word : String) (rest : Chars) :
    literal word (word.toList ++ rest) = some rest :=
  List.isPrefixOf?_eq_some_iff_append_eq.mpr rfl

/-- A literal that is found begins the text. -/
theorem eq_of_literal {word : String} (h : literal word text = some rest) :
    text = word.toList ++ rest :=
  (List.append_eq_of_isPrefixOf?_eq_some h).symm

theorem ne_newline_of_isSpaceOrTab {c : Char} (h : Text.isSpaceOrTab c = true) : c ≠ '\n' := by
  rintro rfl
  cases h

theorem not_continuesDirective {c : Char} (h : Text.isSpaceOrTab c = true) :
    continuesDirective c = false := by
  simp only [Text.isSpaceOrTab, Bool.or_eq_true, beq_iff_eq] at h
  rcases h with rfl | rfl <;> decide

/-- The parts of a marker comment, and what the continuation finds after it. -/
theorem parts_of_markerComment? {found : α}
    (h : markerComment? marker continuation text = some found) :
    ∃ outer inner rest, text = outer ++ '/' :: '/' :: inner ++ marker ++ rest ∧
      (∀ c ∈ outer ++ inner, Text.isSpaceOrTab c = true) ∧ continuation rest = some found := by
  simp only [markerComment?, Option.bind_eq_bind, Option.bind_eq_some_iff] at h
  obtain ⟨later, hslashes, h⟩ := h
  obtain ⟨outer, htext, houter⟩ := exists_skipSpaces text
  obtain ⟨inner, rest, rfl, hinner, h⟩ := spaces_of_backtrackSpaces h
  obtain ⟨rest', hmarker, hfound⟩ := Option.bind_eq_some_iff.mp h
  refine ⟨outer, inner, rest', ?_, List.forall_mem_append.mpr ⟨houter, hinner⟩, hfound⟩
  rw [htext, eq_of_literal hslashes, ← List.append_eq_of_isPrefixOf?_eq_some hmarker]
  simp

/-- A marker in a comment is found, whatever spaces surround the slashes. -/
theorem isSome_markerComment? {outer inner : Chars}
    (hspaces : ∀ c ∈ outer ++ inner, Text.isSpaceOrTab c = true)
    (h : (continuation rest).isSome) :
    (markerComment? marker continuation
      (outer ++ '/' :: '/' :: inner ++ marker ++ rest)).isSome := by
  obtain ⟨houter, hinner⟩ := List.forall_mem_append.mp hspaces
  have hskip : skipSpaces (outer ++ '/' :: '/' :: inner ++ marker ++ rest) =
      '/' :: '/' :: inner ++ marker ++ rest := by
    simp only [skipSpaces, List.append_assoc, List.cons_append]
    rw [List.dropWhile_append_of_pos houter]
    rfl
  have hmarker : marker.isPrefixOf? (marker ++ rest) = some rest :=
    List.isPrefixOf?_eq_some_iff_append_eq.mpr rfl
  rw [markerComment?, hskip, List.append_assoc]
  exact isSome_backtrackSpaces hinner (by simpa [hmarker] using h)

/-- A marker after one space is found at once. -/
theorem markerComment?_eq (hstart : ∀ c ∈ (marker ++ rest).head?, Text.isSpaceOrTab c = false)
    {found : α} (h : continuation rest = some found) :
    markerComment? marker continuation ('/' :: '/' :: ' ' :: (marker ++ rest)) = some found := by
  have hmarker : marker.isPrefixOf? (marker ++ rest) = some rest :=
    List.isPrefixOf?_eq_some_iff_append_eq.mpr rfl
  have hfound : backtrackSpaces 0 (fun text => (marker.isPrefixOf? text).bind continuation)
      (marker ++ rest) = some found := by
    rw [backtrackSpaces_eq hstart, hmarker, Option.bind_some, h]
  change backtrackSpaces 0 (fun text => (marker.isPrefixOf? text).bind continuation)
    (' ' :: (marker ++ rest)) = some found
  have hspace : Text.isSpaceOrTab ' ' = true := rfl
  rw [backtrackSpaces, if_pos hspace, hfound, Option.some_or]

/-- A marker is found within a line. -/
theorem staysOnLine_marking? (hmarker : '\n' ∉ marker) : StaysOnLine (marking? marker) := by
  intro text found after h
  obtain ⟨outer, inner, rest, rfl, hspaces, h⟩ := parts_of_markerComment? h
  split_ifs at h
  obtain ⟨-, rfl⟩ := Prod.mk.inj (Option.some.inj h)
  refine ⟨outer ++ '/' :: '/' :: inner ++ marker, by simp, rfl, ?_⟩
  have hnot : '\n' ∉ outer ++ inner := fun h => ne_newline_of_isSpaceOrTab (hspaces _ h) rfl
  simp_all

/-- A marked struct is found only where there is a marking. -/
theorem isSome_marking? (h : (markedStruct? marker text).isSome) :
    (marking? marker text).isSome := by
  obtain ⟨found, hfound⟩ := Option.isSome_iff_exists.mp h
  obtain ⟨outer, inner, rest, rfl, hspaces, h⟩ := parts_of_markerComment? hfound
  apply isSome_markerComment? hspaces
  obtain ⟨below, hend, -⟩ := Option.bind_eq_some_iff.mp h
  obtain ⟨spaces, hrest, hspace⟩ := exists_skipSpaces rest
  rw [lineEnd] at hend
  rw [eq_of_literal hend] at hrest
  have halone : rest.head?.any continuesDirective = false := by
    rw [hrest]
    cases spaces with
    | nil =>
      have hbreak : continuesDirective '\n' = false := by decide
      exact hbreak
    | cons c others => exact not_continuesDirective (hspace c (by simp))
  simp [halone]

/-- The marked struct of a source with one marking is that below the marking. -/
theorem findMarkedStruct_eq {before : Chars} {c : Char} {block : StructBlock} {after : Chars}
    (hmarker : '\n' ∉ marker) (hbefore : ∀ d ∈ before.getLast?, d = '\n')
    (hcount : countMarkings marker (before ++ c :: rest) = 1)
    (hstruct : markedStruct? marker (c :: rest) = some (block, after)) :
    findMarkedStruct marker (before ++ c :: rest) = .ok block := by
  have hlines := lineStarts_append_of_lines hbefore (c :: rest)
  rw [lineStarts.eq_2 true, if_pos rfl, List.singleton_append] at hlines
  generalize (lineStarts true before).map (· ++ c :: rest) = earlier at hlines
  have hcount' := hcount
  rw [countMarkings, allMatches_onLineStart (staysOnLine_marking? hmarker), hlines] at hcount'
  have hhere : (foundAt (marking? marker) (c :: rest)).isSome := by
    simpa [foundAt] using isSome_marking? (by rw [hstruct]; rfl)
  obtain ⟨mark, hmark⟩ := Option.isSome_iff_exists.mp hhere
  rw [List.filterMap_append, List.filterMap_cons_some hmark, List.length_append,
    List.length_cons] at hcount'
  have hearlier : earlier.filterMap (foundAt (marking? marker)) = [] :=
    List.eq_nil_of_length_eq_zero (by omega)
  have hnone : earlier.findSome? (foundAt (markedStruct? marker)) = none := by
    rw [List.findSome?_eq_none_iff]
    intro line hline
    rw [List.filterMap_eq_nil_iff] at hearlier
    have hunmarked := hearlier line hline
    rw [foundAt, Option.map_eq_none_iff] at hunmarked ⊢
    by_contra hne
    have hmarked := isSome_marking? (Option.isSome_iff_ne_none.mpr hne)
    rw [hunmarked] at hmarked
    cases hmarked
  have hfirst : firstMatch? (onLineStart (markedStruct? marker)) (before ++ c :: rest) =
      some block := by
    rw [firstMatch?_onLineStart, hlines, List.findSome?_append, hnone, Option.none_or,
      List.findSome?_cons, foundAt, hstruct]
    rfl
  simp only [findMarkedStruct, hcount, hfirst, ne_eq, not_true_eq_false, if_false]

end Scaffold.Source
