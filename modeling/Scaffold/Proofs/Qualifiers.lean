import Scaffold.Proofs.Balance
import Scaffold.Proofs.LineScan
import Scaffold.Source.Import

/-!
# The qualifiers that a text uses

A qualified name holds no character but word characters and one dot. So the qualifiers of a text are
those of its pieces, wherever it is cut at other characters: at blanks, at the commas of a list, or
between the tokens of an entry.
-/

namespace Scaffold

namespace Source

variable {c : Char} {text : Chars} {pieces items : List Chars} {qualifier : String}
  {previous : Option Char}

/-- The qualifiers that a text uses, as often as it uses them. -/
def qualifiersIn (text : Chars) : List String :=
  (allMatches qualified? text).map String.ofList

theorem findQualifiers_eq (text : Chars) :
    findQualifiers text = (qualifiersIn text).eraseDups := rfl

/-- A qualifier is found exactly if it stands in the text. -/
theorem mem_findQualifiers : qualifier ∈ findQualifiers text ↔ qualifier ∈ qualifiersIn text :=
  List.mem_eraseDups

/-- The character stands in no qualified name. -/
def separates (c : Char) : Bool :=
  !Text.isWord c && c != '.'

/-- Blanks separate. -/
theorem separates_of_isBlank (h : Text.isBlank c = true) : separates c = true := by
  have hword : Text.isWord c = false := by
    rw [Bool.eq_false_iff]
    intro hword
    rw [Text.isBlank_of_isWord hword] at h
    cases h
  have hdot : c ≠ '.' := by
    rintro rfl
    exact absurd h (by decide)
  simp [separates, hword, hdot]

/-- What separates is no part of a word. -/
theorem isWord_of_separates (h : separates c = true) : Text.isWord c = false := by
  simp only [separates, Bool.and_eq_true, Bool.not_eq_true'] at h
  exact h.1

/-! ## Finds on both sides of a separator -/

/-- A word ends before a separator. -/
theorem word?_append_cons (h : separates c = true) (text rest : Chars) :
    word? (text ++ c :: rest) =
      (word? text).map fun found => (found.1, found.2 ++ c :: rest) := by
  have hword := isWord_of_separates h
  have hparts : (text ++ c :: rest).takeWhile Text.isWord = text.takeWhile Text.isWord ∧
      (text ++ c :: rest).dropWhile Text.isWord = text.dropWhile Text.isWord ++ c :: rest := by
    induction text with
    | nil => simp [hword]
    | cons first others ih =>
      cases hfirst : Text.isWord first with
      | true => simpa [hfirst] using ih
      | false => simp [hfirst]
  simp only [word?, hparts.1, hparts.2]
  split_ifs <;> rfl

/-- An identifier ends before a separator. -/
theorem identifier?_append_cons (h : separates c = true) (text rest : Chars) :
    identifier? (text ++ c :: rest) =
      (identifier? text).map fun found => (found.1, found.2 ++ c :: rest) := by
  cases text with
  | nil =>
    have hstart : startsIdentifier c = false := by
      rw [Bool.eq_false_iff]
      intro hstart
      have hword := isWord_of_separates h
      rw [isWord_of_startsIdentifier hstart] at hword
      cases hword
    simp [identifier?, hstart]
  | cons first others =>
    have happend := word?_append_cons h (first :: others) rest
    rw [List.cons_append] at happend ⊢
    simp only [identifier?]
    split_ifs
    · exact happend
    · rfl

/-- A dot is found before a separator or not at all. -/
theorem literal_dot_append_cons (h : separates c = true) (text rest : Chars) :
    literal "." (text ++ c :: rest) = (literal "." text).map (· ++ c :: rest) := by
  have hdot : c ≠ '.' := by simp_all [separates]
  cases text with
  | nil => simp [literal, List.isPrefixOf?, hdot.symm]
  | cons first others =>
    by_cases hfirst : '.' = first <;> simp [literal, List.isPrefixOf?, hfirst]

/-- A qualified name ends before a separator. -/
theorem qualified?_append_cons (h : separates c = true) (text rest : Chars) :
    qualified? previous (text ++ c :: rest) =
      (qualified? previous text).map fun found => (found.1, found.2 ++ c :: rest) := by
  unfold qualified?
  split_ifs
  · rfl
  · rw [identifier?_append_cons h]
    cases identifier? text with
    | none => rfl
    | some found =>
      simp only [Option.map_some, Option.bind_eq_bind, Option.bind_some]
      rw [literal_dot_append_cons h]
      cases literal "." found.2 with
      | none => rfl
      | some after =>
        simp only [Option.map_some, Option.bind_some]
        rw [identifier?_append_cons h]
        cases identifier? after <;> rfl

/-- What stands before the text matters only if it is part of a word. -/
theorem matchesFrom_qualified?_congr {other : Option Char} (h : previous.any Text.isWord = false)
    (hother : other.any Text.isWord = false) (text : Chars) :
    matchesFrom qualified? previous 0 text = matchesFrom qualified? other 0 text := by
  cases text with
  | nil => rfl
  | cons c rest => simp only [matchesFrom, qualified?, h, hother]

/-- A separator parts the qualified names before it from those after it. -/
theorem matchesFrom_qualified?_append_cons (h : separates c = true) {skip : Nat}
    (hskip : skip ≤ text.length) (rest : Chars) :
    matchesFrom qualified? previous skip (text ++ c :: rest) =
      matchesFrom qualified? previous skip text ++ allMatches qualified? rest := by
  induction text generalizing previous skip with
  | nil =>
    obtain rfl : skip = 0 := by simpa using hskip
    have hnone : qualified? previous (c :: rest) = none := by
      simpa [qualified?, identifier?] using @qualified?_append_cons c previous h [] rest
    simp only [List.nil_append, matchesFrom, hnone]
    exact matchesFrom_qualified?_congr (by simpa using isWord_of_separates h) rfl rest
  | cons first others ih =>
    cases skip with
    | succ skip => exact ih (by simpa using hskip)
    | zero =>
      have happend := @qualified?_append_cons c previous h (first :: others) rest
      rw [List.cons_append] at happend ⊢
      simp only [matchesFrom, happend]
      cases qualified? previous (first :: others) with
      | none => exact ih (Nat.zero_le _)
      | some found =>
        have hlength : (others ++ c :: rest).length - (found.2 ++ c :: rest).length =
            others.length - found.2.length := by
          simp only [List.length_append]
          omega
        simp only [Option.map_some, hlength, List.cons_append]
        rw [ih (Nat.sub_le _ _)]

/-- The qualifiers on both sides of a separator. -/
theorem qualifiersIn_append_cons (h : separates c = true) (text rest : Chars) :
    qualifiersIn (text ++ c :: rest) = qualifiersIn text ++ qualifiersIn rest := by
  rw [qualifiersIn, allMatches, matchesFrom_qualified?_append_cons h (Nat.zero_le _),
    List.map_append]
  rfl

/-! ## Where a qualifier stands -/

/-- The character before a place, seen from one character further back. -/
theorem getLast?_cons_or (c : Char) (before : Chars) (previous : Option Char) :
    (c :: before).getLast?.or previous = before.getLast?.or (some c) := by
  rw [List.getLast?_cons, Option.some_or]
  cases before.getLast? <;> rfl

/-- What is found, the recogniser found at a place of the text. -/
theorem mem_matchesFrom {α : Type} {recognise : Recogniser α} {found : α} {skip : Nat}
    (h : found ∈ matchesFrom recognise previous skip text) :
    ∃ before rest after, text = before ++ rest ∧
      recognise (before.getLast?.or previous) rest = some (found, after) := by
  induction text generalizing previous skip with
  | nil => cases h
  | cons c others ih =>
    have hlater : ∀ skip, found ∈ matchesFrom recognise (some c) skip others →
        ∃ before rest after, c :: others = before ++ rest ∧
          recognise (before.getLast?.or previous) rest = some (found, after) := by
      intro skip hfound
      obtain ⟨before, rest, after, rfl, hrest⟩ := ih hfound
      exact ⟨c :: before, rest, after, rfl, by rwa [getLast?_cons_or]⟩
    cases skip with
    | succ skip => exact hlater skip h
    | zero =>
      simp only [matchesFrom] at h
      split at h
      · next first after hfirst =>
        rcases List.mem_cons.mp h with rfl | h
        · exact ⟨[], c :: others, after, rfl, hfirst⟩
        · exact hlater _ h
      · exact hlater _ h

/-- A search finds something exactly when its recogniser does at some place. -/
theorem isSome_firstMatch?_iff {α : Type} {recognise : Recogniser α}
    (hnil : ∀ previous, recognise previous [] = none) :
    (firstMatch? recognise text).isSome = true ↔
      ∃ before rest, text = before ++ rest ∧ (recognise before.getLast? rest).isSome = true := by
  have hfrom : ∀ previous, (searchFrom recognise previous text).isSome = true ↔
      ∃ before rest, text = before ++ rest ∧
        (recognise (before.getLast?.or previous) rest).isSome = true := by
    induction text with
    | nil =>
      intro previous
      simp [searchFrom, hnil]
    | cons c others ih =>
      intro previous
      rw [searchFrom]
      cases hfound : recognise previous (c :: others) with
      | some find => exact ⟨fun _ => ⟨[], c :: others, rfl, by simp [hfound]⟩, fun _ => rfl⟩
      | none =>
        refine (ih (some c)).trans ?_
        constructor
        · rintro ⟨before, rest, rfl, hsome⟩
          exact ⟨c :: before, rest, rfl, by rwa [getLast?_cons_or]⟩
        · rintro ⟨before, rest, htext, hsome⟩
          cases before with
          | nil =>
            obtain rfl : c :: others = rest := htext
            simp [hfound] at hsome
          | cons first before =>
            obtain ⟨rfl, rfl⟩ := List.cons.inj htext
            exact ⟨before, rest, rfl, by rwa [getLast?_cons_or] at hsome⟩
  have hstart := hfrom none
  simp only [Option.or_none] at hstart
  exact hstart

/-- What is scanned as a word begins the text, and is one. -/
theorem of_word? {found : Chars × Chars} (h : word? text = some found) :
    text = found.1 ++ found.2 ∧ found.1 ≠ [] ∧ ∀ c ∈ found.1, Text.isWord c = true := by
  simp only [word?] at h
  split_ifs at h with hempty
  obtain rfl := Option.some.inj h
  exact ⟨List.takeWhile_append_dropWhile.symm, by simpa using hempty,
    fun c hc => List.mem_takeWhile_imp hc⟩

/-- What is scanned as an identifier begins the text, and is one. -/
theorem of_identifier? {found : Chars × Chars} (h : identifier? text = some found) :
    text = found.1 ++ found.2 ∧ isIdentifier found.1 = true := by
  unfold identifier? at h
  split at h
  · split_ifs at h with hstart
    obtain ⟨htext, hne, hwords⟩ := of_word? h
    obtain ⟨name, rest⟩ := found
    refine ⟨htext, ?_⟩
    cases name with
    | nil => exact absurd rfl hne
    | cons first name =>
      obtain ⟨rfl, -⟩ := List.cons.inj htext
      simp only [isIdentifier, hstart, Bool.true_and, List.all_eq_true]
      exact (List.forall_mem_cons.mp hwords).2
  · cases h

/-- A qualifier is a word of the text with a dot and a name after it. -/
theorem exists_place_of_mem_qualifiersIn (h : qualifier ∈ qualifiersIn text) :
    ∃ before after, text = before ++ qualifier.toList ++ '.' :: after ∧
      before.getLast?.any Text.isWord = false ∧
      (∀ c ∈ qualifier.toList, Text.isWord c = true) ∧
      after.head?.any startsIdentifier = true := by
  obtain ⟨found, hfound, rfl⟩ := List.mem_map.mp h
  obtain ⟨before, rest, after, rfl, hrest⟩ := mem_matchesFrom hfound
  rw [Option.or_none, qualified?] at hrest
  split_ifs at hrest with hword
  simp only [Option.bind_eq_bind, Option.bind_eq_some_iff] at hrest
  obtain ⟨first, hfirst, dotted, hdot, second, hsecond, hpair⟩ := hrest
  obtain ⟨rfl, -⟩ := Prod.mk.inj (Option.some.inj hpair)
  obtain ⟨htext, hname⟩ := of_identifier? hfirst
  have hwords := isWord_of_isIdentifier hname
  rw [String.toList_ofList]
  refine ⟨before, dotted, ?_, Bool.eq_false_iff.mpr hword, hwords, ?_⟩
  · rw [htext, eq_of_literal hdot]
    simp
  · cases dotted with
    | nil => cases hsecond
    | cons c others =>
      rw [identifier?] at hsecond
      split_ifs at hsecond with hstart
      exact hstart

/-- A qualifier is a word of the text with a dot after it. -/
theorem exists_of_mem_qualifiersIn (h : qualifier ∈ qualifiersIn text) :
    ∃ before after, text = before ++ qualifier.toList ++ '.' :: after ∧
      before.getLast?.any Text.isWord = false ∧
      ∀ c ∈ qualifier.toList, Text.isWord c = true := by
  obtain ⟨before, after, htext, hlast, hwords, -⟩ := exists_place_of_mem_qualifiersIn h
  exact ⟨before, after, htext, hlast, hwords⟩

theorem not_mem_dot_of_isWord {word : Chars} (h : ∀ c ∈ word, Text.isWord c = true) :
    '.' ∉ word :=
  fun hmem => absurd (h '.' hmem) (by decide)

/-- Without a dot there is no qualifier. -/
theorem qualifiersIn_of_not_mem_dot (h : '.' ∉ text) : qualifiersIn text = [] := by
  rw [List.eq_nil_iff_forall_not_mem]
  intro qualifier hqualifier
  obtain ⟨before, after, rfl, -⟩ := exists_of_mem_qualifiersIn hqualifier
  exact h (by simp)

/-- An identifier has no qualifier. -/
theorem qualifiersIn_of_isIdentifier {name : Chars} (h : isIdentifier name = true) :
    qualifiersIn name = [] :=
  qualifiersIn_of_not_mem_dot fun hdot => absurd (isWord_of_isIdentifier h '.' hdot) (by decide)

/-! ## Pieces of texts -/

@[simp] theorem qualifiersIn_nil : qualifiersIn [] = [] := rfl

/-- Separators before the text add no qualifier. -/
theorem qualifiersIn_separators_append {before : Chars} (h : before.all separates = true)
    (text : Chars) : qualifiersIn (before ++ text) = qualifiersIn text := by
  induction before with
  | nil => rfl
  | cons c before ih =>
    rw [List.all_cons, Bool.and_eq_true] at h
    rw [← ih h.2, List.cons_append]
    exact qualifiersIn_append_cons h.1 [] (before ++ text)

/-- Separators after the text add no qualifier. -/
theorem qualifiersIn_append_separators {after : Chars} (h : after.all separates = true)
    (text : Chars) : qualifiersIn (text ++ after) = qualifiersIn text := by
  cases after with
  | nil => rw [List.append_nil]
  | cons c after =>
    rw [List.all_cons, Bool.and_eq_true] at h
    have hafter := qualifiersIn_separators_append h.2 []
    rw [List.append_nil, qualifiersIn_nil] at hafter
    rw [qualifiersIn_append_cons h.1, hafter, List.append_nil]

/-- Trimming keeps the qualifiers. -/
theorem qualifiersIn_trim (text : Chars) : qualifiersIn (Text.trim text) = qualifiersIn text := by
  obtain ⟨before, after, htext, hbefore, hafter⟩ := Text.exists_trim text
  have hblank : ∀ {blanks : Chars}, (∀ c ∈ blanks, Text.isBlank c = true) →
      blanks.all separates = true :=
    fun hblanks => List.all_eq_true.mpr fun c hc => separates_of_isBlank (hblanks c hc)
  conv_rhs => rw [htext]
  rw [qualifiersIn_append_separators (hblank hafter),
    qualifiersIn_separators_append (hblank hbefore)]

/-- The qualifiers of a joined text. -/
theorem qualifiersIn_intercalate {separator : Chars} (hne : separator ≠ [])
    (h : separator.all separates = true) (pieces : List Chars) :
    qualifiersIn (separator.intercalate pieces) = pieces.flatMap qualifiersIn := by
  induction pieces with
  | nil => simp [List.intercalate]
  | cons first others ih =>
    cases others with
    | nil => simp
    | cons second others =>
      obtain ⟨c, more, rfl⟩ := List.exists_cons_of_ne_nil hne
      rw [List.all_cons, Bool.and_eq_true] at h
      rw [List.intercalate_cons_cons, List.append_assoc, List.cons_append,
        qualifiersIn_append_cons h.1, qualifiersIn_separators_append h.2, ih, ← List.flatMap_cons]

/-- The qualifiers of a list, by its items. -/
theorem qualifiersIn_of_splitTop (h : splitTop (some ',') text = .ok items) :
    qualifiersIn text = items.flatMap qualifiersIn := by
  obtain ⟨pieces, hpieces, rfl⟩ := exists_of_splitTop h
  have hdropped : ∀ pieces : List Chars,
      ((pieces.map Text.trim).filter fun piece => !piece.isEmpty).flatMap qualifiersIn =
        pieces.flatMap qualifiersIn := by
    intro pieces
    induction pieces with
    | nil => rfl
    | cons piece others ih =>
      rw [List.map_cons, List.filter_cons, List.flatMap_cons, ← qualifiersIn_trim piece, ← ih]
      split_ifs with hkept
      · rfl
      · rw [Bool.not_eq_true, Bool.not_eq_false', List.isEmpty_iff] at hkept
        rw [hkept]
        rfl
  rw [← (intercalate_topPieces hpieces).2, qualifiersIn_intercalate (by simp) (by decide),
    hdropped]

/-- The first token may go on with what stands before the text, so that this is kept. -/
private theorem qualifiersIn_append_tokensFrom (before text : Chars) (depth : Int) :
    qualifiersIn (before ++ text) = qualifiersIn (before ++ (tokensFrom depth text).1) ++
      (tokensFrom depth text).2.flatMap qualifiersIn := by
  induction text generalizing before depth with
  | nil => simp [tokensFrom]
  | cons c rest ih =>
    by_cases hcut : Text.isBlank c = true ∧ depth + depthStep c = 0
    · obtain ⟨hblank, hzero⟩ := hcut
      obtain rfl : depth = 0 := by rw [← hzero, depthStep_of_isBlank hblank, Int.add_zero]
      have hrest := ih [] 0
      rw [List.nil_append, List.nil_append] at hrest
      rw [qualifiersIn_append_cons (separates_of_isBlank hblank), tokensFrom_blank hblank,
        List.append_nil, hrest]
      split_ifs with hempty
      · simp [List.isEmpty_iff.mp hempty]
      · rw [List.flatMap_cons]
    · have hrest := ih (before ++ [c]) (depth + depthStep c)
      rw [List.append_assoc, List.append_assoc] at hrest
      rw [tokensFrom_cons hcut]
      exact hrest

/-- The qualifiers of a text, by its tokens. -/
theorem qualifiersIn_splitTokens (text : Chars) :
    (splitTokens text).flatMap qualifiersIn = qualifiersIn text := by
  have htokens := qualifiersIn_append_tokensFrom [] (Text.trim text) 0
  rw [List.nil_append, List.nil_append, qualifiersIn_trim] at htokens
  rw [htokens, splitTokens]
  simp only
  split_ifs with hempty
  · simp [List.isEmpty_iff.mp hempty]
  · rw [List.flatMap_cons]

end Source

end Scaffold
