import Scaffold.Proofs.Outcome
import Scaffold.Proofs.Qualifiers
import Scaffold.Source.Method

/-!
# Methods read from their headings

A method is found where a line begins as its heading does, and its result clause goes up to the
brace that opens the body. Brackets of the heading close within it, so whatever looks like a method
inside of its lists is read too. The clause is read as it stands, unless it ends in the letters of a
keyword that braces may follow: the body is then taken for a part of a type.
-/

namespace Scaffold.Source

variable {text rest word used before clause body : Chars} {c : Char} {start : MethodStart}
  {outside : Char → Prop} {results : Chars}

/-! ## Where methods start -/

/-- The text is one word. -/
def IsWord (text : Chars) : Prop :=
  text ≠ [] ∧ ∀ c ∈ text, Text.isWord c = true

instance (text : Chars) : Decidable (IsWord text) :=
  decidable_of_iff (text ≠ [] ∧ text.all Text.isWord = true) (by simp [IsWord])

theorem IsWord.of_isIdentifier (h : isIdentifier word = true) : IsWord word := by
  refine ⟨?_, isWord_of_isIdentifier h⟩
  rintro rfl
  cases h

theorem isSpaceOrTab_of_isWord (h : Text.isWord c = true) : Text.isSpaceOrTab c = false := by
  rw [Bool.eq_false_iff]
  intro hspace
  simp only [Text.isSpaceOrTab, Bool.or_eq_true, beq_iff_eq] at hspace
  rcases hspace with rfl | rfl <;> cases h

theorem IsWord.skipSpaces (h : IsWord word) (rest : Chars) :
    skipSpaces (word ++ rest) = word ++ rest := by
  obtain ⟨c, others, rfl⟩ := List.exists_cons_of_ne_nil h.1
  exact skipSpaces_eq_self fun d hd => by
    obtain rfl := Option.some.inj hd
    exact isSpaceOrTab_of_isWord (h.2 _ List.mem_cons_self)

/-- A word is scanned up to what is no part of one. -/
theorem IsWord.word?_eq (h : IsWord word) (hrest : rest.head?.any Text.isWord = false) :
    word? (word ++ rest) = some (word, rest) := by
  have hnone : rest.takeWhile Text.isWord = [] ∧ rest.dropWhile Text.isWord = rest := by
    cases rest with
    | nil => exact ⟨rfl, rfl⟩
    | cons c others =>
      have hc : ¬ Text.isWord c = true := by simpa using hrest
      exact ⟨List.takeWhile_cons_of_neg hc, List.dropWhile_cons_of_neg hc⟩
  simp only [word?, List.takeWhile_append_of_pos h.2, List.dropWhile_append_of_pos h.2, hnone,
    List.append_nil, List.isEmpty_iff, h.1, if_false]

theorem IsWord.word?_append (h : IsWord word) (hc : Text.isWord c = false) (rest : Chars) :
    word? (word ++ c :: rest) = some (word, c :: rest) :=
  h.word?_eq hc

/-- The text begins with characters of a kind, and the rest follows them. -/
def Passes (kind : Char → Prop) (text rest : Chars) : Prop :=
  ∃ used, text = used ++ rest ∧ ∀ c ∈ used, kind c

namespace Passes

variable {kind : Char → Prop} {later : Chars}

theorem trans (h : Passes kind text rest) (hlater : Passes kind rest later) :
    Passes kind text later := by
  obtain ⟨used, rfl, hused⟩ := h
  obtain ⟨more, rfl, hmore⟩ := hlater
  exact ⟨used ++ more, by simp, List.forall_mem_append.mpr ⟨hused, hmore⟩⟩

theorem of_literal {word : String} (h : literal word text = some rest)
    (hword : ∀ c ∈ word.toList, kind c) : Passes kind text rest :=
  ⟨word.toList, eq_of_literal h, hword⟩

theorem skipSpaces (hspace : ∀ c, Text.isSpaceOrTab c = true → kind c) (text : Chars) :
    Passes kind text (skipSpaces text) := by
  obtain ⟨spaces, htext, hspaces⟩ := exists_skipSpaces text
  exact ⟨spaces, htext, fun c hc => hspace c (hspaces c hc)⟩

theorem of_someSpaces (hspace : ∀ c, Text.isSpaceOrTab c = true → kind c)
    (h : someSpaces text = some rest) : Passes kind text rest := by
  obtain ⟨spaces, -, htext, hspaces⟩ := exists_someSpaces h
  exact ⟨spaces, htext, fun c hc => hspace c (hspaces c hc)⟩

theorem of_word? (hword : ∀ c, Text.isWord c = true → kind c)
    (h : word? text = some (word, rest)) : Passes kind text rest := by
  obtain ⟨htext, -, hwords⟩ := Source.of_word? h
  exact ⟨word, htext, fun c hc => hword c (hwords c hc)⟩

end Passes

/-- A character that may stand between the start of a method and its parameters. -/
def InHeading (c : Char) : Prop :=
  Text.isWord c = true ∨ Text.isSpaceOrTab c = true ∨ c ∈ ['(', '*', ')']

theorem InHeading.ne (h : InHeading c) : c ≠ '\n' ∧ c ≠ '{' := by
  constructor <;> rintro rfl <;> revert h <;> simp [InHeading] <;> decide

/-- What stands before the parameters of a method that is found. -/
theorem of_methodStart? {after : Chars} (h : methodStart? text = some (start, after)) :
    start.whole = text ∧ after = start.list ∧ (∃ inside, start.list = '(' :: inside) ∧
      ∃ used, used ≠ [] ∧ text = used ++ start.list ∧ ∀ c ∈ used, InHeading c := by
  have hspace : ∀ c, Text.isSpaceOrTab c = true → InHeading c := fun c hc => .inr (.inl hc)
  have hword : ∀ c, Text.isWord c = true → InHeading c := fun c hc => .inl hc
  have hmark : ∀ {marks : Chars}, (marks.all fun c => decide (c ∈ ['(', '*', ')'])) = true →
      ∀ c ∈ marks, InHeading c := fun h c hc => .inr (.inr (Text.forall_mem_of_all h c hc))
  simp only [methodStart?, Option.bind_eq_bind, Option.bind_eq_some_iff] at h
  obtain ⟨_, hfunc, _, hopen, ⟨_, _⟩, hreceiver, rest, hgap, ⟨_, _⟩, htype, _, hclose, ⟨_, _⟩,
    hname, h⟩ := h
  split_ifs at h with hlist
  obtain ⟨rfl, rfl⟩ := Prod.mk.inj (Option.some.inj h)
  have hstar : Passes InHeading rest ((literal "*" rest).getD rest) := by
    cases hliteral : literal "*" rest with
    | none => exact ⟨[], rfl, List.forall_mem_nil _⟩
    | some later => exact .of_literal hliteral (hmark (by decide))
  have hpasses := (Passes.skipSpaces hspace _).trans
    ((Passes.of_literal hopen (hmark (by decide))).trans
    ((Passes.skipSpaces hspace _).trans
    ((Passes.of_word? hword hreceiver).trans
    ((Passes.of_someSpaces hspace hgap).trans
    (hstar.trans
    ((Passes.skipSpaces hspace _).trans
    ((Passes.of_word? hword htype).trans
    ((Passes.skipSpaces hspace _).trans
    ((Passes.of_literal hclose (hmark (by decide))).trans
    ((Passes.skipSpaces hspace _).trans
    ((Passes.of_word? hword hname).trans (Passes.skipSpaces hspace _))))))))))))
  obtain ⟨used, hused, hkind⟩ := hpasses
  refine ⟨rfl, rfl, ?_, "func".toList ++ used, by simp, ?_, ?_⟩
  · obtain ⟨inside, heq⟩ := List.head?_eq_some_iff.mp (beq_iff_eq.mp hlist)
    exact ⟨inside, heq⟩
  · rw [List.append_assoc, ← hused]
    exact eq_of_literal hfunc
  · refine List.forall_mem_append.mpr ⟨fun c hc => hword c ?_, hkind⟩
    exact List.all_eq_true.mp (by decide : "func".toList.all Text.isWord = true) c hc

/-- The start of a method is found within a line. -/
theorem staysOnLine_methodStart? : StaysOnLine methodStart? := by
  intro text start after h
  obtain ⟨-, rfl, -, used, hne, htext, hkind⟩ := of_methodStart? h
  exact ⟨used, hne, htext, fun hmem => (hkind _ hmem).ne.1 rfl⟩

/-- The methods of a source are those that start on its lines. -/
theorem findMethods_eq (source : Chars) :
    findMethods source =
      ((lineStarts true source).filterMap (foundAt methodStart?)).mapM readMethod := by
  rw [findMethods, allMatches_onLineStart staysOnLine_methodStart?]

/-! ## Result clauses -/

theorem eq_of_opened? {kind : Bracket} (h : Bracket.opened? c = some kind) :
    c = '{' ∧ kind = .curly ∨ c = '(' ∧ kind = .round ∨ c = '[' ∧ kind = .square := by
  unfold Bracket.opened? at h
  split at h <;> cases h <;> simp

/-- Blanks after a type keyword do not hide it. -/
theorem endsInTypeKeyword_iff :
    endsInTypeKeyword text.reverse = true ↔
      "interface".toList <:+ Text.trimEnd text ∨ "struct".toList <:+ Text.trimEnd text := by
  simp only [endsInTypeKeyword, List.any_cons, List.any_nil, Bool.or_false, Bool.or_eq_true,
    List.isPrefixOf_iff_prefix, Text.trimEnd, Text.dropEndWhile]
  rw [← List.reverse_prefix, ← List.reverse_prefix, List.reverse_reverse]

/-- A suffix without a character begins after the last place where that character stands. -/
private theorem suffix_append_cons_iff (hc : c ∉ word) :
    word <:+ before ++ c :: rest ↔ word <:+ rest := by
  constructor
  · rintro ⟨earlier, heq⟩
    rcases List.append_eq_append_iff.mp heq with ⟨between, rfl, rfl⟩ | ⟨between, rfl, hrest⟩
    · simp at hc
    · cases between with
      | nil =>
        obtain rfl : c :: rest = word := hrest
        simp at hc
      | cons d between =>
        obtain ⟨rfl, rfl⟩ := List.cons.inj hrest
        exact ⟨between, rfl⟩
  · exact fun h => h.trans ((List.suffix_cons c rest).trans (List.suffix_append before _))

/-- Whether a text ends in a keyword is decided after its last parenthesis. -/
theorem endsInTypeKeyword_append_cons :
    endsInTypeKeyword (before ++ ')' :: clause).reverse = endsInTypeKeyword clause.reverse := by
  rw [Bool.eq_iff_iff, endsInTypeKeyword_iff, endsInTypeKeyword_iff,
    Text.trimEnd_append_cons (by decide), suffix_append_cons_iff (by decide),
    suffix_append_cons_iff (by decide)]

/-- A text that ends in a keyword does so whatever stands before it. -/
theorem endsInTypeKeyword_of_append
    (h : endsInTypeKeyword (before ++ text).reverse = false) :
    endsInTypeKeyword text.reverse = false := by
  rw [Bool.eq_false_iff, ne_eq, endsInTypeKeyword_iff] at h ⊢
  intro hends
  have hne : Text.trimEnd text ≠ [] := by
    intro hnil
    rw [hnil] at hends
    revert hends
    decide
  rw [Text.trimEnd_append hne] at h
  exact h (hends.imp (·.trans (List.suffix_append before _))
    (·.trans (List.suffix_append before _)))

/-- A result clause as far as the body can be told from it: brackets have their partners, and no
brace stands outside of other brackets. -/
inductive IsClause : Chars → Prop
  | nil : IsClause []
  | plain {c : Char} {rest : Chars} : Bracket.opened? c = none → Bracket.closed? c = none →
      IsClause rest → IsClause (c :: rest)
  | group {kind : Bracket} {first last : Char} {inner rest : Chars} : kind ≠ .curly →
      Bracket.opened? first = some kind → Bracket.closed? last = some kind →
      Nested (fun _ => True) inner → IsClause rest → IsClause (first :: inner ++ last :: rest)

theorem IsClause.nested (h : IsClause clause) : Nested (fun _ => True) clause := by
  induction h with
  | nil => exact .nil
  | plain hopened hclosed _ ih => exact .plain hopened hclosed trivial ih
  | group _ hfirst hlast hinner _ ih => exact .group hfirst hlast hinner ih

/-- Two clauses make one. -/
theorem IsClause.append (h : IsClause clause) (hrest : IsClause rest) :
    IsClause (clause ++ rest) := by
  induction h with
  | nil => exact hrest
  | plain hopened hclosed _ ih => exact .plain hopened hclosed ih
  | group hkind hfirst hlast hinner _ ih =>
    simpa using IsClause.group hkind hfirst hlast hinner ih

theorem IsClause.of_plain
    (h : ∀ c ∈ text, Bracket.opened? c = none ∧ Bracket.closed? c = none) : IsClause text := by
  induction text with
  | nil => exact .nil
  | cons c rest ih =>
    obtain ⟨hc, hrest⟩ := List.forall_mem_cons.mp h
    exact .plain hc.1 hc.2 (ih hrest)

section Search

variable {whole seen : Chars}

theorem clauseFrom_skip (skipped rest : Chars) :
    clauseFrom whole skipped.length seen (skipped ++ rest) =
      clauseFrom whole 0 (skipped.reverse ++ seen) rest := by
  induction skipped generalizing seen with
  | nil => rfl
  | cons c skipped ih =>
    rw [List.reverse_cons, List.append_assoc]
    exact ih

/-- What opens no bracket belongs to the clause. -/
theorem clauseFrom_plain (hc : Bracket.opened? c = none) (rest : Chars) :
    clauseFrom whole 0 seen (c :: rest) = clauseFrom whole 0 (c :: seen) rest := by
  have hne : c ≠ '{' ∧ c ≠ '(' ∧ c ≠ '[' := by
    refine ⟨?_, ?_, ?_⟩ <;> rintro rfl <;> cases hc
  simp [clauseFrom, hne]

/-- The search for the body passes over a group that it does not begin with. -/
theorem clauseFrom_group {kind : Bracket} {first last : Char} {inner : Chars}
    (hfirst : Bracket.opened? first = some kind) (hlast : Bracket.closed? last = some kind)
    (hinner : Nested outside inner) (hbody : first = '{' → endsInTypeKeyword seen = true)
    (rest : Chars) :
    clauseFrom whole 0 seen (first :: inner ++ last :: rest) =
      clauseFrom whole 0 ((first :: inner ++ [last]).reverse ++ seen) rest := by
  have hsplit := splitAtClose_group hfirst hlast hinner rest
  have hskip := @clauseFrom_skip whole (first :: seen) (inner ++ [last]) rest
  have hgo : clauseFrom whole 0 seen (first :: (inner ++ last :: rest)) =
      clauseFrom whole (first :: inner).length (first :: seen) (inner ++ last :: rest) := by
    rw [List.cons_append] at hsplit
    rcases eq_of_opened? hfirst with ⟨rfl, -⟩ | ⟨rfl, -⟩ | ⟨rfl, -⟩
    · simp [clauseFrom, hbody rfl, hsplit, Bind.bind, Except.bind]
    · simp [clauseFrom, hsplit, Bind.bind, Except.bind]
    · simp [clauseFrom, hsplit, Bind.bind, Except.bind]
  rw [List.cons_append, hgo]
  simpa using hskip

/-- The search for the body passes over a clause. -/
theorem IsClause.clauseFrom_append (h : IsClause clause) (rest : Chars) :
    clauseFrom whole 0 seen (clause ++ rest) =
      clauseFrom whole 0 (clause.reverse ++ seen) rest := by
  induction h generalizing seen with
  | nil => rfl
  | plain hopened _ _ ih =>
    rw [List.cons_append, clauseFrom_plain hopened, ih, List.reverse_cons, List.append_assoc]
    rfl
  | @group kind first last inner later hkind hfirst hlast hinner _ ih =>
    have hround : first = '{' → endsInTypeKeyword seen = true := by
      rintro rfl
      exact absurd (Option.some.inj hfirst).symm hkind
    have hassoc : first :: inner ++ last :: later ++ rest =
        first :: inner ++ last :: (later ++ rest) := by simp
    rw [hassoc, clauseFrom_group hfirst hlast hinner hround, ih]
    simp

/-- In front of a body that no keyword precedes, the clause is what is found. -/
theorem IsClause.resultClause_append (h : IsClause clause)
    (hkeyword : endsInTypeKeyword clause.reverse = false) (body : Chars) :
    resultClause (clause ++ '{' :: body) = .ok clause := by
  rw [resultClause, h.clauseFrom_append, List.append_nil]
  simp [clauseFrom, hkeyword]

/-- What was seen of a clause is the start of it. -/
theorem prefix_of_clauseFrom {skip : Nat} (h : clauseFrom whole skip seen text = .ok clause) :
    seen.reverse <+: clause := by
  induction text generalizing skip seen with
  | nil => cases h
  | cons c rest ih =>
    have hnext : ∀ {skip}, clauseFrom whole skip (c :: seen) rest = .ok clause →
        seen.reverse <+: clause := fun h =>
      (by simp : seen.reverse <+: (c :: seen).reverse).trans (ih h)
    cases skip with
    | succ skip => exact hnext h
    | zero =>
      rw [clauseFrom] at h
      split_ifs at h with hstop hopen
      · exact Except.ok.inj h ▸ List.prefix_rfl
      · obtain ⟨_, -, h⟩ := Outcome.bind_eq_ok_iff.mp h
        exact hnext h
      · exact hnext h

/-- After a keyword a brace opens a part of the clause. -/
theorem prefix_of_clauseFrom_brace (hkeyword : endsInTypeKeyword seen = true)
    (h : clauseFrom whole 0 seen ('{' :: rest) = .ok clause) :
    ('{' :: seen).reverse <+: clause := by
  simp only [clauseFrom, hkeyword, Bool.not_true, Bool.and_false] at h
  obtain ⟨_, -, h⟩ := Outcome.bind_eq_ok_iff.mp h
  exact prefix_of_clauseFrom h

/-- From any place of nested text on a body is found, if no keyword stands before it. -/
theorem exists_clauseFrom {skip : Nat} (h : Nested outside (before ++ text))
    (hkeyword : endsInTypeKeyword (text.reverse ++ seen) = false) (hskip : skip ≤ text.length)
    (body : Chars) : ∃ clause, clauseFrom whole skip seen (text ++ '{' :: body) = .ok clause := by
  induction text generalizing before skip seen with
  | nil =>
    obtain rfl : skip = 0 := by simpa using hskip
    have hstop : endsInTypeKeyword seen = false := by simpa using hkeyword
    exact ⟨seen.reverse, by simp [clauseFrom, hstop]⟩
  | cons c rest ih =>
    have hnext : Nested outside ((before ++ [c]) ++ rest) := by simpa using h
    have hseen : endsInTypeKeyword (rest.reverse ++ c :: seen) = false := by simpa using hkeyword
    cases skip with
    | succ skip => exact ih hnext hseen (by simpa using hskip)
    | zero =>
      rw [List.cons_append, clauseFrom]
      split_ifs with hstop hopen
      · exact ⟨_, rfl⟩
      · obtain ⟨kind, hkind⟩ : ∃ kind, Bracket.opened? c = some kind := by
          simp only [Bool.or_eq_true, beq_iff_eq] at hopen
          rcases hopen with (rfl | rfl) | rfl <;> exact ⟨_, rfl⟩
        obtain ⟨inner, last, later, rfl, hinner, hlast⟩ := h.exists_group rfl hkind
        have hsplit := splitAtClose_group hkind hlast hinner (later ++ '{' :: body)
        obtain ⟨clause, hclause⟩ := @ih (before ++ [c]) (c :: seen) (c :: inner).length hnext hseen
          (by simp)
        exact ⟨clause, Outcome.bind_eq_ok_iff.mpr
          ⟨(c :: inner, later ++ '{' :: body), by simpa using hsplit, hclause⟩⟩
      · exact ih hnext hseen (Nat.zero_le _)

end Search

/-! ## Headings -/

/-- A method that starts in nested text is read, if no keyword stands between the text and a
body. -/
theorem exists_readMethod (h : Nested outside (before ++ text))
    (hkeyword : endsInTypeKeyword (before ++ text).reverse = false)
    (hstart : foundAt methodStart? (text ++ '{' :: body) = some start) :
    ∃ method, readMethod start = .ok method := by
  obtain ⟨⟨found, after⟩, hfound, rfl⟩ := Option.map_eq_some_iff.mp hstart
  obtain ⟨-, -, ⟨inside, hlist⟩, used, -, htext, hkind⟩ := of_methodStart? hfound
  obtain ⟨more, rfl, rfl⟩ : ∃ more, text = used ++ '(' :: more ∧ inside = more ++ '{' :: body := by
    rw [hlist] at htext
    rcases List.append_eq_append_iff.mp htext with ⟨between, rfl, hbrace⟩ | ⟨between, rfl, hopen⟩
    · cases between with
      | nil => cases hbrace
      | cons d between =>
        obtain ⟨rfl, -⟩ := List.cons.inj hbrace
        exact absurd rfl (hkind '{' (by simp)).ne.2
    · cases between with
      | nil => cases hopen
      | cons d between =>
        obtain ⟨rfl, rfl⟩ := List.cons.inj hopen
        exact ⟨between, rfl, rfl⟩
  have hround : Bracket.opened? '(' = some .round := rfl
  obtain ⟨inner, last, later, rfl, hinner, hlast⟩ :=
    h.exists_group (List.append_assoc before used _).symm hround
  have hsplit := splitAtClose_group hround hlast hinner (later ++ '{' :: body)
  have hclause : ∃ clause, resultClause (later ++ '{' :: body) = .ok clause := by
    have hparts : before ++ (used ++ '(' :: (inner ++ last :: later)) =
        (before ++ used ++ '(' :: inner ++ [last]) ++ later := by simp
    rw [hparts] at h hkeyword
    refine exists_clauseFrom h ?_ (Nat.zero_le _) body
    rw [List.append_nil]
    exact endsInTypeKeyword_of_append hkeyword
  obtain ⟨clause, hclause⟩ := hclause
  have hinside : splitAtClose found.list = .ok ('(' :: inner, later ++ '{' :: body) := by
    rw [hlist, ← hsplit]
    simp
  exact ⟨_, Outcome.bind_eq_ok_iff.mpr ⟨_, hinside, Outcome.bind_eq_ok_iff.mpr ⟨_, hclause, rfl⟩⟩⟩

/-- The heading of a method: its receiver, its name, its parameters, and what stands between them
and the brace of the body. -/
structure Heading where
  receiver : Chars
  struct : Chars
  name : Chars
  params : Chars
  clause : Chars

namespace Heading

variable {heading : Heading}

/-- The parameters in their parentheses, and what follows them. -/
def list (heading : Heading) : Chars :=
  '(' :: (heading.params ++ ')' :: heading.clause)

/-- The heading as it is written. -/
def written (heading : Heading) : Chars :=
  "func (".toList ++ (heading.receiver ++ ' ' :: '*' :: (heading.struct ++
    ')' :: ' ' :: (heading.name ++ heading.list)))

/-- The method that the heading declares. -/
def method (heading : Heading) : Method :=
  { receiverName := String.ofList heading.receiver
    receiverType := String.ofList heading.struct
    name := String.ofList heading.name
    params := String.ofList (Text.collapse heading.params)
    results := String.ofList (Text.collapse heading.clause)
    text := String.ofList (Text.trim heading.written) }

/-- The names are words, and the brackets of the lists have their partners. -/
structure IsWellFormed (heading : Heading) : Prop where
  receiver : IsWord heading.receiver
  struct : IsWord heading.struct
  name : IsWord heading.name
  params : Nested (fun _ => True) heading.params
  clause : IsClause heading.clause

theorem exists_written (heading : Heading) :
    ∃ before, heading.written = before ++ ')' :: heading.clause := by
  unfold written list
  generalize "func (".toList = opener
  exact ⟨opener ++ (heading.receiver ++ ' ' :: '*' :: (heading.struct ++
    ')' :: ' ' :: (heading.name ++ '(' :: heading.params))), by simp⟩

/-- A heading is nested. -/
theorem IsWellFormed.nested_written (h : heading.IsWellFormed) :
    Nested (fun _ => True) heading.written := by
  have hword : ∀ {word : Chars}, IsWord word → Nested (fun _ => True) word := fun hword =>
    .of_plain fun c hc => ⟨unbracketed_of_isWord (hword.2 c hc), trivial⟩
  have hlist : Nested (fun _ => True) heading.list := .group rfl rfl h.params h.clause.nested
  have hreceiver : Nested (fun _ => True) (heading.receiver ++ ([' ', '*'] ++ heading.struct)) :=
    (hword h.receiver).append
      (Nested.append (.of_plain (Text.forall_mem_of_all (by decide))) (hword h.struct))
  have hname : Nested (fun _ => True) ([' '] ++ (heading.name ++ heading.list)) :=
    Nested.append (.of_plain (Text.forall_mem_of_all (by decide))) ((hword h.name).append hlist)
  have hfunc : Nested (fun _ => True) "func ".toList :=
    .of_plain (Text.forall_mem_of_all (by decide))
  have hwhole := hfunc.append (@Nested.group _ .round '(' ')' _ _ rfl rfl hreceiver hname)
  have hwritten : heading.written = "func ".toList ++ '(' :: (heading.receiver ++
      ([' ', '*'] ++ heading.struct) ++ ')' :: ([' '] ++ (heading.name ++ heading.list))) := by
    rw [List.append_assoc]
    rfl
  exact hwritten ▸ hwhole

/-- The start of the method, with the text that follows the heading. -/
def startBefore (heading : Heading) (rest : Chars) : MethodStart :=
  ⟨heading.receiver, heading.struct, heading.name, heading.written ++ rest, heading.list ++ rest⟩

/-- A method starts where its heading is written. -/
theorem IsWellFormed.methodStart?_append (h : heading.IsWellFormed) (rest : Chars) :
    methodStart? (heading.written ++ rest) =
      some (heading.startBefore rest, heading.list ++ rest) := by
  have hfunc : literal "func" (heading.written ++ rest) = some (' ' :: '(' :: (heading.receiver ++
      ' ' :: '*' :: (heading.struct ++ ')' :: ' ' ::
        (heading.name ++ (heading.list ++ rest))))) := by
    have hassoc : ∀ opener : Chars, opener ++ (heading.receiver ++ ' ' :: '*' :: (heading.struct ++
        ')' :: ' ' :: (heading.name ++ heading.list))) ++ rest = opener ++ (heading.receiver ++
          ' ' :: '*' :: (heading.struct ++ ')' :: ' ' ::
            (heading.name ++ (heading.list ++ rest)))) := by
      simp
    have hskip : ∀ later, literal "func" ("func (".toList ++ later) = some (' ' :: '(' :: later) :=
      fun _ => rfl
    exact (congrArg (literal "func") (hassoc "func (".toList)).trans (hskip _)
  have hopen : ∀ later, literal "(" (skipSpaces ('(' :: later)) = some later := fun _ => rfl
  have hgap : ∀ later, someSpaces (' ' :: '*' :: later) = some ('*' :: later) := fun _ => rfl
  have hstar : ∀ later, literal "*" ('*' :: later) = some later := fun _ => rfl
  have hclose : ∀ later, literal ")" (skipSpaces (')' :: later)) = some later := fun _ => rfl
  have hspace : ∀ later, skipSpaces (' ' :: later) = skipSpaces later := fun _ => rfl
  have hlist : skipSpaces (heading.list ++ rest) = heading.list ++ rest := rfl
  have hname : word? (heading.name ++ (heading.list ++ rest)) =
      some (heading.name, heading.list ++ rest) :=
    h.name.word?_append (by decide) _
  have hhead : ((heading.list ++ rest).head? == some '(') = true := rfl
  simp only [methodStart?, Option.bind_eq_bind, hfunc, Option.bind_some, hopen,
    h.receiver.skipSpaces, h.receiver.word?_append (by decide : Text.isWord ' ' = false), hgap,
    hstar, Option.getD_some, h.struct.skipSpaces,
    h.struct.word?_append (by decide : Text.isWord ')' = false), hclose, hspace,
    h.name.skipSpaces, hname, hlist, hhead, if_true, startBefore]

/-- The list of a heading ends at its own bracket. -/
theorem IsWellFormed.splitAtClose_list (h : heading.IsWellFormed) (rest : Chars) :
    splitAtClose (heading.startBefore rest).list =
      .ok ('(' :: heading.params, heading.clause ++ rest) := by
  rw [← splitAtClose_append h.params]
  simp only [startBefore, list, List.append_assoc, List.cons_append]

/-- The method that starts at a heading is the one that the heading declares. -/
theorem IsWellFormed.readMethod_eq (h : heading.IsWellFormed)
    (hkeyword : endsInTypeKeyword heading.clause.reverse = false) (body : Chars) :
    readMethod (heading.startBefore ('{' :: body)) = .ok heading.method := by
  have hclause := h.clause.resultClause_append hkeyword body
  have hwhole : (heading.startBefore ('{' :: body)).whole.take
      ((heading.startBefore ('{' :: body)).whole.length - ('{' :: body).length) =
        heading.written := by
    simp only [startBefore, List.length_append, Nat.add_sub_cancel, List.take_left]
  simp only [readMethod, h.splitAtClose_list, hclause, Bind.bind, Except.bind, Pure.pure,
    Except.pure, List.drop_left, hwhole]
  rfl

/-- The first method of a text that begins with a heading is the one that starts there. -/
theorem IsWellFormed.starts_append (h : heading.IsWellFormed) (rest : Chars) :
    (lineStarts true (heading.written ++ rest)).filterMap (foundAt methodStart?) =
      heading.startBefore rest ::
        (lineStarts false (heading.written.tail ++ rest)).filterMap (foundAt methodStart?) := by
  have hhere : foundAt methodStart? (heading.written ++ rest) =
      some (heading.startBefore rest) := by
    rw [foundAt, h.methodStart?_append]
    rfl
  have hlines : lineStarts true (heading.written ++ rest) =
      (heading.written ++ rest) :: lineStarts false (heading.written.tail ++ rest) := rfl
  rw [hlines, List.filterMap_cons_some hhere]

/-- In front of a source, a method adds itself and what looks like a method on the lines of its
lists. -/
theorem IsWellFormed.findMethods_append (h : heading.IsWellFormed)
    (hkeyword : endsInTypeKeyword heading.clause.reverse = false) {later : List Method}
    (hbody : findMethods body = .ok later) :
    ∃ inner, findMethods (heading.written ++ '{' :: '\n' :: body) =
        .ok (heading.method :: (inner ++ later)) ∧ ('\n' ∉ heading.written → inner = []) := by
  have hwhole : endsInTypeKeyword heading.written.reverse = false := by
    obtain ⟨before, hbefore⟩ := heading.exists_written
    rw [hbefore, endsInTypeKeyword_append_cons, hkeyword]
  have hlines := lineStarts_append false heading.written.tail ('{' :: '\n' :: body)
  generalize heading.written.tail.getLast?.elim false (· == '\n') = last at hlines
  have hbrace : (lineStarts last ('{' :: '\n' :: body)).filterMap (foundAt methodStart?) =
      (lineStarts true body).filterMap (foundAt methodStart?) := by
    cases last <;> rfl
  obtain ⟨inner, hinner⟩ : ∃ inner, (((lineStarts false heading.written.tail).map
      (· ++ '{' :: '\n' :: body)).filterMap (foundAt methodStart?)).mapM readMethod =
        .ok inner := by
    apply Outcome.exists_mapM_eq_ok
    intro start hstart
    rw [List.filterMap_map] at hstart
    obtain ⟨line, hline, hfound⟩ := List.mem_filterMap.mp hstart
    obtain ⟨-, before, hbefore⟩ := of_mem_lineStarts hline
    have hparts : heading.written = ('f' :: before) ++ line := congrArg (List.cons 'f') hbefore.symm
    exact exists_readMethod (hparts ▸ h.nested_written) (hparts ▸ hwhole) hfound
  refine ⟨inner, ?_, fun hnot => ?_⟩
  · rw [findMethods_eq] at hbody
    rw [findMethods_eq, h.starts_append, hlines, List.filterMap_append, hbrace, List.mapM_cons,
      h.readMethod_eq hkeyword, List.mapM_append, hinner, hbody]
    rfl
  · rw [lineStarts_of_not_mem fun hmem => hnot (List.mem_of_mem_tail hmem)] at hinner
    exact (Except.ok.inj hinner).symm

/-- Where the clause ends in a keyword, the body becomes a part of it. -/
theorem IsWellFormed.brace_mem_results (h : heading.IsWellFormed)
    (hkeyword : endsInTypeKeyword heading.clause.reverse = true) {method : Method}
    (hmethod : readMethod (heading.startBefore ('{' :: body)) = .ok method) :
    '{' ∈ method.results.toList := by
  simp only [readMethod, h.splitAtClose_list, Outcome.bind_eq_ok_iff] at hmethod
  obtain ⟨_, hparts, clause, hclause, hmethod⟩ := hmethod
  obtain rfl := Except.ok.inj hparts
  obtain rfl := Except.ok.inj hmethod
  have hseen : heading.clause ++ ['{'] <+: clause := by
    rw [resultClause, h.clause.clauseFrom_append, List.append_nil] at hclause
    have hopen := prefix_of_clauseFrom_brace hkeyword hclause
    simpa using hopen
  rw [String.toList_ofList, Text.mem_collapse (by decide)]
  exact hseen.subset (by simp)

end Heading

/-! ## Results -/

/-- A result as a method declares it: none, a name that may be marked and qualified, or a list in
parentheses. -/
inductive IsResult : Chars → Prop
  | none : IsResult []
  | named {mark name : Chars} : mark ∈ [[], ['*'], ['[', ']']] → isIdentifier name = true →
      IsResult (mark ++ name)
  | qualified {mark package name : Chars} : mark ∈ [[], ['*'], ['[', ']']] →
      isIdentifier package = true → isIdentifier name = true →
      IsResult (mark ++ (package ++ '.' :: name))
  | list {inner : Chars} : Nested (fun _ => True) inner → IsResult ('(' :: inner ++ [')'])

/-- Results are a clause. -/
theorem IsResult.isClause (h : IsResult results) : IsClause results := by
  have hword : ∀ {name : Chars}, isIdentifier name = true → IsClause name := fun hname =>
    .of_plain fun c hc => unbracketed_of_isWord (isWord_of_isIdentifier hname c hc)
  have hmark : ∀ mark ∈ [[], ['*'], ['[', ']']], IsClause mark := by
    intro mark hmem
    simp only [List.mem_cons, List.not_mem_nil, or_false] at hmem
    rcases hmem with rfl | rfl | rfl
    · exact .nil
    · exact .of_plain (Text.forall_mem_of_all (by decide))
    · exact @IsClause.group .square '[' ']' [] [] (by decide) rfl rfl .nil .nil
  cases h with
  | none => exact .nil
  | named hmem hname => exact (hmark _ hmem).append (hword hname)
  | qualified hmem hpackage hname =>
    exact (hmark _ hmem).append ((hword hpackage).append (.plain rfl rfl (hword hname)))
  | list hinner => exact @IsClause.group .round '(' ')' _ [] (by decide) rfl rfl hinner .nil

theorem IsResult.isBlank_getLast (h : IsResult results) :
    ∀ c ∈ results.getLast?, Text.isBlank c = false := by
  have hword : ∀ {before name : Chars}, isIdentifier name = true →
      ∀ c ∈ (before ++ name).getLast?, Text.isBlank c = false := by
    intro before name hname c hc
    have hne : name ≠ [] := (IsWord.of_isIdentifier hname).1
    rw [List.getLast?_append_of_ne_nil _ hne] at hc
    exact (isTrimmed_of_isIdentifier hname).stop c hc
  cases h with
  | none => simp
  | named _ hname => exact hword hname
  | @qualified mark package name _ _ hname =>
    have hparts : mark ++ (package ++ '.' :: name) = mark ++ package ++ ['.'] ++ name := by simp
    exact hparts ▸ hword hname
  | list _ =>
    rw [List.getLast?_concat]
    rintro c ⟨⟩
    rfl

/-- Before the body of a method whose result ends in the letters of a keyword, no brace stands. -/
theorem IsResult.brace_not_mem (h : IsResult results)
    (hkeyword : "interface".toList <:+ results ∨ "struct".toList <:+ results) : '{' ∉ results := by
  have hmark : ∀ mark ∈ [[], ['*'], ['[', ']']], '{' ∉ mark := by decide
  have hword : ∀ {name : Chars}, isIdentifier name = true → '{' ∉ name := fun hname hmem =>
    absurd (isWord_of_isIdentifier hname _ hmem) (by decide)
  cases h with
  | none => exact List.not_mem_nil
  | named hmem hname => simpa using ⟨hmark _ hmem, hword hname⟩
  | qualified hmem hpackage hname => simpa using ⟨hmark _ hmem, hword hpackage, hword hname⟩
  | list _ =>
    rw [suffix_append_cons_iff (by decide), suffix_append_cons_iff (by decide)] at hkeyword
    exact absurd hkeyword (by decide)

theorem IsResult.endsInTypeKeyword_iff (h : IsResult results) :
    endsInTypeKeyword (' ' :: (results ++ [' '])).reverse = true ↔
      "interface".toList <:+ results ∨ "struct".toList <:+ results := by
  rw [Source.endsInTypeKeyword_iff, ← List.cons_append,
    Text.trimEnd_append_of_blank (List.forall_mem_singleton.mpr rfl)]
  by_cases hnil : results = []
  · subst hnil
    decide
  · have htrim : Text.trimEnd (' ' :: results) = [] ++ ' ' :: results := by
      apply Text.trimEnd_eq_self
      rw [List.getLast?_cons_of_ne_nil hnil]
      exact h.isBlank_getLast
    rw [htrim, suffix_append_cons_iff (by decide), suffix_append_cons_iff (by decide)]

/-- A method before any source that can be read is the first method found, with its lists as they
are written, exactly when its result does not end in the letters of a keyword that braces may
follow. -/
theorem first_method_iff {receiver struct name params results : Chars} {later : List Method}
    (hreceiver : IsWord receiver) (hstruct : IsWord struct) (hname : IsWord name)
    (hparams : Nested (fun _ => True) params) (hresults : IsResult results)
    (hbody : findMethods body = .ok later) :
    (∃ method others,
      findMethods ((Heading.mk receiver struct name params (' ' :: (results ++ [' ']))).written ++
        '{' :: '\n' :: body) = .ok (method :: others) ∧
      method.name = String.ofList name ∧ method.receiverType = String.ofList struct ∧
      method.params = String.ofList (Text.collapse params) ∧
      method.results = String.ofList (Text.collapse results)) ↔
    ¬ "interface".toList <:+ results ∧ ¬ "struct".toList <:+ results := by
  have hclause : IsClause (' ' :: (results ++ [' '])) :=
    .plain rfl rfl (hresults.isClause.append (.plain rfl rfl .nil))
  have hwell : (Heading.mk receiver struct name params (' ' :: (results ++ [' ']))).IsWellFormed :=
    ⟨hreceiver, hstruct, hname, hparams, hclause⟩
  rw [← not_or, ← hresults.endsInTypeKeyword_iff]
  constructor
  · rintro ⟨method, others, hmethods, -, -, -, hread⟩ hkeyword
    rw [findMethods_eq, hwell.starts_append, List.mapM_cons, Outcome.bind_eq_ok_iff] at hmethods
    obtain ⟨first, hfirst, hmethods⟩ := hmethods
    obtain ⟨_, -, hpure⟩ := Outcome.bind_eq_ok_iff.mp hmethods
    obtain ⟨rfl, -⟩ := List.cons.inj (Except.ok.inj hpure)
    have hbrace := hwell.brace_mem_results hkeyword hfirst
    rw [hread, String.toList_ofList, Text.mem_collapse (by decide)] at hbrace
    exact hresults.brace_not_mem (hresults.endsInTypeKeyword_iff.mp hkeyword) hbrace
  · intro hkeyword
    obtain ⟨inner, hmethods, -⟩ :=
      hwell.findMethods_append (Bool.eq_false_iff.mpr hkeyword) hbody
    exact ⟨_, _, hmethods, rfl, rfl, rfl, congrArg String.ofList (Text.collapse_spaced results)⟩

/-- A list over two lines, one of them like the start of a method, and a result with a mark and a
package. -/
theorem first_method_iff_sample :
    ∃ method others,
      findMethods
        ("func (r *R) Get(ids map[int]struct\x7b\x7d,\nfunc (x *T) y()) []m.Thing ".toList ++
          '{' :: '\n' :: "\x7d\nfunc (r *R) Close() \x7b\n\x7d\n".toList) =
          .ok (method :: others) ∧
      method.name = "Get" ∧ method.receiverType = "R" ∧
      method.params = "ids map[int]struct\x7b\x7d, func (x *T) y()" ∧
      method.results = "[]m.Thing" := by
  have hparams : Nested (fun _ => True) "ids map[int]struct\x7b\x7d,\nfunc (x *T) y()".toList :=
    @nested_of_splitAtClose ("ids map[int]struct\x7b\x7d,\nfunc (x *T) y()".toList ++ [')'])
      ('(' :: "ids map[int]struct\x7b\x7d,\nfunc (x *T) y()".toList) [] rfl
  have hresults : IsResult "[]m.Thing".toList :=
    @IsResult.qualified ['[', ']'] "m".toList "Thing".toList (by decide) (by decide) (by decide)
  have hbody : findMethods "\x7d\nfunc (r *R) Close() \x7b\n\x7d\n".toList =
      .ok [⟨"r", "R", "Close", "", "", "func (r *R) Close()"⟩] := rfl
  exact (@first_method_iff _ "r".toList "R".toList "Get".toList _ _ _ (by decide) (by decide)
    (by decide) hparams hresults hbody).mpr (by decide)

/-- Type names that end in the letters of a keyword: the body is searched for beyond the only one,
or taken for a part of the result. -/
theorem body_taken_for_struct :
    isIdentifier "Mystruct".toList = true ∧ findMethods "\x7d\n".toList = .ok [] ∧
      findMethods "func (r *T) M() Mystruct \x7b\n\x7d\n".toList =
        .error (.noMethodBody "Mystruct \x7b\n\x7d") ∧
      findMethods "func (r *T) M() a.Mystruct \x7b\n\x7d\nfunc (r *T) N() int \x7b\n\x7d\n".toList =
        .ok [⟨"r", "T", "M", "", "a.Mystruct \x7b \x7d func (r *T) N() int",
            "func (r *T) M() a.Mystruct \x7b\n\x7d\nfunc (r *T) N() int"⟩,
          ⟨"r", "T", "N", "", "int", "func (r *T) N() int"⟩] := by
  refine ⟨by decide, rfl, rfl, rfl⟩

end Scaffold.Source
