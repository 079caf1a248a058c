import Scaffold.Build.Signature
import Scaffold.Proofs.Entries

/-!
# Signatures and their text

A signature that has been read is read again from the line that is written for it. Its lists are
nested because they were cut out at their parentheses; a result without parentheses need not be, but
it stands at the end of the line.
-/

namespace Scaffold

namespace Source

variable {outside : Char → Prop} {text name params : Chars} {parts : SignatureText}
  {results : List Param}

/-- A signature is cut at the parentheses around its parameters. -/
theorem splitSignature_eq (hname : isIdentifier name = true) (hparams : Nested outside params)
    (results : Chars) :
    splitSignature (name ++ '(' :: params ++ ')' :: results) =
      .ok ⟨String.ofList name, String.ofList (Text.trim params),
        String.ofList (Text.trim results)⟩ := by
  have hword := isWord_of_isIdentifier hname
  have hne : name ≠ [] := by
    rintro rfl
    cases hname
  have htrim : Text.trim (name ++ '(' :: params ++ ')' :: results) =
      name ++ '(' :: params ++ ')' :: Text.trimEnd results := by
    rw [Text.trim, Text.trimStart_eq_self, Text.trimEnd_append_cons rfl]
    obtain ⟨c, rest, rfl⟩ := List.exists_cons_of_ne_nil hne
    simpa using (isTrimmed_of_isIdentifier hname).start
  have hhead : (name ++ '(' :: params ++ ')' :: Text.trimEnd results).takeWhile (· != '(') =
      name := by
    rw [List.append_assoc, List.takeWhile_append_of_pos]
    · simp
    · intro c hc
      simp only [bne_iff_ne, ne_eq]
      rintro rfl
      cases hword _ hc
  have hrest : (name ++ '(' :: params ++ ')' :: Text.trimEnd results).drop name.length =
      '(' :: params ++ ')' :: Text.trimEnd results := by
    simp
  simp only [splitSignature, htrim, hhead, hrest, (isTrimmed_of_isIdentifier hname).trim_eq, hname,
    splitAtClose_append hparams]
  simp [hne, Text.trim_trimEnd, Bind.bind, Except.bind, Pure.pure, Except.pure]

/-- A signature is split into an identifier and a nested list. -/
theorem of_splitSignature (h : splitSignature text = .ok parts) :
    isIdentifier parts.name.toList = true ∧ Nested (fun _ => True) parts.params.toList := by
  simp only [splitSignature] at h
  split_ifs at h with hempty hname
  obtain ⟨⟨inside, after⟩, hclose, hparts⟩ := Outcome.bind_eq_ok_iff.mp h
  obtain rfl := Except.ok.inj hparts
  refine ⟨by simpa using hname, ?_⟩
  have hrest : (Text.trim text).drop ((Text.trim text).takeWhile (· != '(')).length =
      (Text.trim text).dropWhile (· != '(') := by
    nth_rewrite 2 [← @List.takeWhile_append_dropWhile _ (· != '(') (Text.trim text)]
    rw [List.drop_left]
  have hstart := List.head?_dropWhile_not (· != '(') (Text.trim text)
  rw [hrest] at hclose hempty
  generalize (Text.trim text).dropWhile (· != '(') = rest at hclose hempty hstart
  cases rest with
  | nil => simp at hempty
  | cons c others =>
    obtain rfl : c = '(' := by simpa using hstart
    simpa using (nested_of_splitAtClose hclose).trim

/-- The results that a text declares: none, one bare type, or a list that can be written. -/
theorem readResults_cases (hkeyword : ∀ result ∈ results, result.name ∉ typeKeywords)
    (h : readResults text = .ok results) :
    results = [] ∨
      (∃ result, results = [result] ∧ result.name.isEmpty = true ∧
        readEntry result.render.toList = .ok result) ∨
      ((∀ result ∈ results, IsListed result) ∧ IsUniform results) := by
  obtain ⟨-, hnone⟩ | ⟨inner, _, -, -, hinner, hread⟩ | ⟨entry, hentry, hname, hone⟩ :=
    exists_of_readResults h
  · exact .inl hnone
  · exact .inr (.inr (isListed_of_readParams hinner hkeyword hread))
  · exact .inr (.inl ⟨entry, hone, hname, readEntry_render hentry⟩)

theorem readResults_trim (text : Chars) : readResults (Text.trim text) = readResults text := by
  simp only [readResults, (Text.isTrimmed_trim text).trim_eq]

/-- One result without a name is read without parentheses. -/
theorem readResults_bare {result : Param} (hname : result.name.isEmpty = true)
    (hread : readEntry result.render.toList = .ok result)
    (hstart : Text.startsWith result.type "(" = false) :
    readResults result.render.toList = .ok [result] := by
  have htrim := (isTrimmed_render hread).trim_eq
  have hrender : result.render = result.type := by simp [Param.render, hname]
  simp only [readResults, htrim]
  split
  · next hempty =>
    rw [hempty] at hread
    cases hread
  · next rest hclause =>
    rw [← hrender, Text.startsWith, hclause] at hstart
    cases hstart
  · rw [Outcome.bind_eq_ok_iff]
    exact ⟨result, hread, by rw [if_pos hname]; rfl⟩

/-- Results in parentheses are read back. -/
theorem readResults_list (h : ∀ result ∈ results, IsListed result) (huniform : IsUniform results) :
    readResults ('(' :: (Signature.renderList results).toList ++ [')']) = .ok results := by
  have htrim : Text.trim ('(' :: (Signature.renderList results).toList ++ [')']) =
      '(' :: (Signature.renderList results).toList ++ [')'] :=
    (@Text.isTrimmed_append ['('] [')'] _ (by simp) (by simp; decide) (by simp)
      (by simp; decide)).trim_eq
  simp only [readResults, htrim]
  simp only [List.cons_append, Outcome.bind_eq_ok_iff]
  exact ⟨_, splitAtClose_append (nested_renderList h) [], readParams_renderList h huniform⟩

end Source

theorem Error.ofSource_ok_iff {α : Type} {outcome : Except SourceFault α} {value : α} :
    Error.ofSource outcome = .ok value ↔ outcome = .ok value := by
  cases outcome <;> simp [Error.ofSource]

/-- What is made of one text is refused exactly if the text is empty. -/
theorem Checked.map_nonEmpty_ok_iff {α : Type} {make : String → α} {member text : String}
    {found : α} : (make <$> Checked.nonEmpty member text).orError = .ok found ↔
      found = make text ∧ text.isEmpty = false := by
  unfold Checked.nonEmpty
  split_ifs with hempty
  · simpa [hempty] using fun h => nomatch h
  · constructor
    · exact fun h => ⟨(Except.ok.inj h).symm, Bool.eq_false_iff.mpr hempty⟩
    · rintro ⟨rfl, -⟩
      rfl

/-- A parameter passes its check exactly if it has a type. -/
theorem Param.checked_ok_iff {param found : Param} :
    param.checked.orError = .ok found ↔ found = param ∧ param.type.isEmpty = false :=
  Checked.map_nonEmpty_ok_iff

theorem Param.mapM_checked_ok_iff {params found : List Param} :
    (params.mapM fun param => param.checked.orError) = .ok found ↔
      found = params ∧ ∀ param ∈ params, param.type.isEmpty = false := by
  induction params generalizing found with
  | nil =>
    constructor
    · exact fun h => ⟨(Except.ok.inj h).symm, by simp⟩
    · rintro ⟨rfl, -⟩
      rfl
  | cons param rest ih =>
    simp only [List.mapM_cons, Outcome.bind_eq_ok_iff, Param.checked_ok_iff, ih,
      List.forall_mem_cons]
    constructor
    · rintro ⟨_, ⟨rfl, hparam⟩, _, ⟨rfl, hrest⟩, h⟩
      exact ⟨(Except.ok.inj h).symm, hparam, hrest⟩
    · rintro ⟨rfl, hparam, hrest⟩
      exact ⟨param, ⟨rfl, hparam⟩, rest, ⟨rfl, hrest⟩, rfl⟩

/-- A signature passes its check exactly if it has a name. -/
theorem Signature.checked_ok_iff {signature found : Signature} :
    signature.checked.orError = .ok found ↔
      found = signature ∧ signature.name.isEmpty = false :=
  Checked.map_nonEmpty_ok_iff

namespace Signature

open Source

variable {signature : Signature}

/-- A signature is built exactly from the lists that its texts declare, with non-empty types. -/
theorem ofText_ok_iff {name params results : String} :
    ofText name params results = .ok signature ↔
      signature.name = name ∧ name.isEmpty = false ∧
      readParams params.toList = .ok signature.params ∧
      readResults results.toList = .ok signature.results ∧
      ∀ param ∈ signature.params ++ signature.results, param.type.isEmpty = false := by
  simp only [ofText, Outcome.bind_eq_ok_iff, Error.ofSource_ok_iff, Param.mapM_checked_ok_iff,
    checked_ok_iff, List.forall_mem_append]
  constructor
  · rintro ⟨_, hparams, _, ⟨rfl, hfirst⟩, _, hresults, _, ⟨rfl, hsecond⟩, rfl, hname⟩
    exact ⟨rfl, hname, hparams, hresults, hfirst, hsecond⟩
  · rintro ⟨rfl, hname, hparams, hresults, hfirst, hsecond⟩
    exact ⟨_, hparams, _, ⟨rfl, hfirst⟩, _, hresults, _, ⟨rfl, hsecond⟩, rfl, hname⟩

/-- The text after the parameters. -/
def resultsText (signature : Signature) : Chars :=
  if signature.results.isEmpty then [] else ' ' :: signature.renderResults.toList

theorem toList_render (signature : Signature) :
    signature.render.toList = signature.name.toList ++ '(' ::
      (renderList signature.params).toList ++ ')' :: signature.resultsText := by
  rw [render, resultsText]
  split_ifs <;> simp

/-- Results that are read are read back from their text. -/
theorem readResults_render (hkeyword : ∀ result ∈ signature.results, result.name ∉ typeKeywords)
    (hparen : ∀ type, signature.results = [⟨"", type⟩] → Text.startsWith type "(" = false)
    {text : Chars} (h : readResults text = .ok signature.results) :
    readResults (Text.trim signature.resultsText) = .ok signature.results := by
  have hcases := readResults_cases hkeyword h
  by_cases hlist : (signature.hasNamedResults || 1 < signature.results.length) = true
  · obtain ⟨hlisted, huniform⟩ : (∀ result ∈ signature.results, IsListed result) ∧
        IsUniform signature.results := by
      rcases hcases with hnone | ⟨result, hone, hname, -⟩ | hlisted
      · simp [hasNamedResults, hnone] at hlist
      · simp [hasNamedResults, hone, hname] at hlist
      · exact hlisted
    have hne : signature.results.isEmpty = false := by
      rw [Bool.eq_false_iff]
      intro hempty
      simp [hasNamedResults, List.isEmpty_iff.mp hempty] at hlist
    have htext : signature.renderResults.toList =
        '(' :: (renderList signature.results).toList ++ [')'] := by
      simp [renderResults, hlist]
    rw [resultsText, if_neg (by simp [hne]), Text.trim_cons rfl, readResults_trim, htext]
    exact readResults_list hlisted huniform
  · have hbare : signature.renderResults = renderList signature.results := by
      simp only [renderResults, if_neg hlist]
    rw [resultsText, hbare]
    match hresults : signature.results with
    | [] => rfl
    | [result] =>
      have hname : result.name.isEmpty = true := by
        simpa [hasNamedResults, hresults] using hlist
      have hread : readEntry result.render.toList = .ok result := by
        rw [hresults] at hcases
        rcases hcases with hnone | ⟨other, hone, -, hread⟩ | ⟨hlisted, -⟩
        · cases hnone
        · rwa [(List.cons.inj hone).1]
        · exact (hlisted result (by simp)).read
      have hstart : Text.startsWith result.type "(" = false :=
        hparen result.type (by rw [hresults, ← String.isEmpty_iff.mp hname])
      rw [if_neg (by simp), Text.trim_cons rfl, readResults_trim]
      exact readResults_bare hname hread hstart
    | _ :: _ :: _ => simp [hresults] at hlist

/-- A signature that has been read from a text is read again from the line that is written for it,
unless one of its names is a keyword or its only result is a bare type in parentheses. -/
theorem ofText_render {text : Chars} {parts : SignatureText}
    (hparts : splitSignature text = .ok parts)
    (hbuilt : ofText parts.name parts.params parts.results = .ok signature)
    (hkeyword : ∀ param ∈ signature.params ++ signature.results, param.name ∉ typeKeywords)
    (hparen : ∀ type, signature.results = [⟨"", type⟩] → Text.startsWith type "(" = false) :
    ∃ again, splitSignature signature.render.toList = .ok again ∧
      ofText again.name again.params again.results = .ok signature := by
  obtain ⟨hname, hnested⟩ := of_splitSignature hparts
  obtain ⟨hnameEq, hnameEmpty, hparams, hresults, htypes⟩ := ofText_ok_iff.mp hbuilt
  obtain ⟨hkeyword₁, hkeyword₂⟩ := List.forall_mem_append.mp hkeyword
  obtain ⟨hlisted, huniform⟩ := isListed_of_readParams hnested hkeyword₁ hparams
  rw [← hnameEq] at hname hnameEmpty
  have hsplit := splitSignature_eq hname (nested_renderList hlisted) signature.resultsText
  rw [← toList_render] at hsplit
  refine ⟨_, hsplit, ofText_ok_iff.mpr ?_⟩
  simp only [String.ofList_toList, String.toList_ofList]
  refine ⟨trivial, hnameEmpty, ?_, readResults_render hkeyword₂ hparen hresults, htypes⟩
  rw [(isTrimmed_renderList hlisted).trim_eq]
  exact readParams_renderList hlisted huniform

/-- Shared types, nested brackets of all kinds and blanks that do not matter. -/
def sampleText : Chars :=
  (" Find (a , b string, at func(x int,\ty [2]chan int)  (ok bool), " ++
    "m map[string]struct\x7b n int \x7d) (chan<-  int, error) ").toList

def sampleSignature : Signature :=
  { name := "Find"
    params := [⟨"a", "string"⟩, ⟨"b", "string"⟩, ⟨"at", "func(x int,\ty [2]chan int) (ok bool)"⟩,
      ⟨"m", "map[string]struct\x7b n int \x7d"⟩]
    results := [⟨"", "chan<- int"⟩, ⟨"", "error"⟩] }

theorem ofText_render_sample :
    ∃ parts again, splitSignature sampleText = .ok parts ∧
      ofText parts.name parts.params parts.results = .ok sampleSignature ∧
      sampleSignature.render.toList ≠ sampleText ∧
      splitSignature sampleSignature.render.toList = .ok again ∧
      ofText again.name again.params again.results = .ok sampleSignature := by
  have hparts : splitSignature sampleText = .ok ⟨"Find",
      "a , b string, at func(x int,\ty [2]chan int)  (ok bool), m map[string]struct\x7b n int \x7d",
      "(chan<-  int, error)"⟩ := by
    decide +kernel
  have hbuilt : ofText "Find"
      "a , b string, at func(x int,\ty [2]chan int)  (ok bool), m map[string]struct\x7b n int \x7d"
      "(chan<-  int, error)" = .ok sampleSignature := by
    decide +kernel
  obtain ⟨again, hsplit, hagain⟩ :=
    ofText_render hparts hbuilt (by decide) fun type h => by cases h
  exact ⟨_, again, hparts, hbuilt, by decide +kernel, hsplit, hagain⟩

end Signature

end Scaffold
