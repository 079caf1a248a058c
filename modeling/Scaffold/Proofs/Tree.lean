import Mathlib.Data.List.Induction
import Mathlib.Data.List.Sort
import Scaffold.Disk.Tree

/-!
# File trees as maps

A tree is read through `get?`. The lemmas here say what each change does to that map, and that the
names listed in a directory are determined by it. Orderly trees have one entry a location, names
that stand for entries, and no links.
-/

namespace Scaffold.Tree

variable {tree : Tree} {location other : Location} {node : Node}

@[simp] theorem get?_nil (tree : Tree) : tree.get? [] = some .plainDirectory := rfl

theorem get?_eq_lookup (h : location ≠ []) : tree.get? location = tree.entries.lookup location := by
  simp [get?, h]

private theorem lookup_cons_ite (entry : Location × Node) (rest : List (Location × Node)) :
    (entry :: rest).lookup location =
      if location = entry.1 then some entry.2 else rest.lookup location := by
  obtain ⟨l, n⟩ := entry
  by_cases h : location = l
  · simp [h]
  · rw [List.lookup_cons, beq_eq_false_iff_ne.mpr h, if_neg h]

private theorem lookup_putEntry (entries : List (Location × Node)) :
    (putEntry location node entries).lookup other =
      if other = location then some node else entries.lookup other := by
  induction entries with
  | nil => simp [putEntry, lookup_cons_ite]
  | cons entry rest ih =>
    obtain ⟨l, n⟩ := entry
    by_cases hl : l = location
    · by_cases h : other = location <;> simp [putEntry, hl, lookup_cons_ite, h]
    · by_cases h : other = l
      · simp [putEntry, hl, h]
      · simp [putEntry, hl, lookup_cons_ite, h, ih]

/-- Putting a node in place changes what stands there and nothing else. -/
theorem get?_put (h : location ≠ []) :
    (tree.put location node).get? other =
      if other = location then some node else tree.get? other := by
  by_cases ho : other = []
  · subst ho
    simp [Ne.symm h]
  · rw [get?_eq_lookup ho, get?_eq_lookup ho, put, lookup_putEntry]

private theorem lookup_filter_key (keep : Location → Bool) (entries : List (Location × Node)) :
    (entries.filter fun entry => keep entry.1).lookup location =
      if keep location then entries.lookup location else none := by
  induction entries with
  | nil => simp
  | cons entry rest ih =>
    by_cases hl : location = entry.1
    · subst hl
      by_cases hk : keep entry.1 <;> simp [lookup_cons_ite, hk, ih]
    · by_cases hk : keep entry.1 <;> simp [lookup_cons_ite, hk, hl, ih]

/-- Erasing a location leaves nothing there, and all else as it was. -/
theorem get?_erase (h : location ≠ []) :
    (tree.erase location).get? other = if other = location then none else tree.get? other := by
  by_cases ho : other = []
  · subst ho
    simp [Ne.symm h]
  · rw [get?_eq_lookup ho, get?_eq_lookup ho, erase,
      lookup_filter_key (fun key => key != location)]
    by_cases hl : other = location <;> simp [hl]

/-- Clearing a location leaves nothing below it, and all else as it was. -/
theorem get?_clear :
    (tree.clear location).get? other =
      if location <+: other ∧ other ≠ location then none else tree.get? other := by
  by_cases ho : other = []
  · subst ho
    simp
  · rw [get?_eq_lookup ho, get?_eq_lookup ho, clear,
      lookup_filter_key (fun key => !(location.isPrefixOf key && key != location))]
    by_cases hp : location <+: other <;> by_cases hl : other = location <;> simp [hp, hl]

/-- What lies directly in a directory has its location and one name more. -/
theorem isChildOf_iff : isChildOf location other = true ↔ ∃ name, other = location ++ [name] := by
  simp only [isChildOf, Bool.and_eq_true, beq_iff_eq, Bool.not_eq_true', List.isEmpty_eq_false_iff]
  constructor
  · rintro ⟨hne, hparent⟩
    exact ⟨other.getLast hne, by rw [← hparent, List.dropLast_append_getLast]⟩
  · rintro ⟨name, rfl⟩
    simp

/-- The names in a directory are those of the entries directly below it. -/
theorem mem_names {name : String} :
    name ∈ tree.names location ↔ (tree.get? (location ++ [name])).isSome = true := by
  rw [get?_eq_lookup (by simp), names, List.mem_mergeSort, List.lookup_isSome_iff]
  simp only [List.mem_map, List.mem_filter, isChildOf_iff]
  constructor
  · rintro ⟨⟨l, n⟩, ⟨hmem, last, rfl⟩, hlast⟩
    exact ⟨_, hmem, by simpa using hlast.symm⟩
  · rintro ⟨⟨l, n⟩, hmem, hl⟩
    obtain rfl : location ++ [name] = l := beq_iff_eq.mp hl
    exact ⟨_, ⟨hmem, name, rfl⟩, by simp⟩

/-- Names are listed in their order. -/
theorem pairwise_names (tree : Tree) (location : Location) :
    (tree.names location).Pairwise (· ≤ ·) := by
  have hsorted : (tree.names location).Pairwise fun a b => decide (a ≤ b) = true :=
    List.pairwise_mergeSort
      (fun a b c hab hbc => by
        simpa using String.le_trans (by simpa using hab) (by simpa using hbc))
      (fun a b => by simpa using String.le_total a b) _
  simpa only [decide_eq_true_eq] using hsorted

/-- One entry for each location: the list of entries is a map. -/
def IsMap (tree : Tree) : Prop := (tree.entries.map Prod.fst).Nodup

/-- In a map every entry is found. -/
theorem IsMap.lookup_eq_some_iff (h : tree.IsMap) :
    tree.entries.lookup location = some node ↔ (location, node) ∈ tree.entries := by
  constructor
  · intro hlookup
    obtain ⟨before, after, heq, -⟩ := List.lookup_eq_some_iff.mp hlookup
    simp [heq]
  · intro hmem
    obtain ⟨before, after, heq⟩ := List.append_of_mem hmem
    refine List.lookup_eq_some_iff.mpr ⟨before, after, heq, ?_⟩
    intro entry hentry
    simp only [IsMap, heq, List.map_append, List.map_cons] at h
    have hne := List.disjoint_of_nodup_append h (List.mem_map_of_mem hentry)
    exact bne_iff_ne.mpr fun hkey => hne (List.mem_cons.mpr (Or.inl hkey.symm))

theorem IsMap.nodup_names (h : tree.IsMap) : (tree.names location).Nodup := by
  refine (List.mergeSort_perm _ _).nodup_iff.mpr ?_
  have hkeys : ((tree.entries.filter fun entry => isChildOf location entry.1).map
      Prod.fst).Nodup := h.sublist (List.filter_sublist.map _)
  rw [show (fun entry : Location × Node => entry.1.getLast?.getD "") =
    (fun key : Location => key.getLast?.getD "") ∘ Prod.fst from rfl, ← List.map_map]
  refine hkeys.map_on ?_
  intro a ha b hb hab
  obtain ⟨ea, hea, rfl⟩ := List.mem_map.mp ha
  obtain ⟨eb, heb, rfl⟩ := List.mem_map.mp hb
  obtain ⟨na, hna⟩ := isChildOf_iff.mp (List.mem_filter.mp hea).2
  obtain ⟨nb, hnb⟩ := isChildOf_iff.mp (List.mem_filter.mp heb).2
  simp only [hna, hnb, List.getLast?_concat, Option.getD_some] at hab
  rw [hna, hnb, hab]

/-- Selections of listed names are determined by what they select. -/
theorem IsMap.filter_names_congr {first second : Tree} (hf : first.IsMap) (hs : second.IsMap)
    {keep keep' : String → Bool}
    (h : ∀ name, name ∈ first.names location ∧ keep name = true ↔
      name ∈ second.names location ∧ keep' name = true) :
    (first.names location).filter keep = (second.names location).filter keep' := by
  have hperm : ((first.names location).filter keep).Perm
      ((second.names location).filter keep') := by
    refine (List.perm_ext_iff_of_nodup (hf.nodup_names.filter _) (hs.nodup_names.filter _)).mpr ?_
    intro name
    rw [List.mem_filter, List.mem_filter, h]
  exact hperm.eq_of_pairwise (fun a b _ _ hab hba => String.le_antisymm hab hba)
    ((pairwise_names first location).filter _) ((pairwise_names second location).filter _)

/-- Maps with the same entries directly below a location list the same names there. -/
theorem IsMap.names_congr {first second : Tree} (hf : first.IsMap) (hs : second.IsMap)
    (h : ∀ name, first.get? (location ++ [name]) = second.get? (location ++ [name])) :
    first.names location = second.names location := by
  have hall := @IsMap.filter_names_congr location first second hf hs (fun _ => true) (fun _ => true)
    fun name => by rw [mem_names, mem_names, h]
  simpa only [List.filter_true] using hall

private theorem mem_keys_putEntry {key : Location} {entries : List (Location × Node)} :
    key ∈ (putEntry location node entries).map Prod.fst ↔
      key = location ∨ key ∈ entries.map Prod.fst := by
  induction entries with
  | nil => simp [putEntry]
  | cons entry rest ih =>
    by_cases hl : entry.1 = location
    · simp [putEntry, hl]
    · simp only [putEntry, beq_iff_eq, hl, if_false, List.map_cons, List.mem_cons, ih]
      tauto

theorem IsMap.put (h : tree.IsMap) : (tree.put location node).IsMap := by
  have hkeys : ∀ entries : List (Location × Node), (entries.map Prod.fst).Nodup →
      ((putEntry location node entries).map Prod.fst).Nodup := by
    intro entries
    induction entries with
    | nil => simp [putEntry]
    | cons entry rest ih =>
      intro hnodup
      obtain ⟨hnew, hrest⟩ := List.nodup_cons.mp hnodup
      by_cases hl : entry.1 = location
      · simpa [putEntry, hl] using hnodup
      · simp only [putEntry, beq_iff_eq, hl, if_false, List.map_cons, List.nodup_cons,
          mem_keys_putEntry, not_or, not_false_eq_true, true_and]
        exact ⟨hnew, ih hrest⟩
  exact hkeys tree.entries h

theorem IsMap.erase (h : tree.IsMap) : (tree.erase location).IsMap :=
  h.sublist (List.filter_sublist.map _)

theorem IsMap.clear (h : tree.IsMap) : (tree.clear location).IsMap :=
  h.sublist (List.filter_sublist.map _)

/-- A name that stands for an entry of its directory. -/
def IsName (name : String) : Prop := name ≠ "" ∧ name ≠ "." ∧ name ≠ ".."

instance (name : String) : Decidable (IsName name) :=
  inferInstanceAs (Decidable (_ ∧ _ ∧ _))

/-- A tree with one entry a location, names that stand for entries, and no links. -/
structure IsOrderly (tree : Tree) : Prop where
  isMap : tree.IsMap
  isName : ∀ {location node}, tree.get? location = some node → ∀ name ∈ location, IsName name
  linkFree : ∀ location target, tree.get? location ≠ some (.link target)

theorem IsOrderly.isName_of_mem (h : tree.IsOrderly) {name : String}
    (hname : name ∈ tree.names location) : IsName name := by
  obtain ⟨node, hnode⟩ := Option.isSome_iff_exists.mp (mem_names.mp hname)
  exact h.isName hnode name (by simp)

/-- An orderly tree stays orderly when a directory or file is put at a location made of names. -/
theorem IsOrderly.put (h : tree.IsOrderly) (hne : location ≠ [])
    (hnames : ∀ name ∈ location, IsName name) (hnode : ∀ target, node ≠ .link target) :
    (tree.put location node).IsOrderly where
  isMap := h.isMap.put
  isName := by
    intro other found hfound
    rw [get?_put hne] at hfound
    split at hfound
    · next heq => rwa [heq]
    · exact h.isName hfound
  linkFree := by
    intro other target hlink
    rw [get?_put hne] at hlink
    split at hlink
    · exact hnode target (Option.some.inj hlink)
    · exact h.linkFree other target hlink

theorem IsOrderly.erase (h : tree.IsOrderly) (hne : location ≠ []) :
    (tree.erase location).IsOrderly where
  isMap := h.isMap.erase
  isName := by
    intro other found hfound
    rw [get?_erase hne] at hfound
    split at hfound
    · cases hfound
    · exact h.isName hfound
  linkFree := by
    intro other target hlink
    rw [get?_erase hne] at hlink
    split at hlink
    · cases hlink
    · exact h.linkFree other target hlink

theorem IsOrderly.clear (h : tree.IsOrderly) : (tree.clear location).IsOrderly where
  isMap := h.isMap.clear
  isName := by
    intro other found hfound
    rw [get?_clear] at hfound
    split at hfound
    · cases hfound
    · exact h.isName hfound
  linkFree := by
    intro other target hlink
    rw [get?_clear] at hlink
    split at hlink
    · cases hlink
    · exact h.linkFree other target hlink

/-- An orderly tree in which every entry lies in a directory. -/
structure IsPlain (tree : Tree) : Prop extends tree.IsOrderly where
  closed : ∀ {location node}, tree.get? location = some node → location ≠ [] →
    ∃ mode, tree.get? location.dropLast = some (.directory mode)

/-- Nothing is below what is not there. -/
theorem IsPlain.get?_eq_none_of_below (h : tree.IsPlain) (hnone : tree.get? location = none)
    (hbelow : location <+: other) : tree.get? other = none := by
  induction other using List.reverseRecOn with
  | nil =>
    rw [List.prefix_nil.mp hbelow] at hnone
    cases hnone
  | append_singleton parent name ih =>
    rcases List.prefix_concat_iff.mp hbelow with rfl | habove
    · exact hnone
    · cases hnode : tree.get? (parent ++ [name]) with
      | none => rfl
      | some node =>
        obtain ⟨mode, hparent⟩ := h.closed hnode (by simp)
        rw [List.dropLast_concat, ih habove] at hparent
        cases hparent

/-- A check of every entry: names that stand for entries, no link, and a directory above. -/
def isPlain (tree : Tree) : Bool :=
  decide (tree.entries.map Prod.fst).Nodup && tree.entries.all fun entry =>
    entry.1.all (fun name => decide (IsName name)) &&
      (match entry.2 with
      | .link _ => false
      | _ => true) &&
      match tree.get? entry.1.dropLast with
      | some (.directory _) => true
      | _ => false

/-- A tree whose entries pass the check is plain. -/
theorem IsPlain.of_isPlain (h : tree.isPlain = true) : tree.IsPlain := by
  simp only [isPlain, Bool.and_eq_true, decide_eq_true_eq, List.all_eq_true] at h
  obtain ⟨hkeys, hentries⟩ := h
  have hmem : ∀ {location node}, tree.get? location = some node → location ≠ [] →
      (location, node) ∈ tree.entries := by
    intro location node hnode hne
    rw [get?_eq_lookup hne] at hnode
    exact IsMap.lookup_eq_some_iff hkeys |>.mp hnode
  refine ⟨⟨hkeys, ?_, ?_⟩, ?_⟩
  · intro location node hnode name hname
    have hne : location ≠ [] := List.ne_nil_of_mem hname
    exact (hentries _ (hmem hnode hne)).1.1 name hname
  · intro location target hlink
    by_cases hne : location = []
    · subst hne
      cases hlink
    · exact Bool.noConfusion (hentries _ (hmem hlink hne)).1.2
  · intro location node hnode hne
    have habove := (hentries _ (hmem hnode hne)).2
    split at habove
    · next mode hmode => exact ⟨mode, hmode⟩
    · cases habove

end Scaffold.Tree
