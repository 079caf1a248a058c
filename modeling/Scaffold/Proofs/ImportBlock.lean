import Scaffold.Proofs.ImportReading

/-!
# Import blocks read back

A block is written in two groups, each in the order of its paths. What is found in the text of the
block are the imports of the first group and then those of the second: every import that the block
was written for, as often as it was given, with its local name.
-/

namespace Scaffold.Go

open Source

variable {imports : List Import} {paths : List String} {names : List (String × String)}

/-- The import of a path with the local name that a table gives it, if any. -/
def namedImport (names : List (String × String)) (path : String) : Import :=
  ⟨path, (names.lookup path).getD ""⟩

/-! ## The text of a block -/

/-- The last line has no line feed after it. -/
theorem toList_joinLines_concat (lines : List String) (last : String) :
    (Text.joinLines (lines ++ [last])).toList = linesText lines ++ last.toList := by
  have hjoin := @toList_joinLines (lines ++ [last]) (by simp)
  have hlast : linesText (lines ++ [last]) = linesText lines ++ last.toList ++ ['\n'] := by simp
  exact List.append_cancel_right (hjoin.trans hlast)

/-- The imports that are found in a block are those that it was written for, the standard ones
first, each part sorted. -/
theorem findImports_importBlock (h : ∀ item ∈ imports, IsWritable item) :
    findImports (importBlock imports).toList =
      sortImports (imports.filter fun item => Import.isStandard item.path) ++
        sortImports (imports.filter fun item => !Import.isStandard item.path) := by
  by_cases hempty : imports.isEmpty = true
  · obtain rfl := List.isEmpty_iff.mp hempty
    simp only [List.filter_nil, sortImports, List.mergeSort_nil]
    rfl
  have hsort : ∀ keep : Import → Bool, ∀ item ∈ sortImports (imports.filter keep),
      IsWritable item := by
    intro keep item hitem
    exact h item (List.mem_filter.mp (List.mem_mergeSort.mp hitem)).1
  have hstandard := hsort fun item => Import.isStandard item.path
  have hothers := hsort fun item => !Import.isStandard item.path
  unfold importBlock
  rw [if_neg hempty]
  dsimp only
  generalize sortImports (imports.filter fun item => Import.isStandard item.path) =
    standard at hstandard ⊢
  generalize sortImports (imports.filter fun item => !Import.isStandard item.path) =
    others at hothers ⊢
  have hgap : ∃ gap, (if standard.isEmpty || others.isEmpty then [] else [""]) = gap ∧
      ∀ line ∈ gap, line = "" := ⟨_, rfl, by split_ifs <;> simp⟩
  obtain ⟨gap, heq, hgap⟩ := hgap
  have hnone : gap.filterMap (fun line => foundAt importLine? line.toList) = [] := by
    rw [List.filterMap_eq_nil_iff]
    intro line hline
    rw [hgap line hline]
    rfl
  have hlines : ∀ line ∈ standard.map importLine ++ gap ++ others.map importLine,
      line = "" ∨ ∃ item, IsWritable item ∧ line = importLine item := by
    simp only [List.forall_mem_append, List.forall_mem_map]
    exact ⟨⟨fun item hitem => .inr ⟨item, hstandard item hitem, rfl⟩,
      fun line hline => .inl (hgap line hline)⟩,
      fun item hitem => .inr ⟨item, hothers item hitem, rfl⟩⟩
  have hblock := @findImports_block [] _ [] (by simp) (.inl rfl) hlines
  rw [heq, toList_joinLines_concat, List.cons_append, List.cons_append]
  refine hblock.trans ?_
  rw [List.filterMap_append, List.filterMap_append, hnone, List.append_nil,
    filterMap_importLine hstandard, filterMap_importLine hothers]

/-! ## Order -/

/-- Named imports are sorted as their paths are. -/
theorem sortImports_namedImport (names : List (String × String)) (paths : List String) :
    sortImports (paths.map (namedImport names)) =
      (paths.mergeSort fun a b => a ≤ b).map (namedImport names) :=
  (@List.map_mergeSort _ _ (fun a b => decide (a ≤ b))
    (fun a b : Import => decide (a.path ≤ b.path)) (namedImport names) paths
    fun _ _ _ _ => rfl).symm

theorem pairwise_mergeSort_paths (paths : List String) :
    (paths.mergeSort fun a b => a ≤ b).Pairwise (· ≤ ·) := by
  have htrans : ∀ a b c : String, decide (a ≤ b) = true → decide (b ≤ c) = true →
      decide (a ≤ c) = true := by
    simpa using fun a b c => @String.le_trans a b c
  have htotal : ∀ a b : String, (decide (a ≤ b) || decide (b ≤ a)) = true := by
    simpa using String.le_total
  exact (List.pairwise_mergeSort htrans htotal paths).imp of_decide_eq_true

/-- A block is read back as the paths that it was written for, each with its local name: first the
standard library in order, then the others in order. -/
theorem importBlock_read_back
    (hpaths : ∀ path ∈ paths, path ≠ "" ∧ '"' ∉ path.toList ∧ '\n' ∉ path.toList)
    (hnames : ∀ entry ∈ names,
      entry.2 = "" ∨ entry.2 = "." ∨ isIdentifier entry.2.toList = true) :
    ∃ standard others : List String,
      findImports (importBlock (paths.map (namedImport names))).toList =
        (standard ++ others).map (namedImport names) ∧
      (standard ++ others).Perm paths ∧
      (∀ path ∈ standard, Import.isStandard path = true) ∧ standard.Pairwise (· ≤ ·) ∧
      (∀ path ∈ others, Import.isStandard path = false) ∧ others.Pairwise (· ≤ ·) := by
  have hwritable : ∀ item ∈ paths.map (namedImport names), IsWritable item := by
    rw [List.forall_mem_map]
    intro path hpath
    obtain ⟨hne, hquote, hline⟩ := hpaths path hpath
    refine ⟨hne, hquote, hline, ?_⟩
    cases hlookup : names.lookup path with
    | none => exact .inl (by rw [namedImport, hlookup]; rfl)
    | some name =>
      rw [namedImport, hlookup]
      obtain ⟨before, after, rfl, -⟩ := List.lookup_eq_some_iff.mp hlookup
      exact hnames (path, name) (by simp)
  refine ⟨(paths.filter Import.isStandard).mergeSort fun a b => a ≤ b,
    (paths.filter fun path => !Import.isStandard path).mergeSort fun a b => a ≤ b,
    ?_, ?_, ?_, pairwise_mergeSort_paths _, ?_, pairwise_mergeSort_paths _⟩
  · rw [findImports_importBlock hwritable, List.filter_map, List.filter_map,
      sortImports_namedImport, sortImports_namedImport, ← List.map_append]
    rfl
  · exact ((List.mergeSort_perm _ _).append (List.mergeSort_perm _ _)).trans
      (List.filter_append_perm _ paths)
  · intro path hpath
    exact (List.mem_filter.mp (List.mem_mergeSort.mp hpath)).2
  · intro path hpath
    simpa using (List.mem_filter.mp (List.mem_mergeSort.mp hpath)).2

/-- A path that is given twice, a dot and names that are words, and a path that only looks like the
end of a block. -/
theorem importBlock_read_back_sample :
    findImports (importBlock (["time", "gopkg.in/yaml.v3", ")", "fmt", "example.com/db", "time"].map
      (namedImport [("time", "."), ("example.com/db", "_"), ("fmt", "import")]))).toList =
        ([")", "fmt", "time", "time"] ++ ["example.com/db", "gopkg.in/yaml.v3"]).map
          (namedImport [("time", "."), ("example.com/db", "_"), ("fmt", "import")]) := by
  obtain ⟨standard, others, hfound, hperm, hstandard, hsorted, hothers, hsorted'⟩ :=
    @importBlock_read_back ["time", "gopkg.in/yaml.v3", ")", "fmt", "example.com/db", "time"]
      [("time", "."), ("example.com/db", "_"), ("fmt", "import")] (by decide) (by decide)
  have hfirst : standard = [")", "fmt", "time", "time"] := by
    have hgroup := hperm.filter Import.isStandard
    rw [List.filter_append, List.filter_eq_self.mpr hstandard,
      List.filter_eq_nil_iff.mpr (by simpa using hothers), List.append_nil] at hgroup
    exact List.Perm.eq_of_pairwise (fun _ _ _ _ => String.le_antisymm) hsorted (by decide)
      (hgroup.trans (by decide))
  have hsecond : others = ["example.com/db", "gopkg.in/yaml.v3"] := by
    have hgroup := hperm.filter fun path => !Import.isStandard path
    rw [List.filter_append, List.filter_eq_nil_iff.mpr (by simpa using hstandard),
      List.filter_eq_self.mpr (by simpa using hothers), List.nil_append] at hgroup
    exact List.Perm.eq_of_pairwise (fun _ _ _ _ => String.le_antisymm) hsorted' (by decide)
      (hgroup.trans (by decide))
  rw [hfound, hfirst, hsecond]

end Scaffold.Go
