import Mathlib.Data.List.Nodup
import Scaffold.Proofs.StoreSteps
import Scaffold.Render.Store

/-!
# The imports that a store takes up

A store takes up imports one after the other, by path. What it holds in the end is the first import
of each path among those that it was given.
-/

namespace Scaffold

namespace Import

/-- Two imports of one path. -/
def samePath (first second : Import) : Bool :=
  first.path == second.path

/-- The import without a local name that code cannot use. -/
def normal (item : Import) : Import :=
  ⟨item.path, if renames item.localName then item.localName else ""⟩

/-- The imports that qualifiers refer to, in order. -/
def resolved (imports : List Import) (qualifiers : List String) : List Import :=
  qualifiers.filterMap fun qualifier =>
    (imports.find? fun item => item.qualifier == qualifier).map normal

/-- The first import of each path. -/
def firsts (found : List Import) : List Import :=
  found.eraseDupsBy samePath

/-- Of imports with different paths, that of one path is the only one with a qualifier just when
no other has the qualifier and it has. -/
theorem map_path_filter_eq_singleton_iff {imports : List Import} {path qualifier : String}
    (hnodup : (imports.map Import.path).Nodup) (hpath : path ∈ imports.map Import.path) :
    (imports.filter fun item => item.qualifier == qualifier).map Import.path = [path] ↔
      ∀ item ∈ imports, (item.path = path ↔ item.qualifier = qualifier) := by
  constructor
  · intro honly item hitem
    constructor
    · rintro rfl
      have hfound : item.path ∈
          (imports.filter fun item => item.qualifier == qualifier).map Import.path := by
        rw [honly]
        exact List.mem_singleton_self _
      obtain ⟨other, hother, hsame⟩ := List.mem_map.mp hfound
      obtain ⟨hmem, hqualifier⟩ := List.mem_filter.mp hother
      rw [← List.inj_on_of_nodup_map hnodup hmem hitem hsame]
      exact eq_of_beq hqualifier
    · intro hqualifier
      have hkept : item ∈ imports.filter fun item => item.qualifier == qualifier :=
        List.mem_filter.mpr ⟨hitem, beq_iff_eq.mpr hqualifier⟩
      have hfound := List.mem_map_of_mem (f := Import.path) hkept
      rw [honly] at hfound
      exact List.mem_singleton.mp hfound
  · intro hiff
    have hfilter : (imports.filter fun item => item.qualifier == qualifier) =
        imports.filter ((· == path) ∘ Import.path) := by
      refine List.filter_congr fun item hitem => ?_
      rw [Function.comp_apply, Bool.eq_iff_iff, beq_iff_eq, beq_iff_eq]
      exact (hiff item hitem).symm
    rw [hfilter, ← List.filter_map, List.filter_beq, List.count_eq_one_of_mem hnodup hpath]
    rfl

theorem eraseDupsBy_concat {α : Type} (same : α → α → Bool) (items : List α) (item : α) :
    (items ++ [item]).eraseDupsBy same =
      if (items.eraseDupsBy same).any (same item) then items.eraseDupsBy same
      else items.eraseDupsBy same ++ [item] := by
  have hloop : ∀ (rest kept : List α), List.eraseDupsBy.loop same (rest ++ [item]) kept =
      List.eraseDupsBy.loop same [item] (List.eraseDupsBy.loop same rest kept).reverse := by
    intro rest
    induction rest with
    | nil => intro kept; simp [List.eraseDupsBy.loop]
    | cons first rest ih =>
      intro kept
      have hstep : ∀ more : List α, List.eraseDupsBy.loop same (first :: more) kept =
          List.eraseDupsBy.loop same more
            (if kept.any (same first) then kept else first :: kept) := by
        intro more
        rw [List.eraseDupsBy.loop]
        cases kept.any (same first) <;> rfl
      rw [List.cons_append, hstep, hstep, ih]
  rw [List.eraseDupsBy, hloop, List.eraseDupsBy.loop, ← List.eraseDupsBy, List.any_reverse]
  cases (items.eraseDupsBy same).any (same item) <;> simp [List.eraseDupsBy.loop]

end Import

namespace Store

variable {store later : Store} {found : List Import} {path other name : String}

theorem lookup_setAlias (path name : String) (aliases : List (String × String)) (other : String) :
    (setAlias path name aliases).lookup other =
      if other == path then some name else aliases.lookup other := by
  induction aliases with
  | nil =>
    rw [setAlias, List.lookup_cons]
    split <;> simp_all
  | cons pair rest ih =>
    rw [setAlias]
    split_ifs with hpair hother hother
    · rw [List.lookup_cons, eq_of_beq hpair, hother]
    · rw [List.lookup_cons, List.lookup_cons, eq_of_beq hpair, Bool.eq_false_iff.mpr hother]
    · have hne : (other == pair.1) = false := by
        rw [eq_of_beq hother, Bool.eq_false_iff, ne_eq, beq_iff_eq]
        exact fun heq => hpair (beq_iff_eq.mpr heq.symm)
      rw [List.lookup_cons, hne, ih, if_pos hother]
    · rw [List.lookup_cons, List.lookup_cons, ih, if_neg hother]

/-- The imports of a store with their aliases. -/
def importList (store : Store) : List Import :=
  store.imports.map store.importOf

theorem map_path_importList (store : Store) : store.importList.map Import.path = store.imports := by
  rw [importList, List.map_map]
  exact List.map_id _

/-- The store holds the first import of each path among those that were found. -/
structure TakesUp (store : Store) (found : List Import) : Prop where
  known : ∀ path, path ∉ store.imports → store.importAliases.lookup path = none
  nodup : store.imports.Nodup
  complete : ∀ item ∈ found, item.path ∈ store.imports
  eq : store.importList = Import.firsts found

/-- What a store takes up is a matter of its imports alone. -/
theorem TakesUp.congr (h : TakesUp store found) (himports : later.imports = store.imports)
    (haliases : later.importAliases = store.importAliases) : TakesUp later found := by
  have hlist : later.importList = store.importList := by
    simp only [importList, himports]
    refine List.map_congr_left fun path _ => ?_
    rw [importOf, importOf, aliasOf, aliasOf, haliases]
  exact ⟨by rw [himports, haliases]; exact h.known, himports ▸ h.nodup, himports ▸ h.complete,
    hlist.trans h.eq⟩

theorem any_samePath_importList (item : Import) :
    store.importList.any (Import.samePath item) = store.imports.contains item.path := by
  rw [importList, List.any_map, List.contains_eq_any_beq]
  rfl

/-- One more import is taken up, unless its path is there. -/
theorem TakesUp.addImport (h : TakesUp store found) (item : Import) :
    TakesUp (store.addImport item.path item.localName) (found ++ [item]) := by
  have herase := Import.eraseDupsBy_concat Import.samePath found item
  rw [← Import.firsts, ← Import.firsts, ← h.eq, any_samePath_importList] at herase
  by_cases hknown : item.path ∈ store.imports
  · rw [if_pos (List.contains_iff_mem.mpr hknown)] at herase
    rw [Store.addImport, if_pos (List.contains_iff_mem.mpr hknown)]
    refine ⟨h.known, h.nodup, fun other hother => ?_, herase.symm⟩
    rcases List.mem_append.mp hother with hother | hother
    · exact h.complete other hother
    · rwa [List.mem_singleton.mp hother]
  · rw [if_neg (mt List.contains_iff_mem.mp hknown)] at herase
    rw [Store.addImport, if_neg (mt List.contains_iff_mem.mp hknown)]
    obtain ⟨aliases, haliases⟩ : ∃ aliases, aliases = if item.localName.isEmpty then
      store.importAliases else setAlias item.path item.localName store.importAliases := ⟨_, rfl⟩
    rw [← haliases]
    have hothers : ∀ path, path ≠ item.path →
        aliases.lookup path = store.importAliases.lookup path := by
      intro path hne
      rw [haliases]
      split_ifs
      · rfl
      · rw [lookup_setAlias, if_neg (by simpa using hne)]
    have hhere : (aliases.lookup item.path).getD "" = item.localName := by
      rw [haliases]
      split_ifs with hempty
      · rw [h.known item.path hknown, String.isEmpty_iff.mp hempty]
        rfl
      · rw [lookup_setAlias, if_pos (by simp)]
        rfl
    refine ⟨fun path hpath => ?_, ?_, fun other hother => ?_, ?_⟩
    · simp only [List.mem_append, List.mem_singleton, not_or] at hpath
      rw [hothers path hpath.2, h.known path hpath.1]
    · exact List.nodup_append'.mpr
        ⟨h.nodup, List.nodup_singleton _, List.disjoint_singleton.mpr hknown⟩
    · rcases List.mem_append.mp hother with hother | hother
      · exact List.mem_append_left _ (h.complete other hother)
      · simp [List.mem_singleton.mp hother]
    · rw [herase, importList, importList, List.map_append, List.map_singleton]
      refine congrArg₂ (· ++ ·) (List.map_congr_left fun path hpath => ?_) ?_
      · rw [importOf, importOf, aliasOf, aliasOf, hothers path fun heq => hknown (heq ▸ hpath)]
      · rw [importOf, aliasOf, hhere]

/-- Adds imports one after the other. -/
def addImports (store : Store) (items : List Import) : Store :=
  items.foldl (fun store item => store.addImport item.path item.localName) store

theorem TakesUp.addImports (h : TakesUp store found) (items : List Import) :
    TakesUp (store.addImports items) (found ++ items) := by
  induction items generalizing store found with
  | nil => rwa [List.append_nil]
  | cons item rest ih =>
    have hrest := ih (h.addImport item)
    rwa [List.append_assoc] at hrest

theorem resolveImports_eq (store : Store) (imports : List Import) (qualifiers : List String) :
    store.resolveImports imports qualifiers =
      store.addImports (Import.resolved imports qualifiers) := by
  induction qualifiers generalizing store with
  | nil => rfl
  | cons qualifier rest ih =>
    have hstep : store.resolveImports imports (qualifier :: rest) =
        (resolveImport imports store qualifier).resolveImports imports rest := rfl
    have hresolved : Import.resolved imports (qualifier :: rest) =
        ((imports.find? fun item => item.qualifier == qualifier).map Import.normal).toList ++
          Import.resolved imports rest := by
      rw [Import.resolved, List.filterMap_cons]
      cases imports.find? fun item => item.qualifier == qualifier <;> rfl
    rw [hstep, ih, hresolved, resolveImport]
    cases imports.find? fun item => item.qualifier == qualifier <;> rfl

theorem finalize_eq_addImports (config : Config) (store : Store) :
    store.finalize config =
      store.addImports ((store.fixedImports config).map fun path => ⟨path, ""⟩) := by
  rw [finalize_eq, addImports, List.foldl_map]

end Store

end Scaffold
