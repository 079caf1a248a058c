import Scaffold.Proofs.KeptFiles

/-!
# Where a manifest goes

The path of a manifest may be relative and may lead up. Without links it still leads to the one
location that it spells, so that writing a manifest makes directories where there was nothing and
touches no file but the one at that location.
-/

namespace Scaffold

namespace Tree

variable {tree : Tree} {base : Location} {names : List String} {followLast : Bool}

/-- Without links, names that stand for entries or lead up end where they spell, or show why they
cannot. -/
theorem descend_spelled (hlinks : ∀ location target, tree.get? location ≠ some (.link target))
    (hnames : ∀ name ∈ names, name = ".." ∨ IsName name) :
    tree.descend followLast base names = .ended (.ok (.taken (names.foldl stepName base)
      ((tree.get? (names.foldl stepName base)).getD .plainDirectory))) ∨
    (tree.descend followLast base names = .ended (.ok (.vacant (names.foldl stepName base))) ∧
      tree.get? (names.foldl stepName base) = none ∧ names.foldl stepName base ≠ []) ∨
    ∃ fault, tree.descend followLast base names = .ended (.error fault) := by
  induction names generalizing base with
  | nil => exact Or.inl rfl
  | cons name rest ih =>
    obtain ⟨hfirst, hrest⟩ := List.forall_mem_cons.mp hnames
    rcases hfirst with rfl | hname
    · have hstep : tree.descend followLast base (".." :: rest) =
          if tree.allows .pass base then tree.descend followLast base.dropLast rest
          else .ended (.error .denied) := by
        rw [descend, if_neg (by decide)]
        cases tree.allows .pass base <;> rfl
      rw [hstep]
      cases tree.allows .pass base with
      | true => exact ih hrest
      | false => exact Or.inr (Or.inr ⟨_, rfl⟩)
    · have hspelled : stepName base name = base ++ [name] :=
        if_neg (by simpa using hname.2.2)
      rw [descend_cons hname, List.foldl_cons, hspelled]
      cases tree.allows .pass base with
      | false => exact Or.inr (Or.inr ⟨_, rfl⟩)
      | true =>
        cases hnode : tree.get? (base ++ [name]) with
        | none =>
          simp only [vacancy, if_true]
          split_ifs with hlong hlast
          · exact Or.inr (Or.inr ⟨_, rfl⟩)
          · obtain rfl := List.isEmpty_iff.mp hlast
            exact Or.inr (Or.inl ⟨rfl, hnode, by simp⟩)
          · exact Or.inr (Or.inr ⟨_, rfl⟩)
        | some node =>
          cases node with
          | directory mode => exact ih hrest
          | file content mode =>
            simp only [if_true]
            split_ifs with hlast
            · obtain rfl := List.isEmpty_iff.mp hlast
              left
              rw [List.foldl_nil, hnode]
              rfl
            · exact Or.inr (Or.inr ⟨_, rfl⟩)
          | link target => exact absurd hnode (hlinks _ target)

end Tree

namespace Disk

open Tree

variable {disk after : Disk} {path : Path} {region : Location → Prop}

/-- The location that a path spells, whatever stands there. -/
def spelled (disk : Disk) (path : Path) : Location :=
  path.parts.foldl stepName (disk.start path)

/-- The parts of a path stand for entries or lead up. -/
def HasParts (path : Path) : Prop := ∀ part ∈ path.parts, part = ".." ∨ IsName part

theorem hasParts_ofString (text : String) : HasParts (.ofString text) :=
  fun _ hpart => Run.isName_of_mem_partsOf hpart

theorem IsOrderly.isName_spelled (h : disk.IsOrderly) (hparts : HasParts path) :
    ∀ name ∈ disk.spelled path, IsName name := by
  refine Run.isName_foldl_stepName (fun name hname => ?_) hparts
  unfold start at hname
  split_ifs at hname
  · cases hname
  · exact h.cwd name hname

/-- Asking for a path gives what stands at the location that it spells, or that nothing does, or a
fault. -/
theorem asked_follow_cases (h : disk.tree.IsOrderly) (hparts : HasParts path)
    (followLast : Bool) :
    asked path (disk.tree.follow followLast linkLimit (disk.start path) path.parts) =
      .ok (.taken (disk.spelled path)
        ((disk.tree.get? (disk.spelled path)).getD .plainDirectory)) ∨
    (asked path (disk.tree.follow followLast linkLimit (disk.start path) path.parts) =
        .ok (.vacant (disk.spelled path)) ∧
      disk.tree.get? (disk.spelled path) = none ∧ disk.spelled path ≠ []) ∨
    ∃ fault, asked path (disk.tree.follow followLast linkLimit (disk.start path) path.parts) =
      .error fault := by
  rcases @descend_spelled disk.tree (disk.start path) path.parts followLast h.linkFree hparts with
    htaken | ⟨hvacant, hget, hne⟩ | ⟨fault, hfault⟩
  · exact Or.inl (congrArg (asked path) (follow_eq htaken))
  · rw [follow_eq hvacant]
    simp only [asked]
    split_ifs
    · exact Or.inr (Or.inr ⟨_, rfl⟩)
    · exact Or.inr (Or.inl ⟨rfl, hget, hne⟩)
  · rw [follow_eq hfault]
    simp only [asked]
    split_ifs <;> exact Or.inr (Or.inr ⟨_, rfl⟩)

/-- A directory is made only where there is nothing. -/
theorem keepsFiles_of_ensureDirectory (h : disk.IsOrderly) (hparts : HasParts path)
    (hok : disk.ensureDirectory path = .ok after) : KeepsFiles region disk after := by
  unfold ensureDirectory makeDirectory findEntry at hok
  split_ifs at hok
  · obtain rfl := Except.ok.inj hok
    exact refl_of _ _
  · rcases asked_follow_cases h.tree hparts false with htaken | ⟨hvacant, hget, hne⟩ |
      ⟨fault, hfault⟩
    · simp [htaken] at hok
    · simp only [hvacant, place] at hok
      split_ifs at hok
      obtain rfl := Except.ok.inj hok
      exact keepsFiles_put_directory h.tree hne (h.isName_spelled hparts) hget _
    · simp [hfault] at hok

/-- A file is written at the location that its path spells, and nowhere else. -/
theorem keepsFiles_of_writeFile (h : disk.IsOrderly) (hparts : HasParts path)
    {content : ByteArray} (hok : disk.writeFile path content = .ok after) :
    KeepsFiles (· = disk.spelled path) disk after := by
  have hput : disk.spelled path ≠ [] → ∀ mode,
      KeepsFiles (· = disk.spelled path) disk
        { disk with tree := disk.tree.put (disk.spelled path) (.file content mode) } := by
    intro hne mode
    refine ⟨fun _ => rfl, fun _ => h.tree.put hne (h.isName_spelled hparts) (by simp),
      fun _ location hout other fileMode => ?_⟩
    rw [get?_put hne, if_neg hout]
  unfold writeFile find at hok
  rcases asked_follow_cases h.tree hparts true with htaken | ⟨hvacant, -, hne⟩ | ⟨fault, hfault⟩
  · rw [htaken] at hok
    cases hnode : (disk.tree.get? (disk.spelled path)).getD .plainDirectory with
    | file old mode =>
      simp only [hnode] at hok
      split_ifs at hok
      obtain rfl := Except.ok.inj hok
      refine hput (fun hroot => ?_) mode
      rw [hroot, get?_nil] at hnode
      cases hnode
    | directory mode => simp [hnode] at hok
    | link target => simp [hnode] at hok
  · simp only [hvacant, place] at hok
    split_ifs at hok
    obtain rfl := Except.ok.inj hok
    exact hput hne _
  · simp [hfault] at hok

end Disk

namespace Export

open Tree Disk Action

variable {path : Path} {region : Location → Prop} {workspace : Workspace}

/-- Making the directories above a manifest changes no file. -/
theorem ensureAbove_keepsFiles (hparts : HasParts path) :
    Keeps (KeepsFiles region) (ensureAbove path) := by
  have hchain : ∀ above ∈ Disk.chain path.parent, HasParts above := by
    intro above habove part hpart
    obtain ⟨count, -, rfl⟩ := List.mem_map.mp habove
    exact hparts part (List.dropLast_subset _ (List.mem_of_mem_take hpart))
  have hmake : ∀ paths : List Path, (∀ above ∈ paths, HasParts above) →
      Keeps (KeepsFiles region) (paths.forM fun above =>
        change .writeManifest path fun disk => disk.ensureDirectory above) := by
    intro paths
    induction paths with
    | nil => exact fun _ => .of_disk_eq fun _ => rfl
    | cons above rest ih =>
      intro hpaths
      rw [List.forall_mem_cons] at hpaths
      exact .bind (.change fun disk after hafter => .of_orderly fun horderly =>
        keepsFiles_of_ensureDirectory horderly hpaths.1 hafter) fun _ => ih hpaths.2
  refine .bind (.of_disk_eq fun _ => rfl) fun disk => ?_
  split
  · exact .of_disk_eq fun _ => rfl
  · exact .of_disk_eq fun _ => rfl
  · exact hmake _ hchain

/-- Writing a manifest changes no file but the one at the location that its path spells, whether it
succeeds or fails. -/
theorem writeManifest_keepsFiles (horderly : workspace.disk.IsOrderly) (hparts : HasParts path)
    (manifest : Manifest) :
    KeepsFiles (· = workspace.disk.spelled path) workspace.disk
      ((writeManifest manifest path).on workspace).2.disk := by
  have habove := @ensureAbove_keepsFiles path (· = workspace.disk.spelled path) hparts workspace
  rw [writeManifest, on_bind]
  rcases hon : (ensureAbove path).on workspace with ⟨error | _, made⟩ <;> rw [hon] at habove
  · exact habove
  · have hmade := habove.isOrderly horderly
    have hspelled : made.disk.spelled path = workspace.disk.spelled path := by
      rw [spelled, spelled, start, start, habove.cwd horderly]
    refine trans_of (KeepsFiles _) habove ?_
    simp only
    rw [on_change_disk, ← hspelled]
    cases hwrite : made.disk.writeFile path (manifest.render 2 ++ "\n").toUTF8 with
    | error fault => exact refl_of _ _
    | ok after => exact keepsFiles_of_writeFile hmade hparts hwrite

end Export

end Scaffold
