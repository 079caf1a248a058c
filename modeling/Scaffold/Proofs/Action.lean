import Mathlib.Order.Defs.Unbundled
import Scaffold.Workspace

/-!
# Reasoning about actions

Views of an action. `on` is its outcome on a workspace, and `Gives` bounds its results. `Keeps`
says that what it does to the disk, successful or not, stays within a preorder on disks. `Matches`
says that two actions do the same on disks that are alike and leave them alike. Notices never
matter to what an action does.
-/

namespace Scaffold.Action

variable {α β : Type} {workspace : Workspace} {action first : Action α} {second : α → Action β}
  {good : α → Prop} {outcome : Except Error α} {items : List α} {step : α → Action β}

/-- The outcome of an action on a workspace, and the workspace that it leaves. -/
def on (action : Action α) (workspace : Workspace) : Except Error α × Workspace :=
  action.run.run workspace

@[simp] theorem on_pure (value : α) :
    (pure value : Action α).on workspace = (.ok value, workspace) := rfl

@[simp] theorem on_throw (error : Error) :
    (throw error : Action α).on workspace = (.error error, workspace) := rfl

@[simp] theorem on_disk : disk.on workspace = (.ok workspace.disk, workspace) := rfl

@[simp] theorem on_tell (notices : List Notice) :
    (tell notices).on workspace =
      (.ok (), { workspace with notices := workspace.notices ++ notices }) := rfl

@[simp] theorem on_ofExcept (outcome : Except Error α) :
    (ofExcept outcome).on workspace = (outcome, workspace) := by
  cases outcome <;> rfl

/-- A sequence stops at the first error, and keeps the workspace as it is then. -/
theorem on_bind (first : Action α) (second : α → Action β) :
    (first >>= second).on workspace =
      match first.on workspace with
      | (.ok value, later) => (second value).on later
      | (.error error, later) => (.error error, later) := by
  cases h : first.on workspace with
  | mk outcome later =>
    have hrun : first.run.run workspace = (outcome, later) := h
    simp only [on, ExceptT.run_bind, StateT.run_bind]
    rw [hrun]
    cases outcome <;> rfl

/-- A sequence succeeds only through a success of its first part. -/
theorem on_bind_ok {result : β} {last : Workspace} :
    (first >>= second).on workspace = (.ok result, last) ↔
      ∃ value later, first.on workspace = (.ok value, later) ∧
        (second value).on later = (.ok result, last) := by
  rw [on_bind]
  rcases first.on workspace with ⟨error | value, later⟩
  · simp
  · constructor
    · exact fun h => ⟨value, later, rfl, h⟩
    · rintro ⟨_, _, ⟨rfl, rfl⟩, h⟩
      exact h

/-- An action that looks at the disk goes on with it. -/
theorem on_disk_bind (second : Disk → Action β) :
    (disk >>= second).on workspace = (second workspace.disk).on workspace := by
  rw [on_bind, on_disk]

/-- A discarded result leaves the workspace. -/
theorem on_discard (action : Action α) :
    (discard action).on workspace =
      ((action.on workspace).1.map fun _ => (), (action.on workspace).2) := by
  change (action >>= fun _ => pure ()).on workspace = _
  rw [on_bind]
  rcases action.on workspace with ⟨error | value, later⟩ <;> rfl

/-- A step that only computes succeeds where its outcome does. -/
theorem on_ofExcept_bind_ok {result : β} {last : Workspace} :
    (ofExcept outcome >>= second).on workspace = (.ok result, last) ↔
      ∃ value, outcome = .ok value ∧ (second value).on workspace = (.ok result, last) := by
  rw [on_bind, on_ofExcept]
  cases outcome <;> simp

/-- A list of steps succeeds one after the other. -/
theorem on_mapM_cons {item : α} {rest : List α} {value : β}
    {values : List β} {later last : Workspace}
    (hitem : (step item).on workspace = (.ok value, later))
    (hrest : (rest.mapM step).on later = (.ok values, last)) :
    ((item :: rest).mapM step).on workspace = (.ok (value :: values), last) := by
  rw [List.mapM_cons]
  exact on_bind_ok.mpr ⟨value, later, hitem, on_bind_ok.mpr ⟨values, last, hrest, rfl⟩⟩

/-- A change of the disk. -/
theorem on_change_ok {cause : FileFault} {path : Path} {step : Disk → Except PathFault Disk}
    {last : Workspace} :
    (change cause path step).on workspace = (.ok (), last) ↔
      ∃ disk, step workspace.disk = .ok disk ∧ last = { workspace with disk } := by
  rw [change, on_bind_ok]
  simp only [on_disk, Prod.mk.injEq, Except.ok.injEq]
  constructor
  · rintro ⟨_, _, ⟨rfl, rfl⟩, h⟩
    cases hstep : step workspace.disk with
    | ok disk =>
      rw [hstep] at h
      exact ⟨disk, rfl, (congrArg Prod.snd h).symm⟩
    | error fault =>
      rw [hstep] at h
      cases fault <;> cases h
  · rintro ⟨disk, hstep, rfl⟩
    refine ⟨_, _, ⟨rfl, rfl⟩, ?_⟩
    rw [hstep]
    rfl

/-- The disk after a change is the changed one, or the same where the change is impossible. -/
theorem on_change_disk (cause : FileFault) (path : Path) (step : Disk → Except PathFault Disk) :
    ((change cause path step).on workspace).2.disk =
      (step workspace.disk).toOption.getD workspace.disk := by
  rw [change, on_bind, on_disk]
  simp only
  cases step workspace.disk with
  | ok disk => rfl
  | error fault => cases fault <;> rfl

/-- Every result of an action is a good one. -/
def Gives (good : α → Prop) (action : Action α) : Prop :=
  ∀ workspace value later, action.on workspace = (.ok value, later) → good value

theorem Gives.pure {value : α} (h : good value) : Gives good (Pure.pure value) := by
  intro workspace found later hfound
  obtain ⟨hvalue, -⟩ := Prod.mk.inj hfound
  exact Except.ok.inj hvalue ▸ h

theorem Gives.throw (error : Error) : Gives good (throw error) :=
  fun _ _ _ h => nomatch h

theorem Gives.ite {condition : Prop} [Decidable condition]
    {first second : Action α} (hfirst : condition → Gives good first)
    (hsecond : Gives good second) : Gives good (if condition then first else second) := by
  split
  · exact hfirst ‹_›
  · exact hsecond

/-- What the first action gives is passed on to the second. -/
theorem Gives.bind {goodLater : β → Prop} (hfirst : Gives good first)
    (hsecond : ∀ value, good value → Gives goodLater (second value)) :
    Gives goodLater (first >>= second) := by
  intro workspace result last h
  obtain ⟨value, later, hvalue, hresult⟩ := on_bind_ok.mp h
  exact hsecond value (hfirst _ _ _ hvalue) _ _ _ hresult

/-- Whatever the first part gives, the second one gives good results. -/
theorem Gives.bind_any {good : β → Prop}
    (hsecond : ∀ value, Gives good (second value)) : Gives good (first >>= second) :=
  @Gives.bind _ _ _ _ (fun _ => True) good (fun _ _ _ _ => trivial) fun value _ => hsecond value

/-- A loop gives what each step keeps. -/
theorem Gives.foldlM {good : β → Prop} {step : β → α → Action β}
    (h : ∀ item ∈ items, ∀ state, good state → Gives good (step state item)) {state : β}
    (hstate : good state) : Gives good (items.foldlM step state) := by
  induction items generalizing state with
  | nil => exact .pure hstate
  | cons item rest ih =>
    rw [List.forall_mem_cons] at h
    rw [List.foldlM_cons]
    exact .bind (h.1 state hstate) fun later hlater => ih h.2 hlater

/-- A computed outcome gives what it computes. -/
theorem Gives.ofExcept
    (h : ∀ value, outcome = .ok value → good value) : Gives good (ofExcept outcome) := by
  intro workspace value later hvalue
  rw [on_ofExcept] at hvalue
  exact h value (congrArg Prod.fst hvalue)

/-- Whatever the action does to the disk, successful or not, stays within a relation. -/
def Keeps (kept : Disk → Disk → Prop) (action : Action α) : Prop :=
  ∀ workspace, kept workspace.disk (action.on workspace).2.disk

section Keeps

variable {kept : Disk → Disk → Prop}

/-- What is kept closely is kept loosely. -/
theorem Keeps.mono {wider : Disk → Disk → Prop} (h : Keeps kept action)
    (hsub : ∀ before after, kept before after → wider before after) : Keeps wider action :=
  fun workspace => hsub _ _ (h workspace)

theorem Keeps.ite {condition : Prop} [Decidable condition] {first second : Action α}
    (hfirst : Keeps kept first) (hsecond : Keeps kept second) :
    Keeps kept (if condition then first else second) := by
  split
  · exact hfirst
  · exact hsecond

/-- A run relates the disks before and after it. -/
theorem Keeps.of_on {workspace last : Workspace}
    (h : Keeps kept action) (hon : action.on workspace = (outcome, last)) :
    kept workspace.disk last.disk := by
  have hkept := h workspace
  rwa [hon] at hkept

variable [IsPreorder Disk kept]

/-- An action that leaves the disk keeps everything. -/
theorem Keeps.of_disk_eq
    (h : ∀ workspace, (action.on workspace).2.disk = workspace.disk) : Keeps kept action := by
  intro workspace
  rw [h]
  exact refl_of kept _

/-- The second part is known to start from a good result of the first one. -/
theorem Keeps.bind_gives (hfirst : Keeps kept first) (hgood : Gives good first)
    (hsecond : ∀ value, good value → Keeps kept (second value)) :
    Keeps kept (first >>= second) := by
  intro workspace
  rw [on_bind]
  rcases h : first.on workspace with ⟨error | value, later⟩
  · exact hfirst.of_on h
  · exact trans_of kept (hfirst.of_on h) (hsecond value (hgood _ _ _ h) later)

/-- What both actions keep, one after the other keeps. -/
theorem Keeps.bind (hfirst : Keeps kept first)
    (hsecond : ∀ value, Keeps kept (second value)) : Keeps kept (first >>= second) :=
  @Keeps.bind_gives _ _ _ _ (fun _ => True) kept _ hfirst (fun _ _ _ _ => trivial)
    fun value _ => hsecond value

theorem Keeps.ofExcept (outcome : Except Error α) : Keeps kept (ofExcept outcome) :=
  .of_disk_eq fun workspace => by rw [on_ofExcept]

/-- An action that leaves the disk as it is stays within every preorder. -/
theorem Keeps.of_keeps_eq (h : Keeps Eq action) : Keeps kept action :=
  .of_disk_eq fun workspace => (h workspace).symm

/-- A loop keeps what each step keeps. -/
theorem Keeps.foldlM {step : β → α → Action β}
    (h : ∀ item ∈ items, ∀ state, Keeps kept (step state item)) (state : β) :
    Keeps kept (items.foldlM step state) := by
  induction items generalizing state with
  | nil => exact .of_disk_eq fun _ => rfl
  | cons item rest ih =>
    rw [List.forall_mem_cons] at h
    rw [List.foldlM_cons]
    exact .bind (h.1 state) fun later => ih h.2 later

/-- A list of actions keeps what each of them keeps. -/
theorem Keeps.mapM (h : ∀ item ∈ items, Keeps kept (step item)) : Keeps kept (items.mapM step) := by
  induction items with
  | nil => exact .of_disk_eq fun _ => rfl
  | cons item rest ih =>
    rw [List.forall_mem_cons] at h
    rw [List.mapM_cons]
    exact .bind h.1 fun value => .bind (ih h.2) fun values => .of_disk_eq fun _ => rfl

/-- A filter keeps what each of its tests keeps. -/
theorem Keeps.filterM {test : α → Action Bool}
    (h : ∀ item ∈ items, Keeps kept (test item)) : Keeps kept (items.filterM test) := by
  have hfrom : ∀ found, Keeps kept (items.filterAuxM test found) := by
    induction items with
    | nil => exact fun found => .of_disk_eq fun _ => rfl
    | cons item rest ih =>
      intro found
      rw [List.forall_mem_cons] at h
      rw [List.filterAuxM]
      exact .bind h.1 fun _ => ih h.2 _
  exact .bind (hfrom []) fun _ => .of_disk_eq fun _ => rfl

/-- A change of the disk keeps what its step does, and all of the disk if it fails. -/
theorem Keeps.change {cause : FileFault} {path : Path} {step : Disk → Except PathFault Disk}
    (h : ∀ disk after, step disk = .ok after → kept disk after) :
    Keeps kept (change cause path step) := by
  intro workspace
  rw [on_change_disk]
  cases hstep : step workspace.disk with
  | ok after => exact h _ _ hstep
  | error fault => exact refl_of kept _

end Keeps

/-- Two actions do the same on disks that are alike, and leave them alike. -/
def Matches (alike : Disk → Disk → Prop) (first second : Action α) : Prop :=
  ∀ left right : Workspace, alike left.disk right.disk →
    (first.on left).1 = (second.on right).1 ∧
      alike (first.on left).2.disk (second.on right).2.disk

section Matches

variable {alike : Disk → Disk → Prop}

theorem Matches.pure (value : α) : Matches alike (Pure.pure value) (Pure.pure value) :=
  fun _ _ h => ⟨rfl, h⟩

theorem Matches.throw (error : Error) :
    Matches alike (throw error : Action α) (throw error) :=
  fun _ _ h => ⟨rfl, h⟩

/-- The two sides take the same branch. -/
theorem Matches.ite {condition : Prop} [Decidable condition]
    {first first' second second' : Action α} (hfirst : Matches alike first first')
    (hsecond : Matches alike second second') :
    Matches alike (if condition then first else second)
      (if condition then first' else second') := by
  split
  · exact hfirst
  · exact hsecond

theorem Matches.tell (notices : List Notice) : Matches alike (tell notices) (tell notices) :=
  fun _ _ h => ⟨rfl, h⟩

theorem Matches.ofExcept (outcome : Except Error α) :
    Matches alike (ofExcept outcome) (ofExcept outcome) := by
  cases outcome with
  | ok value => exact .pure value
  | error error => exact .throw error

/-- The second parts are known to start from a good result of the first ones. -/
theorem Matches.bind_gives {first first' : Action α}
    {second second' : α → Action β} (hfirst : Matches alike first first') (hgood : Gives good first)
    (hsecond : ∀ value, good value → Matches alike (second value) (second' value)) :
    Matches alike (first >>= second) (first' >>= second') := by
  intro left right h
  obtain ⟨houtcome, hlater⟩ := hfirst left right h
  rw [on_bind, on_bind]
  rcases hl : first.on left with ⟨outcome, later⟩
  rcases hr : first'.on right with ⟨outcome', later'⟩
  rw [hl, hr] at houtcome hlater
  obtain rfl : outcome = outcome' := houtcome
  cases outcome with
  | error error => exact ⟨rfl, hlater⟩
  | ok value => exact hsecond value (hgood _ _ _ hl) later later' hlater

/-- Sides that match are followed by sides that match. -/
theorem Matches.bind {first first' : Action α} {second second' : α → Action β}
    (hfirst : Matches alike first first')
    (hsecond : ∀ value, Matches alike (second value) (second' value)) :
    Matches alike (first >>= second) (first' >>= second') :=
  @Matches.bind_gives _ _ (fun _ => True) alike _ _ _ _ hfirst (fun _ _ _ _ => trivial)
    fun value _ => hsecond value

/-- A step that does not look at the disk. -/
theorem Matches.ofExcept_bind
    (h : ∀ value, outcome = .ok value → Matches alike (second value) (second value)) :
    Matches alike (Action.ofExcept outcome >>= second) (Action.ofExcept outcome >>= second) :=
  .bind_gives (.ofExcept outcome) (.ofExcept fun _ hvalue => hvalue) h

/-- Reading the disk: what follows has to match on all disks that are alike. -/
theorem Matches.disk_bind {second second' : Disk → Action β}
    (h : ∀ left right : Workspace, alike left.disk right.disk →
      ((second left.disk).on left).1 = ((second' right.disk).on right).1 ∧
        alike ((second left.disk).on left).2.disk ((second' right.disk).on right).2.disk) :
    Matches alike (disk >>= second) (disk >>= second') := by
  intro left right hdisk
  rw [on_bind, on_bind, on_disk, on_disk]
  exact h left right hdisk

/-- Two changes fail with one fault, or they lead to disks that are alike. -/
inductive SameOutcome (alike : Disk → Disk → Prop) :
    Except PathFault Disk → Except PathFault Disk → Prop
  | error (fault : PathFault) : SameOutcome alike (.error fault) (.error fault)
  | ok {left right : Disk} (h : alike left right) : SameOutcome alike (.ok left) (.ok right)

/-- A change matches itself where its step has the same outcome on disks that are alike. -/
theorem Matches.change {cause : FileFault} {path : Path} {step : Disk → Except PathFault Disk}
    (h : ∀ left right, alike left right → SameOutcome alike (step left) (step right)) :
    Matches alike (change cause path step) (change cause path step) := by
  refine .disk_bind fun left right hdisk => ?_
  have hsame := h _ _ hdisk
  generalize step left.disk = after, step right.disk = after' at hsame ⊢
  cases hsame with
  | error fault => cases fault <;> exact ⟨rfl, hdisk⟩
  | ok halike => exact ⟨rfl, halike⟩

/-- A list of actions matches itself if each of them does. -/
theorem Matches.mapM (h : ∀ item ∈ items, Matches alike (step item) (step item)) :
    Matches alike (items.mapM step) (items.mapM step) := by
  induction items with
  | nil => exact .pure []
  | cons item rest ih =>
    rw [List.forall_mem_cons] at h
    rw [List.mapM_cons]
    exact .bind h.1 fun value => .bind (ih h.2) fun values => .pure (value :: values)

end Matches

end Scaffold.Action
