import Scaffold.Disk.Basic
import Scaffold.Proofs.Tree

/-!
# Looking up paths in orderly trees

Without links a path leads where its names say. What is found depends on the entries on the way and
on nothing else, so that trees that agree along a path answer alike.
-/

namespace Scaffold

variable {name : String}

/-- The absolute path of a location. -/
def Path.absolute (location : Location) : Path := ⟨.root, location⟩

namespace Tree

variable {tree first second : Tree} {base location : Location} {names : List String}
  {followLast : Bool}

/-- Two trees have the same entries at the locations of a region. -/
def Agree (region : Location → Prop) (first second : Tree) : Prop :=
  ∀ location, region location → first.get? location = second.get? location

/-- The way to a directory, the directory, and what lies directly in it. -/
def Around (directory location : Location) : Prop :=
  location <+: directory ∨ ∃ name, location = directory ++ [name]

theorem around_of_above_child {directory : Location}
    (h : location <+: directory ++ [name]) : Around directory location := by
  rcases List.prefix_concat_iff.mp h with heq | habove
  · exact Or.inr ⟨name, heq⟩
  · exact Or.inl habove

theorem allows_congr {right : Right} (h : first.get? location = second.get? location) :
    first.allows right location = second.allows right location := by
  simp only [allows, h]

theorem isAlterable_congr (h : first.get? location = second.get? location) :
    first.isAlterable location = second.isAlterable location := by
  simp only [isAlterable, allows_congr h]

/-- One step of a descent along a name that stands for an entry. -/
theorem descend_cons {rest : List String} (hname : IsName name) :
    tree.descend followLast base (name :: rest) =
      if tree.allows .pass base then
        match tree.get? (base ++ [name]) with
        | none => .ended (vacancy base name rest)
        | some (.directory _) => tree.descend followLast (base ++ [name]) rest
        | some (.file content mode) =>
          .ended (if rest.isEmpty then .ok (.taken (base ++ [name]) (.file content mode))
            else .error .notDirectory)
        | some (.link target) =>
          if rest.isEmpty && !followLast then .ended (.ok (.taken (base ++ [name]) (.link target)))
          else .detour base target rest
      else .ended (.error .denied) := by
  obtain ⟨hempty, hdot, hdots⟩ := hname
  rw [descend, if_neg (by simpa using hempty)]
  cases tree.allows .pass base with
  | false => rfl
  | true =>
    rw [if_neg (by simp), if_neg (by simpa using hdots), if_neg (by simpa using hdot)]
    rfl

/-- A descent depends on the entries on its way. -/
theorem descend_congr (h : ∀ count, first.get? (base ++ names.take count) =
    second.get? (base ++ names.take count)) (hnames : ∀ name ∈ names, IsName name) :
    first.descend followLast base names = second.descend followLast base names := by
  induction names generalizing base with
  | nil =>
    have hbase : first.get? base = second.get? base := by simpa using h 0
    simp only [descend, hbase]
  | cons name rest ih =>
    have hbase : first.get? base = second.get? base := by simpa using h 0
    have hnext : first.get? (base ++ [name]) = second.get? (base ++ [name]) := by simpa using h 1
    obtain ⟨hname, hothers⟩ := List.forall_mem_cons.mp hnames
    have hrest := @ih (base ++ [name]) (fun count => by simpa using h (count + 1)) hothers
    rw [descend_cons hname, descend_cons hname, allows_congr hbase, hnext, hrest]

/-- A descent along names either ends at what they spell, or shows why it cannot. -/
theorem descend_cases (h : tree.IsOrderly) (hnames : ∀ name ∈ names, IsName name)
    (hbase : (tree.get? base).isSome = true) :
    (∃ node, tree.descend followLast base names = .ended (.ok (.taken (base ++ names) node)) ∧
      tree.get? (base ++ names) = some node) ∨
    (tree.descend followLast base names = .ended (.ok (.vacant (base ++ names))) ∧
      tree.get? (base ++ names) = none) ∨
    ∃ fault, tree.descend followLast base names = .ended (.error fault) := by
  induction names generalizing base with
  | nil =>
    obtain ⟨node, hnode⟩ := Option.isSome_iff_exists.mp hbase
    exact Or.inl ⟨node, by simp [descend, hnode], by simpa using hnode⟩
  | cons name rest ih =>
    obtain ⟨hname, hrest⟩ := List.forall_mem_cons.mp hnames
    rw [descend_cons hname]
    cases ha : tree.allows .pass base with
    | false => exact Or.inr (Or.inr ⟨_, rfl⟩)
    | true =>
      cases hn : tree.get? (base ++ [name]) with
      | none =>
        simp only [if_true, vacancy]
        split_ifs with hlong hlast
        · exact Or.inr (Or.inr ⟨_, rfl⟩)
        · obtain rfl := List.isEmpty_iff.mp hlast
          exact Or.inr (Or.inl ⟨rfl, hn⟩)
        · exact Or.inr (Or.inr ⟨_, rfl⟩)
      | some node =>
        cases node with
        | directory mode => simpa using @ih (base ++ [name]) hrest (by simp [hn])
        | file content mode =>
          simp only [if_true]
          split_ifs with hlast
          · obtain rfl := List.isEmpty_iff.mp hlast
            exact Or.inl ⟨_, rfl, hn⟩
          · exact Or.inr (Or.inr ⟨_, rfl⟩)
        | link target => exact absurd hn (h.linkFree _ target)

/-- A descent does not mind what its names are made of. -/
theorem descend_ne_unspeakable (hnames : ∀ name ∈ names, IsName name) :
    tree.descend followLast base names ≠ .ended (.error .unspeakable) := by
  induction names generalizing base with
  | nil => simp [descend]
  | cons name rest ih =>
    obtain ⟨hname, hothers⟩ := List.forall_mem_cons.mp hnames
    have hrest := @ih (base ++ [name]) hothers
    rw [descend_cons hname]
    cases tree.allows .pass base with
    | false => simp
    | true =>
      simp only [if_true]
      split
      · simp only [vacancy]
        split_ifs <;> simp
      · exact hrest
      · split_ifs <;> simp
      · split_ifs <;> simp

/-- Without links it does not matter whether one at the end would be followed. -/
theorem descend_followLast (h : tree.IsOrderly) (hnames : ∀ name ∈ names, IsName name) :
    tree.descend false base names = tree.descend true base names := by
  induction names generalizing base with
  | nil => rfl
  | cons name rest ih =>
    obtain ⟨hname, hrest⟩ := List.forall_mem_cons.mp hnames
    rw [descend_cons hname, descend_cons hname, ih hrest]
    cases hn : tree.get? (base ++ [name]) with
    | none => rfl
    | some node =>
      cases node with
      | directory mode => rfl
      | file content mode => rfl
      | link target => exact absurd hn (h.linkFree _ target)

/-- A descent without detours is all there is to follow. -/
theorem follow_eq {links : Nat} {place : Except PathFault Place}
    (h : tree.descend followLast base names = .ended place) :
    tree.follow followLast links base names = place := by
  rw [follow, h]

/-- A descent goes on from a directory that it has reached. -/
theorem descend_append {more : List String} {mode : Nat} (hnames : ∀ name ∈ names, IsName name)
    (h : tree.descend followLast base names = .ended (.ok (.taken location (.directory mode)))) :
    tree.descend followLast base (names ++ more) = tree.descend followLast location more := by
  induction names generalizing base with
  | nil =>
    simp only [descend, Descent.ended.injEq, Except.ok.injEq, Place.taken.injEq] at h
    rw [List.nil_append, h.1]
  | cons name rest ih =>
    obtain ⟨hname, hrest⟩ := List.forall_mem_cons.mp hnames
    rw [descend_cons hname] at h
    rw [List.cons_append, descend_cons hname]
    cases ha : tree.allows .pass base with
    | false => simp [ha] at h
    | true =>
      cases hn : tree.get? (base ++ [name]) with
      | none =>
        simp only [ha, hn, vacancy, if_true] at h
        split_ifs at h <;> simp at h
      | some node =>
        simp only [ha, hn, if_true] at h
        cases node with
        | directory mode => exact ih hrest h
        | file content mode =>
          simp only at h
          split_ifs at h <;> simp at h
        | link target =>
          simp only at h
          split_ifs at h
          simp at h

/-- A descent that reaches a place has passed through the directory of that place. -/
theorem descend_dropLast {place : Place} {mode : Nat}
    (hnames : ∀ other ∈ names, IsName other) (hname : IsName name)
    (hbase : tree.get? base = some (.directory mode))
    (h : tree.descend followLast base (names ++ [name]) = .ended (.ok place)) :
    (∃ mode, tree.descend followLast base names =
        .ended (.ok (.taken (base ++ names) (.directory mode)))) ∧
      tree.allows .pass (base ++ names) = true := by
  induction names generalizing base mode with
  | nil =>
    rw [List.nil_append, descend_cons hname] at h
    rw [List.append_nil]
    cases ha : tree.allows .pass base with
    | false => simp [ha] at h
    | true => exact ⟨⟨mode, by simp [descend, hbase]⟩, rfl⟩
  | cons first rest ih =>
    obtain ⟨hfirst, hrest⟩ := List.forall_mem_cons.mp hnames
    rw [List.cons_append, descend_cons hfirst] at h
    rw [descend_cons hfirst]
    cases ha : tree.allows .pass base with
    | false => simp [ha] at h
    | true =>
      cases hn : tree.get? (base ++ [first]) with
      | none =>
        simp only [ha, hn, vacancy, if_true] at h
        split_ifs at h with hlong hlast
        · cases h
        · simp at hlast
        · cases h
      | some node =>
        simp only [ha, hn, if_true] at h
        cases node with
        | directory mode => simpa using ih hrest hn h
        | file content mode => simp at h
        | link target => simp at h

/-- One step of reading names: two dots lead up. -/
def stepName (location : Location) (name : String) : Location :=
  if name == ".." then location.dropLast else location ++ [name]

/-- Without links a walk follows the names. -/
theorem walk_eq {through : List Location → Location → List String → Except Location Location}
    {pending : List Location} (h : ∀ location target, tree.get? location ≠ some (.link target)) :
    tree.walk through pending base names = .ok (names.foldl stepName base) := by
  induction names generalizing base with
  | nil => rfl
  | cons name rest ih =>
    rw [walk, List.foldl_cons]
    by_cases hdots : (name == "..") = true
    · simp only [hdots, if_true, stepName]
      exact ih
    · simp only [hdots, Bool.false_eq_true, if_false, stepName]
      split
      · next target hlink =>
        split_ifs at hlink
        exact absurd hlink (h _ target)
      · exact ih

theorem resolve_eq (h : ∀ location target, tree.get? location ≠ some (.link target)) :
    tree.resolve base names = .ok (names.foldl stepName base) := by
  rw [resolve, walkLinks, walk_eq h]

/-- Names that stand for entries are appended one by one. -/
theorem foldl_stepName (hnames : ∀ name ∈ names, IsName name) :
    names.foldl stepName base = base ++ names := by
  induction names generalizing base with
  | nil => simp
  | cons name rest ih =>
    obtain ⟨hname, hrest⟩ := List.forall_mem_cons.mp hnames
    have hdots : (name == "..") = false := beq_eq_false_iff_ne.mpr hname.2.2
    rw [List.foldl_cons, ih hrest]
    simp [stepName, hdots]

end Tree

namespace Disk

open Tree

variable {disk first second : Disk} {directory location : Location}

/-- Without links a lookup is one descent from the root. -/
theorem find_absolute (h : disk.tree.IsOrderly) (hnames : ∀ name ∈ location, IsName name) :
    ∃ place, disk.tree.descend true [] location = .ended place ∧
      disk.find (.absolute location) = asked (.absolute location) place := by
  obtain ⟨node, hplace, -⟩ | ⟨hplace, -⟩ | ⟨fault, hplace⟩ :=
    @descend_cases disk.tree [] location true h hnames rfl
  all_goals exact ⟨_, hplace, congrArg (asked _) (follow_eq hplace)⟩

/-- Whether a link at the end is followed does not matter where there is none. -/
theorem findEntry_absolute (h : disk.tree.IsOrderly) (hnames : ∀ name ∈ location, IsName name) :
    disk.findEntry (.absolute location) = disk.find (.absolute location) := by
  obtain ⟨place, hplace, hfind⟩ := find_absolute h hnames
  rw [hfind]
  exact congrArg (asked _) (follow_eq ((descend_followLast h hnames).trans hplace))

theorem asked_eq_taken {path : Path} {outcome : Except PathFault Place} {node : Node} :
    asked path outcome = .ok (.taken location node) ↔ outcome = .ok (.taken location node) := by
  constructor
  · intro h
    unfold asked at h
    split at h
    · exact h
    · split_ifs at h
      exact h
  · rintro rfl
    rfl

/-- A lookup finds the entry at the location, or that there is none, or a fault. -/
theorem find_cases (h : disk.tree.IsOrderly) (hnames : ∀ name ∈ location, IsName name) :
    (∃ node, disk.find (.absolute location) = .ok (.taken location node) ∧
      disk.tree.get? location = some node) ∨
    (disk.find (.absolute location) = .ok (.vacant location) ∧
      disk.tree.get? location = none) ∨
    ∃ fault, disk.find (.absolute location) = .error fault := by
  obtain ⟨place, hplace, hfind⟩ := find_absolute h hnames
  rw [hfind]
  obtain ⟨node, hnode, hget⟩ | ⟨hvacant, hget⟩ | ⟨fault, hfault⟩ :=
    @descend_cases disk.tree [] location true h hnames rfl
  · obtain rfl := Descent.ended.inj (hplace.symm.trans hnode)
    exact Or.inl ⟨node, rfl, hget⟩
  · obtain rfl := Descent.ended.inj (hplace.symm.trans hvacant)
    simp only [asked]
    split_ifs
    · exact Or.inr (Or.inr ⟨_, rfl⟩)
    · exact Or.inr (Or.inl ⟨rfl, hget⟩)
  · obtain rfl := Descent.ended.inj (hplace.symm.trans hfault)
    simp only [asked]
    split_ifs <;> exact Or.inr (Or.inr ⟨_, rfl⟩)

/-- Every name of the location can be asked for. -/
def Speakable (location : Location) : Prop := ∀ name ∈ location, '\x00' ∉ name.toList

theorem any_contains_eq_false (h : Speakable location) :
    (location.any fun part => part.toList.contains '\x00') = false := by
  simpa [Speakable] using h

theorem find_ne_unspeakable (h : disk.tree.IsOrderly) (hnames : ∀ name ∈ location, IsName name)
    (hspeakable : Speakable location) :
    disk.find (.absolute location) ≠ .error .unspeakable := by
  obtain ⟨place, hplace, hfind⟩ := find_absolute h hnames
  have hne := @descend_ne_unspeakable disk.tree [] location true hnames
  rw [hfind]
  unfold asked
  split
  · simp
  · have hparts : ((Path.absolute location).parts.any fun part =>
        part.toList.contains '\x00') = false := any_contains_eq_false hspeakable
    rw [hparts, if_neg Bool.false_ne_true]
    rintro rfl
    exact hne hplace

/-- Lookups answer alike in trees that agree along the way. -/
theorem find_congr (hf : first.tree.IsOrderly) (hs : second.tree.IsOrderly)
    (hnames : ∀ name ∈ location, IsName name)
    (h : ∀ count, first.tree.get? (location.take count) = second.tree.get? (location.take count)) :
    first.find (.absolute location) = second.find (.absolute location) := by
  obtain ⟨place, hplace, hfind⟩ := find_absolute hf hnames
  obtain ⟨other, hother, hfind'⟩ := find_absolute hs hnames
  have hsame := @descend_congr first.tree second.tree [] location true (by simpa using h) hnames
  obtain rfl := Descent.ended.inj (hplace.symm.trans (hsame.trans hother))
  rw [hfind, hfind']

/-- So do readings of files. -/
theorem fileContent_congr (hf : first.tree.IsOrderly) (hs : second.tree.IsOrderly)
    (hnames : ∀ name ∈ location, IsName name)
    (h : ∀ above, above <+: location → first.tree.get? above = second.tree.get? above) :
    first.fileContent (.absolute location) = second.fileContent (.absolute location) := by
  have hread : first.tree.allows .read location = second.tree.allows .read location :=
    allows_congr (h location (List.prefix_refl _))
  unfold fileContent
  rw [← find_congr hf hs hnames fun count => h _ (List.take_prefix count location)]
  obtain ⟨node, hnode, -⟩ | ⟨hvacant, -⟩ | ⟨fault, hfault⟩ := find_cases hf hnames
  · rw [hnode]
    cases node with
    | file content mode => simp only [hread]
    | directory mode => rfl
    | link target => rfl
  · rw [hvacant]
  · rw [hfault]

/-- A path leads to no directory but the one at its own location. -/
theorem eq_of_directory? (h : disk.tree.IsOrderly) (hnames : ∀ name ∈ location, IsName name)
    (hfound : disk.directory? (.absolute location) = some directory) : directory = location := by
  unfold directory? at hfound
  obtain ⟨node, hnode, -⟩ | ⟨hvacant, -⟩ | ⟨fault, hfault⟩ := find_cases h hnames
  · rw [hnode] at hfound
    cases node <;> simp_all
  · simp [hvacant] at hfound
  · simp [hfault] at hfound

theorem directory?_absolute (h : disk.tree.IsOrderly) (hnames : ∀ name ∈ location, IsName name) :
    disk.directory? (.absolute location) = some location ↔
      ∃ mode, disk.find (.absolute location) = .ok (.taken location (.directory mode)) := by
  unfold directory?
  obtain ⟨node, hnode, -⟩ | ⟨hvacant, -⟩ | ⟨fault, hfault⟩ := find_cases h hnames
  · rw [hnode]
    cases node <;> simp
  · simp [hvacant]
  · simp [hfault]

/-- What lies in a directory that may be passed through is found there. -/
theorem find_child (h : disk.tree.IsOrderly) (hdirectory : ∀ name ∈ directory, IsName name)
    {mode : Nat}
    (hfind : disk.find (.absolute directory) = .ok (.taken directory (.directory mode)))
    (hpass : disk.tree.allows .pass directory = true) (hname : IsName name)
    {node : Node} (hnode : disk.tree.get? (directory ++ [name]) = some node) :
    disk.find (.absolute (directory ++ [name])) = .ok (.taken (directory ++ [name]) node) := by
  have hnames : ∀ other ∈ directory ++ [name], IsName other := by
    intro other hother
    rcases List.mem_append.mp hother with hother | hother
    · exact hdirectory other hother
    · rwa [List.mem_singleton.mp hother]
  obtain ⟨place, hplace, hfound⟩ := find_absolute h hdirectory
  rw [hfound, asked_eq_taken] at hfind
  rw [hfind] at hplace
  obtain ⟨place', hplace', hfound'⟩ := find_absolute h hnames
  rw [descend_append hdirectory hplace, descend_cons hname, hpass, hnode] at hplace'
  rw [hfound']
  cases node with
  | directory mode =>
    simp only [if_true, descend, hnode, Option.getD_some, Descent.ended.injEq] at hplace'
    rw [← hplace']
    rfl
  | file content mode =>
    simp only [if_true, List.isEmpty_nil, Descent.ended.injEq] at hplace'
    rw [← hplace']
    rfl
  | link target => exact absurd hnode (h.linkFree _ target)

/-- Without links and dots a path resolves to itself. -/
theorem resolve_absolute (h : disk.tree.IsOrderly) (hnames : ∀ name ∈ location, IsName name) :
    disk.resolve (.absolute location) =
      if location.any fun part => part.toList.contains '\x00' then .error .unspeakable
      else .ok (.absolute location) := by
  simp only [resolve, start, Path.absolute, Path.isAbsolute, resolve_eq h.linkFree,
    foldl_stepName hnames]
  rfl

end Disk

end Scaffold
