import Scaffold.Proofs.Lookup

/-!
# Paths through links

A path that leads to a directory passes through directories and links only. So it can be gone on
from there, and it still leads there when files, or links to files, are taken away.
-/

namespace Scaffold

namespace Tree

/-- A directory that may be passed through and is none of those to avoid. -/
def IsPassable (tree : Tree) (avoid : Location → Prop) (base : Location) : Prop :=
  tree.allows .pass base = true ∧ ¬ avoid base

/-- Names lead from a directory to a location, through at most a number of links and past no entry
that is to be avoided. -/
inductive LeadsTo (tree : Tree) (avoid : Location → Prop) :
    Nat → Location → List String → Location → Prop where
  | here (links : Nat) (location : Location) : LeadsTo tree avoid links location [] location
  /-- An empty name leads nowhere else. -/
  | skip {links : Nat} {base location : Location} {names : List String}
      (hrest : LeadsTo tree avoid links base names location) :
      LeadsTo tree avoid links base ("" :: names) location
  | stay {links : Nat} {base location : Location} {names : List String}
      (hbase : tree.IsPassable avoid base)
      (hrest : LeadsTo tree avoid links base names location) :
      LeadsTo tree avoid links base ("." :: names) location
  | up {links : Nat} {base location : Location} {names : List String}
      (hbase : tree.IsPassable avoid base)
      (hrest : LeadsTo tree avoid links base.dropLast names location) :
      LeadsTo tree avoid links base (".." :: names) location
  | down {links mode : Nat} {base location : Location} {name : String} {names : List String}
      (hbase : tree.IsPassable avoid base) (hname : IsName name) (hnext : ¬ avoid (base ++ [name]))
      (hget : tree.get? (base ++ [name]) = some (.directory mode))
      (hrest : LeadsTo tree avoid links (base ++ [name]) names location) :
      LeadsTo tree avoid links base (name :: names) location
  | through {links : Nat} {base location : Location} {name target : String} {names : List String}
      (hbase : tree.IsPassable avoid base) (hname : IsName name) (hnext : ¬ avoid (base ++ [name]))
      (hget : tree.get? (base ++ [name]) = some (.link target))
      (hrest : LeadsTo tree avoid links (targetStart base target)
        (targetNames target ++ names) location) :
      LeadsTo tree avoid (links + 1) base (name :: names) location

variable {tree first second : Tree} {avoid : Location → Prop} {followLast : Bool} {links : Nat}
  {base location : Location} {names rest more : List String} {name : String}

/-! ### Following names step by step -/

theorem follow_nil :
    tree.follow followLast links base [] =
      .ok (.taken base ((tree.get? base).getD .plainDirectory)) := by
  rw [follow, descend]

theorem follow_empty :
    tree.follow followLast links base ("" :: rest) = tree.follow followLast links base rest := by
  rw [follow, follow, descend, if_pos (by rfl)]

theorem follow_dot (hpass : tree.allows .pass base = true) :
    tree.follow followLast links base ("." :: rest) = tree.follow followLast links base rest := by
  rw [follow, follow, descend]
  simp [hpass]

theorem follow_dots (hpass : tree.allows .pass base = true) :
    tree.follow followLast links base (".." :: rest) =
      tree.follow followLast links base.dropLast rest := by
  rw [follow, follow, descend]
  simp [hpass]

/-- A name of a directory leads on from there. -/
theorem follow_directory {mode : Nat} (hpass : tree.allows .pass base = true)
    (hname : IsName name) (hget : tree.get? (base ++ [name]) = some (.directory mode)) :
    tree.follow followLast links base (name :: rest) =
      tree.follow followLast links (base ++ [name]) rest := by
  rw [follow, follow, descend_cons hname, if_pos hpass, hget]

/-- A link leads on from its target, at the price of one link. -/
theorem follow_link {target : String} (hpass : tree.allows .pass base = true)
    (hname : IsName name) (hget : tree.get? (base ++ [name]) = some (.link target))
    (hmore : followLast = true ∨ rest ≠ []) :
    tree.follow followLast (links + 1) base (name :: rest) =
      tree.follow followLast links (targetStart base target) (targetNames target ++ rest) := by
  have hon : (rest.isEmpty && !followLast) = false := by
    rcases hmore with rfl | hne
    · simp
    · simp [hne]
  rw [follow, descend_cons hname, if_pos hpass, hget]
  simp only [hon, Bool.false_eq_true, if_false]

theorem follow_denied (hname : IsName name) (hpass : tree.allows .pass base = false) :
    tree.follow followLast links base (name :: rest) = .error .denied := by
  rw [follow, descend_cons hname, hpass]
  rfl

/-- A file ends the way, and is an error before the end. -/
theorem follow_file {content : ByteArray} {mode : Nat} (hpass : tree.allows .pass base = true)
    (hname : IsName name) (hget : tree.get? (base ++ [name]) = some (.file content mode)) :
    tree.follow followLast links base (name :: rest) =
      if rest.isEmpty then .ok (.taken (base ++ [name]) (.file content mode))
      else .error .notDirectory := by
  rw [follow, descend_cons hname, if_pos hpass, hget]

/-- A name of nothing leads nowhere. -/
theorem follow_vacant (hpass : tree.allows .pass base = true) (hname : IsName name)
    (hget : tree.get? (base ++ [name]) = none) (place : Location) (node : Node) :
    tree.follow followLast links base (name :: rest) ≠ .ok (.taken place node) := by
  rw [follow, descend_cons hname, if_pos hpass, hget]
  simp only [vacancy]
  split_ifs <;> simp

/-- An entry is found by its name, unless it is a link that is followed. -/
theorem follow_entry {node : Node} (hpass : tree.allows .pass base = true) (hname : IsName name)
    (hget : tree.get? (base ++ [name]) = some node)
    (hnode : followLast = false ∨ ∀ target, node ≠ .link target) :
    tree.follow followLast links base [name] = .ok (.taken (base ++ [name]) node) := by
  cases node with
  | directory mode => rw [follow_directory hpass hname hget, follow_nil, hget, Option.getD_some]
  | file content mode => rw [follow_file hpass hname hget, List.isEmpty_nil, if_pos rfl]
  | link target =>
    have hlast : followLast = false := hnode.resolve_right fun hno => hno target rfl
    rw [follow, descend_cons hname, if_pos hpass, hget, hlast]
    rfl

/-! ### Names that lead to a directory -/

/-- Whatever is followed to a directory leads there. -/
theorem leadsTo_of_follow {mode : Nat}
    (h : tree.follow true links base names = .ok (.taken location (.directory mode))) :
    tree.LeadsTo (fun _ => False) links base names location := by
  induction links using Nat.strong_induction_on generalizing base names with
  | _ links ihLinks =>
  induction names generalizing base with
  | nil =>
    rw [follow_nil] at h
    simp only [Except.ok.injEq, Place.taken.injEq] at h
    rw [h.1]
    exact .here links location
  | cons name rest ih =>
    by_cases hempty : name = ""
    · subst hempty
      exact .skip (ih (follow_empty ▸ h))
    cases hpass : tree.allows .pass base with
    | false =>
      rw [follow, descend, if_neg (by simpa using hempty), hpass] at h
      cases h
    | true =>
      have hbase : tree.IsPassable (fun _ => False) base := ⟨hpass, not_false⟩
      by_cases hdots : name = ".."
      · subst hdots
        exact .up hbase (ih (follow_dots hpass ▸ h))
      by_cases hdot : name = "."
      · subst hdot
        exact .stay hbase (ih (follow_dot hpass ▸ h))
      have hname : IsName name := ⟨hempty, hdot, hdots⟩
      cases hget : tree.get? (base ++ [name]) with
      | none => exact absurd h (follow_vacant hpass hname hget _ _)
      | some node =>
        cases node with
        | directory mode =>
          exact .down hbase hname not_false hget (ih (follow_directory hpass hname hget ▸ h))
        | file content mode =>
          rw [follow_file hpass hname hget] at h
          split_ifs at h
          cases h
        | link target =>
          cases links with
          | zero =>
            rw [follow, descend_cons hname, if_pos hpass, hget] at h
            simp at h
          | succ links =>
            rw [follow_link hpass hname hget (Or.inl rfl)] at h
            exact .through hbase hname not_false hget (ihLinks links (Nat.lt_succ_self links) h)

/-- Names that lead to a location can be gone on from there. -/
theorem LeadsTo.follow_append (h : tree.LeadsTo avoid links base names location)
    (hmore : followLast = true ∨ more ≠ []) :
    ∃ left, tree.follow followLast links base (names ++ more) =
      tree.follow followLast left location more := by
  induction h with
  | here links location => exact ⟨links, rfl⟩
  | skip hrest ih =>
    rw [List.cons_append, follow_empty]
    exact ih
  | stay hbase hrest ih =>
    rw [List.cons_append, follow_dot hbase.1]
    exact ih
  | up hbase hrest ih =>
    rw [List.cons_append, follow_dots hbase.1]
    exact ih
  | down hbase hname hnext hget hrest ih =>
    rw [List.cons_append, follow_directory hbase.1 hname hget]
    exact ih
  | through hbase hname hnext hget hrest ih =>
    rw [List.cons_append, follow_link hbase.1 hname hget (hmore.imp_right (by simp_all)),
      ← List.append_assoc]
    exact ih

/-- Where names lead, following them ends. -/
theorem LeadsTo.follow_eq (h : tree.LeadsTo avoid links base names location) :
    tree.follow true links base names =
      .ok (.taken location ((tree.get? location).getD .plainDirectory)) := by
  have hfollow : ∃ left, tree.follow true links base (names ++ []) =
      tree.follow true left location [] := h.follow_append (Or.inl rfl)
  obtain ⟨left, hfollow⟩ := hfollow
  rw [← List.append_nil names, hfollow, follow_nil]

/-- Where names lead depends on the entries that are not to be avoided. -/
theorem LeadsTo.congr (h : first.LeadsTo avoid links base names location)
    (hsame : ∀ other, ¬ avoid other → second.get? other = first.get? other) :
    second.LeadsTo avoid links base names location := by
  have hpassable : ∀ {base}, first.IsPassable avoid base → second.IsPassable avoid base :=
    fun hbase => ⟨(allows_congr (hsame _ hbase.2)).trans hbase.1, hbase.2⟩
  induction h with
  | here links location => exact .here links location
  | skip hrest ih => exact .skip ih
  | stay hbase hrest ih => exact .stay (hpassable hbase) ih
  | up hbase hrest ih => exact .up (hpassable hbase) ih
  | down hbase hname hnext hget hrest ih =>
    exact .down (hpassable hbase) hname hnext ((hsame _ hnext).trans hget) ih
  | through hbase hname hnext hget hrest ih =>
    exact .through (hpassable hbase) hname hnext ((hsame _ hnext).trans hget) ih

/-! ### Names that lead past files -/

/-- A tree with one entry a location, names that stand for entries, and every entry in a
directory. -/
structure IsSound (tree : Tree) : Prop where
  isMap : tree.IsMap
  isName : ∀ {location node}, tree.get? location = some node → ∀ name ∈ location, IsName name
  closed : ∀ {location node}, tree.get? location = some node → location ≠ [] →
    ∃ mode, tree.get? location.dropLast = some (.directory mode)

theorem IsPlain.isSound (h : tree.IsPlain) : tree.IsSound :=
  ⟨h.isMap, h.isName, h.closed⟩

/-- A directory stands at a location. -/
def HoldsDirectory (tree : Tree) (location : Location) : Prop :=
  ∃ mode, tree.get? location = some (.directory mode)

theorem IsSound.holdsDirectory_dropLast (h : tree.IsSound) (hbase : tree.HoldsDirectory base) :
    tree.HoldsDirectory base.dropLast := by
  obtain ⟨mode, hget⟩ := hbase
  by_cases hnil : base = []
  · rw [hnil]
    exact ⟨_, get?_nil tree⟩
  · exact h.closed hget hnil

theorem holdsDirectory_targetStart (hbase : tree.HoldsDirectory base) (target : String) :
    tree.HoldsDirectory (targetStart base target) := by
  unfold targetStart
  split_ifs
  · exact ⟨_, get?_nil tree⟩
  · exact hbase

/-- Names lead from a directory to a directory. -/
theorem LeadsTo.holdsDirectory (h : tree.LeadsTo avoid links base names location)
    (hsound : tree.IsSound) (hbase : tree.HoldsDirectory base) : tree.HoldsDirectory location := by
  induction h with
  | here links location => exact hbase
  | skip hrest ih => exact ih hbase
  | stay hpass hrest ih => exact ih hbase
  | up hpass hrest ih => exact ih (hsound.holdsDirectory_dropLast hbase)
  | down hpass hname hnext hget hrest ih => exact ih ⟨_, hget⟩
  | through hpass hname hnext hget hrest ih => exact ih (holdsDirectory_targetStart hbase _)

/-- Names that lead to a location do not lead to a file on their way. -/
theorem LeadsTo.follow_ne_file (h : tree.LeadsTo avoid links base (names ++ rest) location)
    (hsound : tree.IsSound) (hbase : tree.HoldsDirectory base) (left : Nat) (place : Location)
    (content : ByteArray) (mode : Nat) :
    tree.follow true left base names ≠ .ok (.taken place (.file content mode)) := by
  have hnil : ∀ {left base}, tree.HoldsDirectory base →
      tree.follow true left base [] ≠ .ok (.taken place (.file content mode)) := by
    rintro left base ⟨mode, hget⟩
    simp [follow_nil, hget]
  generalize hall : names ++ rest = all at h
  induction h generalizing names left with
  | here links location =>
    obtain ⟨rfl, -⟩ := List.append_eq_nil_iff.mp hall
    exact hnil hbase
  | skip hrest ih =>
    obtain ⟨rfl, -⟩ | ⟨others, rfl, rfl⟩ := List.append_eq_cons_iff.mp hall
    · exact hnil hbase
    · rw [follow_empty]
      exact ih hbase left rfl
  | stay hpass hrest ih =>
    obtain ⟨rfl, -⟩ | ⟨others, rfl, rfl⟩ := List.append_eq_cons_iff.mp hall
    · exact hnil hbase
    · rw [follow_dot hpass.1]
      exact ih hbase left rfl
  | up hpass hrest ih =>
    obtain ⟨rfl, -⟩ | ⟨others, rfl, rfl⟩ := List.append_eq_cons_iff.mp hall
    · exact hnil hbase
    · rw [follow_dots hpass.1]
      exact ih (hsound.holdsDirectory_dropLast hbase) left rfl
  | down hpass hname hnext hget hrest ih =>
    obtain ⟨rfl, -⟩ | ⟨others, rfl, rfl⟩ := List.append_eq_cons_iff.mp hall
    · exact hnil hbase
    · rw [follow_directory hpass.1 hname hget]
      exact ih ⟨_, hget⟩ left rfl
  | through hpass hname hnext hget hrest ih =>
    obtain ⟨rfl, -⟩ | ⟨others, rfl, rfl⟩ := List.append_eq_cons_iff.mp hall
    · exact hnil hbase
    · cases left with
      | zero =>
        rw [follow, descend_cons hname, if_pos hpass.1, hget]
        simp
      | succ left =>
        rw [follow_link hpass.1 hname hget (Or.inl rfl)]
        exact ih (holdsDirectory_targetStart hbase _) left (List.append_assoc _ _ _)

/-- So they lead past all files and links to files, which would lead to a file first. -/
theorem LeadsTo.avoiding (h : tree.LeadsTo (fun _ => False) links base names location)
    (hsound : tree.IsSound) (hbase : tree.HoldsDirectory base)
    (havoid : ∀ other, avoid other → ∃ top name left place content mode, other = top ++ [name] ∧
      IsName name ∧ tree.follow true left top [name] = .ok (.taken place (.file content mode))) :
    tree.LeadsTo avoid links base names location := by
  have hentry : ∀ {links base name names location}, tree.HoldsDirectory base →
      tree.LeadsTo (fun _ => False) links base (name :: names) location →
      ¬ avoid (base ++ [name]) := by
    intro links base name names location hbase hleads hmem
    obtain ⟨top, other, left, place, content, mode, heq, -, hfile⟩ := havoid _ hmem
    obtain ⟨rfl, heq⟩ := List.append_inj' heq rfl
    obtain rfl : name = other := by simpa using heq
    have hon : tree.LeadsTo _ links base ([name] ++ names) location := hleads
    exact hon.follow_ne_file hsound hbase left place content mode hfile
  have hpassable : ∀ {base}, tree.HoldsDirectory base → tree.IsPassable (fun _ => False) base →
      tree.IsPassable avoid base := by
    rintro base ⟨mode, hget⟩ ⟨hpass, -⟩
    refine ⟨hpass, fun hmem => ?_⟩
    obtain ⟨top, name, left, place, content, mode, rfl, hname, hfile⟩ := havoid _ hmem
    cases htop : tree.allows .pass top with
    | false => simp [follow_denied hname htop] at hfile
    | true => simp [follow_directory htop hname hget, follow_nil, hget] at hfile
  induction h with
  | here links location => exact .here links location
  | skip hrest ih => exact .skip (ih hbase)
  | stay hpass hrest ih => exact .stay (hpassable hbase hpass) (ih hbase)
  | up hpass hrest ih =>
    exact .up (hpassable hbase hpass) (ih (hsound.holdsDirectory_dropLast hbase))
  | down hpass hname hnext hget hrest ih =>
    exact .down (hpassable hbase hpass) hname (hentry hbase (.down hpass hname hnext hget hrest))
      hget (ih ⟨_, hget⟩)
  | through hpass hname hnext hget hrest ih =>
    exact .through (hpassable hbase hpass) hname
      (hentry hbase (.through hpass hname hnext hget hrest)) hget
      (ih (holdsDirectory_targetStart hbase _))

end Tree

end Scaffold
