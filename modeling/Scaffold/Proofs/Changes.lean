import Scaffold.Proofs.Action
import Scaffold.Proofs.Lookup

/-!
# Changing files in one directory

A directory that a path leads to and that may be passed through is entered. In it files are removed
and put in place by name, and such a change depends on the way to the directory and on what lies
directly in it. A region bounds where two disks differ.
-/

namespace Scaffold

namespace Path

variable {directory : Location} {name : String}

@[simp] theorem name_absolute : (absolute (directory ++ [name])).name = name := by
  simp [Path.name, absolute]

@[simp] theorem isAbsolute_absolute : (absolute directory).isAbsolute = true := rfl

@[simp] theorem parent_absolute : (absolute (directory ++ [name])).parent = absolute directory := by
  simp [parent, absolute]

end Path

namespace Disk

open Tree

variable {disk first second : Disk} {directory : Location} {name : String}
  {region : Location → Prop} {content : ByteArray}

/-- An orderly disk has changed in a region at most, and has stayed orderly. -/
structure ChangesOnly (region : Location → Prop) (before after : Disk) : Prop where
  cwd : before.tree.IsOrderly → after.cwd = before.cwd
  orderly : before.tree.IsOrderly → after.tree.IsOrderly
  same : before.tree.IsOrderly → ∀ location, ¬ region location →
    after.tree.get? location = before.tree.get? location

instance : IsPreorder Disk (ChangesOnly region) where
  refl _ := ⟨fun _ => rfl, id, fun _ _ _ => rfl⟩
  trans _ _ _ h h' :=
    ⟨fun ho => (h'.cwd (h.orderly ho)).trans (h.cwd ho), h'.orderly ∘ h.orderly,
      fun ho location hout =>
        (h'.same (h.orderly ho) location hout).trans (h.same ho location hout)⟩

theorem ChangesOnly.mono {wider : Location → Prop} (h : ChangesOnly region first second)
    (hsub : ∀ location, region location → wider location) : ChangesOnly wider first second :=
  ⟨h.cwd, h.orderly, fun ho location hout => h.same ho location (mt (hsub location) hout)⟩

/-- Only changes of orderly disks count. -/
theorem ChangesOnly.of_orderly (h : first.tree.IsOrderly → ChangesOnly region first second) :
    ChangesOnly region first second :=
  ⟨fun ho => (h ho).cwd ho, fun ho => (h ho).orderly ho, fun ho => (h ho).same ho⟩

/-- A directory of an orderly tree that is found and may be passed through. -/
structure Entered (directory : Location) (disk : Disk) : Prop where
  orderly : disk.tree.IsOrderly
  isName : ∀ name ∈ directory, IsName name
  found : ∃ mode, disk.find (.absolute directory) = .ok (.taken directory (.directory mode))
  pass : disk.tree.allows .pass directory = true

theorem isName_append (hdirectory : ∀ name ∈ directory, IsName name) (hname : IsName name) :
    ∀ other ∈ directory ++ [name], IsName other := by
  intro other hother
  rcases List.mem_append.mp hother with hother | hother
  · exact hdirectory other hother
  · rwa [List.mem_singleton.mp hother]

/-- Whether a directory is entered depends on the way to it. -/
theorem Entered.congr (h : Entered directory first) (hs : second.tree.IsOrderly)
    (hsame : ∀ location, location <+: directory →
      second.tree.get? location = first.tree.get? location) : Entered directory second where
  orderly := hs
  isName := h.isName
  found := by
    rw [find_congr hs h.orderly h.isName fun count => hsame _ (List.take_prefix count directory)]
    exact h.found
  pass := (allows_congr (hsame _ (List.prefix_refl _))).trans h.pass

/-- A place is found only in a directory that is entered. -/
theorem entered_of_find {place : Place} (h : disk.tree.IsOrderly)
    (hdirectory : ∀ name ∈ directory, IsName name) (hname : IsName name)
    (hfind : disk.find (.absolute (directory ++ [name])) = .ok place) :
    Entered directory disk := by
  have hended : disk.tree.descend true [] (directory ++ [name]) = .ended (.ok place) := by
    obtain ⟨outcome, houtcome, hasked⟩ := find_absolute h (isName_append hdirectory hname)
    rw [hasked] at hfind
    unfold asked at hfind
    split at hfind
    · rw [houtcome, hfind]
    · split_ifs at hfind
      rw [houtcome, hfind]
  obtain ⟨⟨mode, htaken⟩, hpass⟩ := descend_dropLast hdirectory hname (get?_nil disk.tree) hended
  obtain ⟨outcome, houtcome, hasked⟩ := find_absolute h hdirectory
  obtain rfl := Descent.ended.inj (houtcome.symm.trans htaken)
  exact ⟨h, hdirectory, ⟨mode, hasked⟩, hpass⟩

/-- A directory that is entered and may be read and altered. -/
structure Owned (directory : Location) (disk : Disk) : Prop extends Entered directory disk where
  read : disk.tree.allows .read directory = true
  alterable : disk.tree.isAlterable directory = true

theorem Owned.congr (h : Owned directory first) (hs : second.tree.IsOrderly)
    (hsame : ∀ location, location <+: directory →
      second.tree.get? location = first.tree.get? location) : Owned directory second where
  toEntered := h.toEntered.congr hs hsame
  read := (allows_congr (hsame _ (List.prefix_refl _))).trans h.read
  alterable := (isAlterable_congr (hsame _ (List.prefix_refl _))).trans h.alterable

theorem Entered.directory? (h : Entered directory disk) :
    disk.directory? (.absolute directory) = some directory :=
  (directory?_absolute h.orderly h.isName).mpr h.found

theorem Entered.find_child (h : Entered directory disk) (hname : IsName name) {node : Node}
    (hnode : disk.tree.get? (directory ++ [name]) = some node) :
    disk.find (.absolute (directory ++ [name])) = .ok (.taken (directory ++ [name]) node) := by
  obtain ⟨mode, hfound⟩ := h.found
  exact Disk.find_child h.orderly h.isName hfound h.pass hname hnode

/-- What is removed is the file at the path's own location. -/
theorem eq_of_unlink (h : disk.tree.IsOrderly) (hdirectory : ∀ name ∈ directory, IsName name)
    (hname : IsName name) {after : Disk}
    (hok : disk.unlink (.absolute (directory ++ [name])) = .ok after) :
    after = { disk with tree := disk.tree.erase (directory ++ [name]) } := by
  have hnames := isName_append hdirectory hname
  rw [unlink, findEntry_absolute h hnames] at hok
  obtain ⟨node, hnode, hget⟩ | ⟨hvacant, -⟩ | ⟨fault, hfault⟩ := find_cases h hnames
  · rw [hnode] at hok
    cases node with
    | directory mode => cases hok
    | link target => exact absurd hget (h.linkFree _ target)
    | file content mode =>
      simp only [displace] at hok
      split_ifs at hok
      exact (Except.ok.inj hok).symm
  · simp [hvacant] at hok
  · simp [hfault] at hok

/-- A file in an alterable directory can be removed. -/
theorem Entered.unlink_file (h : Entered directory disk) (hname : IsName name) {mode : Nat}
    (hfile : disk.tree.get? (directory ++ [name]) = some (.file content mode))
    (halter : disk.tree.isAlterable directory = true) :
    disk.unlink (.absolute (directory ++ [name])) =
      .ok { disk with tree := disk.tree.erase (directory ++ [name]) } := by
  rw [unlink, findEntry_absolute h.orderly (isName_append h.isName hname), h.find_child hname hfile]
  simp [displace, halter]

theorem lexical_parent (hdirectory : ∀ name ∈ directory, IsName name) :
    disk.lexical (Path.absolute (directory ++ [name])).parent = .absolute directory := by
  rw [Path.parent_absolute]
  exact congrArg (Path.mk .root) (@foldl_stepName [] directory hdirectory)

/-- What putting a file in place does: it needs a place for the file, a name that is not too long
and an alterable directory. -/
theorem replaceFile_eq (h : disk.tree.IsOrderly) (hdirectory : ∀ name ∈ directory, IsName name)
    (hname : IsName name) (content : ByteArray) (mode : Nat) :
    disk.replaceFile (.absolute (directory ++ [name])) content mode =
      match disk.find (.absolute (directory ++ [name])) with
      | .error fault => .error fault
      | .ok (.taken _ (.directory _)) => .error .directory
      | .ok _ =>
        if !fitsTemporaryName name then .error .tooLong
        else if disk.tree.isAlterable directory then
          .ok { disk with tree := disk.tree.put (directory ++ [name]) (.file content mode) }
        else .error .denied := by
  have hnames := isName_append hdirectory hname
  have hwritten : ∀ place, disk.find (.absolute (directory ++ [name])) = .ok place →
      replaceFile.written disk (.absolute (directory ++ [name])) content mode
        (directory ++ [name]) =
        if !fitsTemporaryName name then .error .tooLong
        else if disk.tree.isAlterable directory then
          .ok { disk with tree := disk.tree.put (directory ++ [name]) (.file content mode) }
        else .error .denied := by
    intro found hfound
    have hentered := entered_of_find h hdirectory hname hfound
    rw [replaceFile.written, lexical_parent hdirectory, hentered.directory?]
    simp only [Path.name_absolute, place, List.dropLast_concat]
    split_ifs <;> rfl
  rw [replaceFile, findEntry_absolute h hnames]
  obtain ⟨node, hnode, -⟩ | ⟨hvacant, -⟩ | ⟨fault, hfault⟩ := find_cases h hnames
  · rw [hnode]
    cases node with
    | directory mode => rfl
    | file content mode => exact hwritten _ hnode
    | link target => exact hwritten _ hnode
  · rw [hvacant]
    exact hwritten _ hvacant
  · rw [hfault]

/-- A file that went into place stands at the path's own location, where no directory was, and its
directory is entered and alterable. -/
theorem put_of_replaceFile (h : disk.tree.IsOrderly)
    (hdirectory : ∀ name ∈ directory, IsName name) (hname : IsName name)
    {mode : Nat} {after : Disk}
    (hok : disk.replaceFile (.absolute (directory ++ [name])) content mode = .ok after) :
    after = { disk with tree := disk.tree.put (directory ++ [name]) (.file content mode) } ∧
      (∀ other, disk.tree.get? (directory ++ [name]) ≠ some (.directory other)) ∧
      Entered directory disk ∧ disk.tree.isAlterable directory = true := by
  rw [replaceFile_eq h hdirectory hname] at hok
  split at hok
  · cases hok
  · cases hok
  next place hnot hplace =>
    have hentered := entered_of_find h hdirectory hname hplace
    split_ifs at hok with hfits halter
    refine ⟨(Except.ok.inj hok).symm, fun other hother => ?_, hentered, halter⟩
    exact hnot _ _ (Except.ok.inj (hplace.symm.trans (hentered.find_child hname hother)))

/-- Putting a file in place depends on what is on the way to it. -/
theorem replaceFile_congr {alike : Disk → Disk → Prop} (hf : first.tree.IsOrderly)
    (hs : second.tree.IsOrderly) (hdirectory : ∀ name ∈ directory, IsName name)
    (hname : IsName name) (h : ∀ location, location <+: directory ++ [name] →
      first.tree.get? location = second.tree.get? location) {mode : Nat}
    (hput : alike
      { first with tree := first.tree.put (directory ++ [name]) (.file content mode) }
      { second with tree := second.tree.put (directory ++ [name]) (.file content mode) }) :
    Action.SameOutcome alike (first.replaceFile (.absolute (directory ++ [name])) content mode)
      (second.replaceFile (.absolute (directory ++ [name])) content mode) := by
  have hfind : first.find (.absolute (directory ++ [name])) =
      second.find (.absolute (directory ++ [name])) :=
    find_congr hf hs (isName_append hdirectory hname) fun count => h _ (List.take_prefix _ _)
  have halter := isAlterable_congr (h directory (List.prefix_append _ _))
  rw [replaceFile_eq hf hdirectory hname, replaceFile_eq hs hdirectory hname, hfind, halter]
  split
  · exact .error _
  · exact .error _
  · split_ifs
    · exact .error _
    · exact .ok hput
    · exact .error _

/-- What lies in a directory does not lead to it. -/
theorem not_below_of_above {location : Location} (h : location <+: directory) :
    ¬ directory ++ [name] <+: location := by
  intro hbelow
  have hlength := (hbelow.trans h).length_le
  rw [List.length_append, List.length_singleton] at hlength
  omega

theorem ne_child_of_above {location : Location} (h : location <+: directory) :
    location ≠ directory ++ [name] := by
  rintro rfl
  exact not_below_of_above h (List.prefix_refl _)

/-- A file in a directory is not on the way to it. -/
theorem Entered.put_file (h : Entered directory disk) (hname : IsName name) (content : ByteArray)
    (mode : Nat) :
    Entered directory
      { disk with tree := disk.tree.put (directory ++ [name]) (.file content mode) } := by
  refine h.congr ?_ fun location hlocation => ?_
  · exact h.orderly.put (by simp) (isName_append h.isName hname) (by simp)
  · rw [get?_put (by simp), if_neg (ne_child_of_above hlocation)]

/-- A directory is entered on both disks, which agree around it. -/
structure Alike (directory : Location) (first second : Disk) : Prop where
  left : Entered directory first
  right : Entered directory second
  agree : Agree (Around directory) first.tree second.tree

/-- Putting a file in place fails alike, or keeps the disks alike. -/
theorem Alike.replaceFile (h : Alike directory first second) (hname : IsName name)
    (content : ByteArray) (mode : Nat) :
    Action.SameOutcome (Alike directory)
      (first.replaceFile (.absolute (directory ++ [name])) content mode)
      (second.replaceFile (.absolute (directory ++ [name])) content mode) := by
  refine replaceFile_congr h.left.orderly h.right.orderly h.left.isName hname
    (fun _ habove => h.agree _ (around_of_above_child habove))
    ⟨h.left.put_file hname content mode, h.right.put_file hname content mode, ?_⟩
  intro location hlocation
  rw [get?_put (by simp), get?_put (by simp), h.agree location hlocation]

end Disk

end Scaffold
