import Mathlib.Data.List.TakeWhile
import Scaffold.Export
import Scaffold.Proofs.Lookup

/-!
# What a record says

A record names a file by the text of its path and describes the bytes of its content. The last
slash of a path's text stands before its last name, so that files whose names hold no slash are told
apart by their records.
-/

namespace Scaffold

namespace Text

/-- A line feed is written as one byte, and that byte stands in no other character. -/
theorem count_utf8EncodeChar (c : Char) :
    (String.utf8EncodeChar c).count 10 = if c = '\n' then 1 else 0 := by
  have hbyte : ∀ n, (UInt8.ofNat n == 10) = decide (n % 256 = 10) := by
    intro n
    rw [beq_eq_decide, decide_eq_decide, ← UInt8.toNat_inj, UInt8.toNat_ofNat']
    rfl
  have hnewline : c = '\n' ↔ c.val.toNat = 10 := by
    rw [← Char.val_inj, ← UInt32.toNat_inj]
    rfl
  simp only [hnewline, String.utf8EncodeChar]
  split_ifs <;> simp only [List.count_cons, List.count_nil, hbyte, decide_eq_true_eq] <;>
    split_ifs <;> omega

theorem count_toUTF8 (text : String) :
    text.toUTF8.data.toList.count 10 = lineFeeds text := by
  have hbytes : text.toUTF8.data.toList = text.toList.flatMap String.utf8EncodeChar := by
    rw [String.toUTF8, ← String.utf8Encode_toList, List.utf8Encode, List.data_toByteArray]
  rw [hbytes, lineFeeds]
  induction text.toList with
  | nil => rfl
  | cons c rest ih =>
    rw [List.flatMap_cons, List.count_append, ih, count_utf8EncodeChar, List.count_cons]
    simp only [beq_iff_eq]
    omega

end Text

namespace FileRecord

/-- The record tells the size of a content, its line feeds and its digest. -/
structure Describes (record : FileRecord) (content : ByteArray) : Prop where
  sizeBytes : record.sizeBytes = content.size
  lineCount : record.lineCount = content.data.toList.count 10
  sha256 : record.sha256 = Digest.sha256 content

theorem describes_ofContent (path : Path) (content : String) :
    (ofContent path content).Describes content.toUTF8 where
  sizeBytes := congrArg Nat.cast String.size_toByteArray.symm
  lineCount := congrArg Nat.cast (Text.count_toUTF8 content).symm
  sha256 := rfl

end FileRecord

namespace Path

/-- The text that the paths of the entries of a directory start with. -/
def opening (directory : Location) : String :=
  directory.foldl (fun text name => text ++ name ++ "/") "/"

theorem opening_append (directory : Location) (name : String) :
    opening (directory ++ [name]) = opening directory ++ name ++ "/" := by
  rw [opening, List.foldl_append]
  rfl

theorem render_entry (directory : Location) (name : String) :
    (absolute (directory ++ [name])).render = opening directory ++ name := by
  induction directory using List.reverseRecOn generalizing name with
  | nil => simp [render, absolute, opening]
  | append_singleton above last ih =>
    have hjoin : "/".intercalate (above ++ [last] ++ [name]) =
        "/".intercalate (above ++ [last]) ++ "/" ++ name := by
      rw [String.intercalate_append_of_ne_nil (by simp) (by simp)]
      simp
    have habove : "/" ++ "/".intercalate (above ++ [last]) = opening above ++ last := ih last
    calc (absolute (above ++ [last] ++ [name])).render
        = "/" ++ ("/".intercalate (above ++ [last]) ++ "/" ++ name) := congrArg ("/" ++ ·) hjoin
      _ = opening above ++ last ++ "/" ++ name := by rw [← habove]; simp [String.append_assoc]
      _ = opening (above ++ [last]) ++ name := by rw [opening_append]

theorem exists_opening (directory : Location) :
    ∃ start : List Char, (opening directory).toList = start ++ ['/'] := by
  rcases List.eq_nil_or_concat directory with rfl | ⟨above, last, rfl⟩
  · exact ⟨[], rfl⟩
  · refine ⟨(opening above ++ last).toList, ?_⟩
    rw [List.concat_eq_append, opening_append, String.toList_append]
    rfl

/-- The text of an entry's path tells the directory's text from the name, where that holds no slash:
read backwards, the name is what comes before the first one. -/
theorem render_entry_inj {first second : Location} {name other : String}
    (hname : '/' ∉ name.toList) (hother : '/' ∉ other.toList)
    (h : (absolute (first ++ [name])).render = (absolute (second ++ [other])).render) :
    opening first = opening second ∧ name = other := by
  obtain ⟨start, hstart⟩ := exists_opening first
  obtain ⟨start', hstart'⟩ := exists_opening second
  have hlast : ∀ (start : List Char) (name : String), '/' ∉ name.toList →
      (start ++ ['/'] ++ name.toList).reverse.takeWhile (· != '/') = name.toList.reverse := by
    intro start name hname
    rw [List.reverse_append, List.reverse_append, List.takeWhile_append_of_pos]
    · simp
    · intro c hc
      simpa using ne_of_mem_of_not_mem (List.mem_reverse.mp hc) hname
  rw [render_entry, render_entry] at h
  have hchars : start ++ ['/'] ++ name.toList = start' ++ ['/'] ++ other.toList := by
    rw [← hstart, ← hstart', ← String.toList_append, ← String.toList_append, h]
  have hnames : name = other := by
    have hback := congrArg (fun chars => chars.reverse.takeWhile (· != '/')) hchars
    simp only [hlast start name hname, hlast start' other hother] at hback
    exact String.toList_inj.mp (List.reverse_injective hback)
  subst hnames
  exact ⟨String.append_left_inj _ |>.mp h, rfl⟩

end Path

end Scaffold
