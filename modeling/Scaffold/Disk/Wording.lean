import Scaffold.Disk.Basic

/-!
# Faults in words

Every program tells in the same words why a path cannot be followed or used.
-/

namespace Scaffold

/-- The words for a fault, as programs say them after the path it was met at. -/
def PathFault.wording : PathFault → Chars
  | .missing => "No such file or directory".toList
  | .notDirectory => "Not a directory".toList
  | .directory => "Is a directory".toList
  | .occupied => "File exists".toList
  | .denied => "Permission denied".toList
  | .loop => "Too many levels of symbolic links".toList
  | .tooLong => "File name too long".toList
  | .unspeakable => "Invalid argument".toList

end Scaffold
