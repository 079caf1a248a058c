import Scaffold.Shell.Program.Text

/-!
# Comparing files

Programs that tell whether and where two files differ.
-/

namespace Scaffold.Shell.Program

/-- Tells whether two files are equal, and where they differ. -/
def cmp : Program := withOptions "cmp"
    { letters := "sbl", names := [("quiet", 's'), ("silent", 's')] }
  (fun given job =>
    match given.words with
    | [] => job.fail 2
        "cmp: missing operand after 'cmp'\ncmp: Try 'cmp --help' for more information.".toList
    | left :: others =>
      let right := others.headD ['-']
      match read job left, read job right with
      | .error fault, _ =>
        if given.has 's' then { job with status := 2 }
        else job.fail 2 ("cmp: ".toList ++ left ++ ": ".toList ++ fault.wording)
      | _, .error fault =>
        if given.has 's' then { job with status := 2 }
        else job.fail 2 ("cmp: ".toList ++ right ++ ": ".toList ++ fault.wording)
      | .ok a, .ok b =>
        let common := ((List.zip a b).takeWhile fun (x, y) => x == y).length
        let lines := ((a.take common).filter (· == '\n')).length
        if a == b then job
        else if given.has 's' then { job with status := 1 }
        else if common < a.length && common < b.length then
          { job.printLine
              (left ++ ' ' :: right ++ " differ: char ".toList ++ (common + 1).repr.toList ++
                ", line ".toList ++ (lines + 1).repr.toList) with status := 1 }
        else
          let short := if a.length < b.length then left else right
          if common = 0 then
            job.complain "cmp" ("EOF on ".toList ++ short ++ " which is empty".toList)
          else
            let inLine := (a.take common).getLast? != some '\n'
            job.complain "cmp"
              ("EOF on ".toList ++ short ++ " after byte ".toList ++ common.repr.toList ++
                (if inLine then ", in line " else ", line ").toList ++
                (if inLine then lines + 1 else lines).repr.toList)) 2

/-- The difference between two lists of lines as pairs of runs: what is the same, and what is
different on both sides. The number bounds the steps. -/
def commonLines (left right : Array Chars) : Nat → Nat → Nat → List (Nat × Nat)
  | 0, _, _ => []
  | fuel + 1, i, j =>
    if left.size ≤ i || right.size ≤ j then []
    else if left.getD i [] == right.getD j [] then
      (i, j) :: commonLines left right fuel (i + 1) (j + 1)
    else
      let skipsLeft := (List.range (left.size - i)).find? fun k =>
        left.getD (i + k) [] == right.getD j []
      let skipsRight := (List.range (right.size - j)).find? fun k =>
        left.getD i [] == right.getD (j + k) []
      match skipsLeft, skipsRight with
      | some a, some b =>
        if a ≤ b then commonLines left right fuel (i + a) j
        else commonLines left right fuel i (j + b)
      | some a, none => commonLines left right fuel (i + a) j
      | none, some b => commonLines left right fuel i (j + b)
      | none, none => commonLines left right fuel (i + 1) (j + 1)

/-- Tells how two files differ. -/
def diff : Program := withOptions "diff"
    { letters := "qsurNbwBi", names := [("brief", 'q'), ("report-identical-files", 's')] }
  (fun given job =>
    let hint := "\ndiff: Try 'diff --help' for more information.".toList
    match given.words with
    | [] => job.fail 2 ("diff: missing operand after 'diff'".toList ++ hint)
    | [only] => job.fail 2 ("diff: missing operand after '".toList ++ only ++ ['\x27'] ++ hint)
    | [left, right] =>
      let isFile (path : Chars) : Bool := (read job path).toOption.isSome
      let leftPath :=
        if isDirectory job.disk left && isFile right then joined left (baseName right) else left
      let rightPath :=
        if isDirectory job.disk right && isFile left then joined right (baseName left) else right
      match read job leftPath, read job rightPath with
      | .error a, .error b =>
        if a == .directory && b == .directory then job
        else
          let job := if a == .directory then job
            else job.fail 2 ("diff: ".toList ++ leftPath ++ ": ".toList ++ a.wording)
          if b == .directory then job
          else job.fail 2 ("diff: ".toList ++ rightPath ++ ": ".toList ++ b.wording)
      | .error fault, _ => job.fail 2 ("diff: ".toList ++ leftPath ++ ": ".toList ++ fault.wording)
      | _, .error fault => job.fail 2 ("diff: ".toList ++ rightPath ++ ": ".toList ++ fault.wording)
      | .ok a, .ok b =>
        if a == b then
          if given.has 's' then
            job.printLine ("Files ".toList ++ leftPath ++ " and ".toList ++ rightPath ++
              " are identical".toList)
          else job
        else if given.has 'q' then
          { job.printLine ("Files ".toList ++ leftPath ++ " and ".toList ++ rightPath ++
              " differ".toList) with status := 1 }
        else
          let old := (linesOf a).toArray
          let new := (linesOf b).toArray
          let same := commonLines old new (2 * (old.size + new.size) + 2) 0 0 ++
            [(old.size, new.size)]
          let range (first count : Nat) : Chars :=
            if count = 1 then (first + 1).repr.toList
            else (first + 1).repr.toList ++ ',' :: (first + count).repr.toList
          let side (sign : String) (lines : Array Chars) (first count : Nat) : Chars :=
            (List.range count).flatMap fun k =>
              let line := lines.getD (first + k) []
              sign.toList ++ bare line ++
                if line.getLast? == some '\n' then ['\n']
                else "\n\\ No newline at end of file\n".toList
          let (out, _, _) := same.foldl
            (fun (out, i, j) (nextLeft, nextRight) =>
              let gone := nextLeft - i
              let added := nextRight - j
              let block : Chars :=
                if gone = 0 && added = 0 then []
                else if gone = 0 then
                  i.repr.toList ++ 'a' :: range j added ++ '\n' :: side "> " new j added
                else if added = 0 then
                  range i gone ++ 'd' :: j.repr.toList ++ '\n' :: side "< " old i gone
                else
                  range i gone ++ 'c' :: range j added ++ '\n' :: side "< " old i gone ++
                    "---\n".toList ++ side "> " new j added
              (out ++ block, nextLeft + 1, nextRight + 1))
            (([] : Chars), 0, 0)
          { job.print out with status := 1 }
    | _ :: _ :: extra :: _ =>
      job.fail 2 ("diff: extra operand '".toList ++ extra ++ ['\x27'] ++ hint)) 2

end Scaffold.Shell.Program
