/-!
# Sets of code points

A property of characters is a list of closed ranges of code points, or a list of arithmetic runs
where every second code point belongs. Tables list code points from U+0080 on; the rule for ASCII
is written out where the property is defined, so that common text never reaches a table.
-/

namespace Scaffold.Text

/-- The point lies in one of the closed ranges. -/
def inRanges (ranges : List (Nat × Nat)) (point : Nat) : Bool :=
  ranges.any fun range => range.1 ≤ point && point ≤ range.2

/-- The points `first`, `first + step`, ... up to `last`. -/
structure Run where
  first : Nat
  last : Nat
  step : Nat

/-- The point is one of the run's. -/
def Run.has (run : Run) (point : Nat) : Bool :=
  run.first ≤ point && point ≤ run.last && (point - run.first) % run.step == 0

/-- A run whose points all map to the point `shift` further on. -/
structure ShiftRun where
  first : Nat
  last : Nat
  step : Nat
  shift : Int

/-- The points that a shifting run moves. -/
def ShiftRun.domain (run : ShiftRun) : Run :=
  ⟨run.first, run.last, run.step⟩

/-- The image of a point under the first run that has it; other points stay. -/
def shiftPoint (runs : List ShiftRun) (point : Nat) : Nat :=
  match runs.find? fun run => run.domain.has point with
  | some run => (point + run.shift).toNat
  | none => point

end Scaffold.Text
