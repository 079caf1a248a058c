/-!
# Whole numbers with grouped digits

Large counts in reports carry a comma between groups of three digits.
-/

namespace Scaffold.Number

/-- Digits, last first, with a comma after every third one that has a successor. -/
def groupReversed : List Char → List Char
  | a :: b :: c :: d :: rest => a :: b :: c :: ',' :: groupReversed (d :: rest)
  | digits => digits

/-- A whole number with a comma between groups of three digits. -/
def grouped (n : Int) : String :=
  let digits := (groupReversed (Nat.toDigits 10 n.natAbs).reverse).reverse
  String.ofList (if n < 0 then '-' :: digits else digits)

end Scaffold.Number
