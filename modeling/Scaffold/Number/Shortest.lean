import Scaffold.Number.Decimal

/-!
# The shortest text of a double

A double is shown by the fewest digits that read back as it, and among those by the nearest ones.
Numbers that are neither very small nor very large are written with a point, the others with an
exponent.
-/

namespace Scaffold.Number

/-- The quotient times a power of ten, again as a quotient. -/
def scaleByTen (num den : Nat) (power : Int) : Nat × Nat :=
  if 0 ≤ power then (num * Nat.pow 10 power.toNat, den)
  else (num, den * Nat.pow 10 (-power).toNat)

/-- The power of ten just above a positive quotient. -/
def magnitude (num den : Nat) : Int :=
  let guess : Int := (Nat.toDigits 10 num).length - (Nat.toDigits 10 den).length
  let (scaledNum, scaledDen) := scaleByTen num den (-guess)
  if scaledNum < scaledDen then guess else guess + 1

/-- The decimals of at most the given number of digits on both sides of a positive quotient, the
nearer one first; where both are as near, the even one. -/
def neighbours (num den count : Nat) : List Decimal :=
  let exponent := magnitude num den - count
  let (scaledNum, scaledDen) := scaleByTen num den (-exponent)
  let below : Decimal := ⟨false, scaledNum / scaledDen, exponent⟩
  let above : Decimal := ⟨false, scaledNum / scaledDen + 1, exponent⟩
  if roundDiv scaledNum scaledDen = below.digits then [below, above] else [above, below]

/-- The shortest decimal that reads back as a positive double. -/
def Double.shortestDecimal (d : Double) : Decimal :=
  let (num, den) := d.quotient
  let positive : Double := { d with negative := false }
  (((List.range 17).flatMap fun count => neighbours num den (count + 1)).find? fun decimal =>
    decimal.toDouble? == some positive).getD ⟨false, num, 0⟩

/-- Digits without the zeros at their end. -/
def cutZeros (digits : List Char) : List Char :=
  (digits.reverse.dropWhile (· == '0')).reverse

/-- The text of digits that stand behind a point, moved by a power of ten. -/
def placed (digits : List Char) (point : Int) : List Char :=
  let zeros (count : Int) := List.replicate count.toNat '0'
  let length : Int := digits.length
  if -4 < point && point ≤ 16 then
    if point ≤ 0 then '0' :: '.' :: zeros (-point) ++ digits
    else if length ≤ point then digits ++ zeros (point - length) ++ ['.', '0']
    else digits.take point.toNat ++ '.' :: digits.drop point.toNat
  else
    let exponent := point - 1
    let shown := Nat.toDigits 10 exponent.natAbs
    let fraction := digits.drop 1
    digits.take 1 ++ (if fraction.isEmpty then [] else '.' :: fraction) ++
      ['e', if exponent < 0 then '-' else '+'] ++
      (if shown.length < 2 then '0' :: shown else shown)

/-- A double as its shortest text. -/
def Double.shortest (d : Double) : String :=
  let sign := if d.negative then ['-'] else []
  if d.significand = 0 then String.ofList (sign ++ ['0', '.', '0'])
  else
    let decimal := d.shortestDecimal
    let all := Nat.toDigits 10 decimal.digits
    String.ofList (sign ++ placed (cutZeros all) (all.length + decimal.exponent))

end Scaffold.Number
