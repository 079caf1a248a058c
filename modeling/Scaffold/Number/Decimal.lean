/-!
# Decimal literals and the doubles they denote

A literal such as `12.5e3` is kept exactly, as digits and a power of ten. What it denotes is the
nearest double: a significand of at most 53 bits times a power of two. All steps are exact integer
arithmetic; halves go to the even neighbour.
-/

namespace Scaffold.Number

/-- The literal with value `± digits * 10 ^ exponent`. -/
structure Decimal where
  negative : Bool := false
  digits : Nat
  exponent : Int := 0
  deriving DecidableEq, Repr

/-- The double with value `± significand * 2 ^ power`. -/
structure Double where
  negative : Bool
  significand : Nat
  power : Int
  deriving DecidableEq, Repr

/-- The quotient rounded to a whole number, halves to the even one. -/
def roundDiv (num den : Nat) : Nat :=
  let quotient := num / den
  let twice := 2 * (num % den)
  if den < twice then quotient + 1
  else if twice = den then quotient + quotient % 2
  else quotient

/-- The quotient divided by a power of two and rounded, halves to the even number. -/
def roundScaled (num den : Nat) (power : Int) : Nat :=
  if 0 ≤ power then roundDiv num (den * Nat.pow 2 power.toNat)
  else roundDiv (num * Nat.pow 2 (-power).toNat) den

/-- The power of two that leaves 53 significant bits of a positive quotient, or the least one. -/
def scaleOf (num den : Nat) : Int :=
  let guess : Int := (num.log2 : Int) - den.log2 - 52
  let short :=
    if 0 ≤ guess then num < den * Nat.pow 2 (52 + guess.toNat)
    else num * Nat.pow 2 (-guess).toNat < den * Nat.pow 2 52
  max (if short then guess - 1 else guess) (-1074)

/-- The nearest double of a positive quotient, or nothing where that is too large for one. -/
def Double.ofQuotient? (negative : Bool) (num den : Nat) : Option Double :=
  let power := scaleOf num den
  let significand := roundScaled num den power
  if 1024 < (significand.log2 : Int) + 1 + power then none
  else some ⟨negative, significand, power⟩

/-- The nearest double of a literal, or nothing where the value is too large for one. -/
def Decimal.toDouble? (d : Decimal) : Option Double :=
  let magnitude : Int := (Nat.toDigits 10 d.digits).length + d.exponent
  if d.digits = 0 || magnitude < -400 then some ⟨d.negative, 0, 0⟩
  else if 400 < magnitude then none
  else if 0 ≤ d.exponent then
    Double.ofQuotient? d.negative (d.digits * Nat.pow 10 d.exponent.toNat) 1
  else Double.ofQuotient? d.negative d.digits (Nat.pow 10 (-d.exponent).toNat)

/-- The value of a double without its sign, as a quotient. -/
def Double.quotient (d : Double) : Nat × Nat :=
  if 0 ≤ d.power then (d.significand * Nat.pow 2 d.power.toNat, 1)
  else (d.significand, Nat.pow 2 (-d.power).toNat)

/-- The literal with the value of a double. -/
def Double.toDecimal (d : Double) : Decimal :=
  if 0 ≤ d.power then ⟨d.negative, d.significand * Nat.pow 2 d.power.toNat, 0⟩
  else ⟨d.negative, d.significand * Nat.pow 5 (-d.power).toNat, d.power⟩

/-- The whole number a double is equal to, if there is one. -/
def Double.toInt? (d : Double) : Option Int :=
  let signed (n : Nat) : Int := if d.negative then -(n : Int) else n
  if 0 ≤ d.power then some (signed (d.significand * Nat.pow 2 d.power.toNat))
  else
    let unit := Nat.pow 2 (-d.power).toNat
    if d.significand % unit = 0 then some (signed (d.significand / unit)) else none

/-- A double with a fixed number of decimal places, rounded from its exact value. -/
def Double.fixed (places : Nat) (d : Double) : String :=
  let unit := Nat.pow 10 places
  let scaled := roundScaled (d.significand * unit) 1 (-d.power)
  let whole := Nat.toDigits 10 (scaled / unit)
  let fraction := Nat.toDigits 10 (scaled % unit)
  let fill := List.replicate (places - fraction.length) '0'
  let sign := if d.negative then ['-'] else []
  String.ofList (sign ++ whole ++ '.' :: fill ++ fraction)

end Scaffold.Number
