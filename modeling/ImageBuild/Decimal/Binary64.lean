/-!
# Finite binary64 numbers

A number is kept as sign, significand and power of two, so that equality is
equality of values and no rounding happens outside `nearest`.
-/
namespace ImageBuild.Decimal

/-- The number `significand * 2 ^ exponent`, or its opposite. The exponent is
at least `-1074`, and above that the significand has its full 53 bits. -/
structure Binary64 where
  negative : Bool
  significand : Nat
  exponent : Int
  deriving DecidableEq, Repr

namespace Binary64

/-- Least exponent of a finite number. -/
def minExponent : Int := -1074

/-- Greatest exponent of a finite number. -/
def maxExponent : Int := 971

/-- Zero of either sign. -/
def zero (negative : Bool) : Binary64 := ⟨negative, 0, minExponent⟩

/-- The quotient of two natural numbers, rounded to the nearest one; a half
goes to the even neighbour. -/
def roundDiv (num den : Nat) : Nat :=
  let q := num / den
  let r := num % den
  if 2 * r < den then q
  else if den < 2 * r then q + 1
  else if q % 2 = 0 then q else q + 1

/-- A quotient times a power of two, rounded. -/
def scaled (num den : Nat) (shift : Int) : Nat :=
  if shift ≤ 0 then roundDiv (num * Nat.pow 2 (-shift).toNat) den
  else roundDiv num (den * Nat.pow 2 shift.toNat)

/-- The exponent under which a positive quotient has a 53-bit integer part. -/
def exponentOf (num den : Nat) : Int :=
  let guess : Int := (Nat.log2 num : Int) - (Nat.log2 den : Int) - 52
  let fits : Bool :=
    if guess ≤ 0 then decide (Nat.pow 2 52 * den ≤ num * Nat.pow 2 (-guess).toNat)
    else decide (Nat.pow 2 52 * den * Nat.pow 2 guess.toNat ≤ num)
  max minExponent (if fits then guess else guess - 1)

/-- The number nearest to a positive quotient, if it is finite. -/
def ofQuotient? (negative : Bool) (num den : Nat) : Option Binary64 :=
  let e := exponentOf num den
  let m := scaled num den e
  let (m, e) := if m = Nat.pow 2 53 then (Nat.pow 2 52, e + 1) else (m, e)
  if e ≤ maxExponent then some ⟨negative, m, e⟩ else none

/-- The number nearest to `digits * 10 ^ power`, if it is finite. Powers far
outside the range of the format are settled by the number of digits. -/
def nearest (negative : Bool) (digits : Nat) (power : Int) : Option Binary64 :=
  if digits = 0 then some (zero negative)
  else
    let size : Int := (Nat.log2 digits : Int) * 30103 / 100000 + power
    if size > 320 then none
    else if size < -400 then some (zero negative)
    else if power ≥ 0 then ofQuotient? negative (digits * Nat.pow 10 power.toNat) 1
    else ofQuotient? negative digits (Nat.pow 10 (-power).toNat)

end Binary64

end ImageBuild.Decimal
