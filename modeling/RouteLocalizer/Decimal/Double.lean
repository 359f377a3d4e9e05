/-
  Numbers of the 64-bit floating-point format, in EXACT arithmetic.

  A finite number is a sign, a mantissa below 2^53 and a power of two, and stands for the rational
  `mantissa * 2 ^ exponent`.  All work on it is done on that rational, in whole numbers; `nearest`
  is the one place where something is rounded, to the nearest number of the format and on a tie to
  the one with the even mantissa.  A product and a quotient are the rounded exact ones.
-/

namespace RouteLocalizer.Decimal

/-- A number of the 64-bit floating-point format. -/
inductive Double where
  /-- The number `mantissa * 2 ^ exponent` with a sign. -/
  | finite (negative : Bool) (mantissa : Nat) (exponent : Int)
  /-- What lies beyond the largest finite number. -/
  | infinite (negative : Bool)
  /-- No number at all. -/
  | nan
deriving DecidableEq, Repr

/-- A quotient, rounded to the nearest whole number, on a tie to the even one. -/
def roundHalfEven (num den : Nat) : Nat :=
  let q := num / den
  let r := num % den
  if 2 * r < den then q
  else if den < 2 * r then q + 1
  else if q % 2 = 0 then q else q + 1

/-- A ratio of two positive whole numbers, scaled by a power of two. -/
def scaleRatio (num den : Nat) (power : Int) : Nat × Nat :=
  if 0 ≤ power then (num * Nat.pow 2 power.toNat, den)
  else (num, den * Nat.pow 2 (-power).toNat)

/-- The power of two that a ratio lies at or above, and the next one above. -/
def binaryOrder (num den : Nat) : Int :=
  let guess : Int := (num.log2 : Int) - (den.log2 : Int)
  let scaled := scaleRatio num den (-guess)
  if scaled.1 < scaled.2 then guess - 1 else guess

namespace Double

/-- The exponent of the numbers closest to zero. -/
def leastExponent : Int := -1074

/-- The exponent of the largest finite numbers. -/
def mostExponent : Int := 971

/-- The least mantissa of a number that is not closest to zero: the power 2^52. -/
def leastNormal : Nat := 0x10000000000000

/-- The number of the format that is nearest to a ratio. -/
def nearest (negative : Bool) (num den : Nat) : Double :=
  if num = 0 then .finite negative 0 leastExponent
  else
    let exponent := max leastExponent (binaryOrder num den - 52)
    let scaled := scaleRatio num den (-exponent)
    let rounded := roundHalfEven scaled.1 scaled.2
    let (mantissa, exponent) :=
      if rounded = 2 * leastNormal then (leastNormal, exponent + 1) else (rounded, exponent)
    if mostExponent < exponent then .infinite negative else .finite negative mantissa exponent

/-- The number of the format that is nearest to `significand * 10 ^ power`.  Powers that are out
    of reach are not computed. -/
def ofDecimal (negative : Bool) (significand : Nat) (power : Int) : Double :=
  if significand = 0 then .finite negative 0 leastExponent
  else if 400 < power then .infinite negative
  else if power + (significand.log2 : Int) < -1200 then .finite negative 0 leastExponent
  else if 0 ≤ power then nearest negative (significand * Nat.pow 10 power.toNat) 1
  else nearest negative significand (Nat.pow 10 (-power).toNat)

/-- The size of a finite number, as a ratio. -/
def ratio (mantissa : Nat) (exponent : Int) : Nat × Nat := scaleRatio mantissa 1 exponent

/-- The same number with the other sign. -/
def negate : Double → Double
  | .finite negative m e => .finite (!negative) m e
  | .infinite negative => .infinite (!negative)
  | .nan => .nan

/-- Whether the number is zero, of either sign. -/
def isZero : Double → Bool
  | .finite _ m _ => m == 0
  | _ => false

/-- The product of two finite positive numbers. -/
def times : Double → Double → Double
  | .finite _ m e, .finite _ n f =>
    let a := ratio m e
    let b := ratio n f
    nearest false (a.1 * b.1) (a.2 * b.2)
  | _, _ => .nan

/-- The quotient of two finite positive numbers. -/
def dividedBy : Double → Double → Double
  | .finite _ m e, .finite _ n f =>
    let a := ratio m e
    let b := ratio n f
    nearest false (a.1 * b.2) (a.2 * b.1)
  | _, _ => .nan

end Double

end RouteLocalizer.Decimal
