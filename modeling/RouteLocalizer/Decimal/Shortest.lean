/-
  The FEWEST DIGITS that identify a floating-point number.

  The rationals that round to a number `mantissa * 2 ^ exponent` form an interval, from halfway to
  the neighbour below to halfway to the neighbour above; its ends belong to it exactly when the
  mantissa is even.  A decimal identifies the number when it lies in that interval.  For one digit,
  two digits and so on the two neighbours of the number on that decimal grid are tried; the first
  grid with a hit wins, and of two hits the nearer one.  Everything is compared in whole numbers.
-/
import RouteLocalizer.Decimal.Double

namespace RouteLocalizer.Decimal

/-- The decimal `digits * 10 ^ power`. -/
structure Scaled where
  digits : Nat
  power : Int
deriving DecidableEq, Repr

/-- The two sides of a comparison between `a * 10 ^ p` and `b * 2 ^ q`, free of fractions. -/
def crossed (a : Nat) (p : Int) (b : Nat) (q : Int) : Nat × Nat :=
  (a * Nat.pow 10 p.toNat * Nat.pow 2 (-q).toNat, b * Nat.pow 2 q.toNat * Nat.pow 10 (-p).toNat)

/-- Whether a decimal lies in the interval of the rationals that round to the number.  Below a
    power of two the neighbour is only half as far away. -/
def identifies (mantissa : Nat) (exponent : Int) (d : Scaled) : Bool :=
  let down := if mantissa = Double.leastNormal ∧ Double.leastExponent < exponent then 1 else 2
  let low := crossed d.digits d.power (4 * mantissa - down) (exponent - 2)
  let high := crossed d.digits d.power (4 * mantissa + 2) (exponent - 2)
  if mantissa % 2 = 0 then low.2 ≤ low.1 && high.1 ≤ high.2
  else low.2 < low.1 && high.1 < high.2

/-- The least power of ten above the number, from a guess that is not too large. -/
def decimalOrder (mantissa : Nat) (exponent : Int) : (tries : Nat) → (guess : Int) → Int
  | 0, guess => guess
  | tries + 1, guess =>
    let sides := crossed 1 guess mantissa exponent
    if sides.2 < sides.1 then guess else decimalOrder mantissa exponent tries (guess + 1)

/-- The largest multiple of a power of ten that is not above the number. -/
def multipleBelow (mantissa : Nat) (exponent power : Int) : Nat :=
  let sides := crossed 1 power mantissa exponent
  sides.2 / sides.1

/-- The nearer of the two neighbours on one decimal grid, among those that identify the number. -/
def onGrid (mantissa : Nat) (exponent power : Int) : Option Scaled :=
  let below : Scaled := ⟨multipleBelow mantissa exponent power, power⟩
  let above : Scaled := ⟨below.digits + 1, power⟩
  let middle := crossed (2 * below.digits + 1) power (2 * mantissa) exponent
  match identifies mantissa exponent below, identifies mantissa exponent above with
  | true, true =>
    if middle.2 < middle.1 then some below
    else if middle.1 < middle.2 then some above
    else if below.digits % 2 = 0 then some below else some above
  | true, false => some below
  | false, true => some above
  | false, false => none

/-- The first of the finer and finer grids that holds a decimal identifying the number. -/
def firstGrid (mantissa : Nat) (exponent : Int) : (grids : Nat) → (power : Int) → Option Scaled
  | 0, _ => none
  | grids + 1, power =>
    (onGrid mantissa exponent power).orElse fun _ =>
      firstGrid mantissa exponent grids (power - 1)

/-- Moves the zeros at the end of the digits into the power. -/
def stripZeros : (tries : Nat) → Scaled → Scaled
  | 0, d => d
  | tries + 1, d =>
    if d.digits ≠ 0 ∧ d.digits % 10 = 0 then stripZeros tries ⟨d.digits / 10, d.power + 1⟩ else d

/-- The exact decimal of the number. -/
def exactDecimal (mantissa : Nat) (exponent : Int) : Scaled :=
  if 0 ≤ exponent then ⟨mantissa * Nat.pow 2 exponent.toNat, 0⟩
  else ⟨mantissa * Nat.pow 5 (-exponent).toNat, exponent⟩

/-- The decimal with the fewest digits that identifies a positive finite number. -/
def shortest (mantissa : Nat) (exponent : Int) : Scaled :=
  let guess := ((mantissa.log2 : Int) + exponent) * 30103 / 100000
  let order := decimalOrder mantissa exponent 4 guess
  let found := (firstGrid mantissa exponent 17 (order - 1)).getD (exactDecimal mantissa exponent)
  stripZeros 20 found

end RouteLocalizer.Decimal
