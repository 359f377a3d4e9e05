/-
  How a floating-point number is WRITTEN, and how numerals are READ.

  A `Notation` holds the decisions of one written form: up to which order a number is written
  positionally, and what a whole number ends with.  The forms in use are the one of manifests, with
  an exponent outside 10^-5 to 10^16, and those of settings and of messages on them, without
  exponents.

  `readInteger` and `readDouble` read the numerals of settings.  A value is rounded once, from the
  exact decimal.
-/
import RouteLocalizer.Text.Replacement
import RouteLocalizer.Decimal.Shortest

namespace RouteLocalizer.Decimal

open Text

/-- The decisions of a written form. -/
structure Notation where
  /-- Whether a number is written without an exponent, by the place of its decimal point: how many
      digits stand before it, or how many zeros behind it, negated. -/
  isPositional : Int → Bool
  /-- What stands behind the digits of a whole number. -/
  wholeEnding : Text

namespace Notation

/-- The form of manifests. -/
def manifest : Notation := ⟨fun point => -5 < point && point ≤ 16, ".0"⟩

/-- The form of settings. -/
def plain : Notation := ⟨fun _ => true, ""⟩

/-- The form of messages on settings. -/
def pointed : Notation := ⟨fun _ => true, ".0"⟩

/-- A text of zeros. -/
def zeros (n : Nat) : Text := List.replicate n '0'

/-- Writes digits without an exponent; the decimal point stands behind `point` of them. -/
def positional (form : Notation) (digits : Text) (point : Int) : Text :=
  if point ≤ 0 then "0." ++ zeros (-point).toNat ++ digits
  else if digits.length ≤ point.toNat then
    digits ++ zeros (point.toNat - digits.length) ++ form.wholeEnding
  else digits.take point.toNat ++ "." ++ digits.drop point.toNat

/-- Writes digits with an exponent, one digit before the decimal point. -/
def scientific (digits : Text) (point : Int) : Text :=
  let exponent := point - 1
  let sign : Text := if exponent < 0 then "e-" else "e+"
  let fraction : Text := if digits.length ≤ 1 then [] else '.' :: digits.drop 1
  digits.take 1 ++ fraction ++ sign ++ ofNat exponent.natAbs

/-- Writes a number with the fewest digits that identify it. -/
def write (form : Notation) : Double → Text
  | .finite negative mantissa exponent =>
    let sign : Text := if negative then "-" else ""
    if mantissa = 0 then sign ++ "0" ++ form.wholeEnding
    else
      let d := shortest mantissa exponent
      let digits := ofNat d.digits
      let point := d.power + digits.length
      sign ++ (if form.isPositional point then form.positional digits point
        else scientific digits point)
  | .infinite negative => if negative then "-inf" else "inf"
  | .nan => "NaN"

end Notation

/-! ## Reading numerals -/

/-- A sign in front of a numeral, and what follows it; the sign is negative or not. -/
def readSign : Text → Bool × Text
  | '-' :: rest => (true, rest)
  | '+' :: rest => (false, rest)
  | text => (false, text)

/-- Whether an integer is a 64-bit word with a sign. -/
def fitsWord (i : Int) : Bool := -0x8000000000000000 ≤ i && i < 0x8000000000000000

/-- An integer in decimal digits, with or without a sign, that fits a 64-bit word. -/
def readInteger (text : Text) : Option Int :=
  let (negative, digits) := readSign text
  if digits.isEmpty || !digits.all Char.isDigit then none
  else
    let size : Int := digitsValue digits
    let value := if negative then -size else size
    if fitsWord value then some value else none

/-- The exponent part of a numeral, and nothing else. -/
def readExponent : Text → Option Int
  | [] => some 0
  | c :: rest =>
    if c == 'e' || c == 'E' then
      let (negative, digits) := readSign rest
      if digits.isEmpty || !digits.all Char.isDigit then none
      else
        let size : Int := digitsValue digits
        some (if negative then -size else size)
    else none

/-- A decimal fraction with or without an exponent, rounded to the nearest number. -/
def readFraction (negative : Bool) (text : Text) : Option Double :=
  let whole := text.takeWhile Char.isDigit
  let rest := text.dropWhile Char.isDigit
  let (fraction, rest) := match rest with
    | '.' :: rest => (rest.takeWhile Char.isDigit, rest.dropWhile Char.isDigit)
    | rest => ([], rest)
  if whole.isEmpty && fraction.isEmpty then none
  else (readExponent rest).map fun power =>
    Double.ofDecimal negative (digitsValue (whole ++ fraction)) (power - fraction.length)

/-- A floating-point numeral: a fraction, or one of the words for what no fraction can say. -/
def readDouble (text : Text) : Option Double :=
  let (negative, size) := readSign text
  match toLowerAscii size with
  | ['i', 'n', 'f'] => some (.infinite negative)
  | ['i', 'n', 'f', 'i', 'n', 'i', 't', 'y'] => some (.infinite negative)
  | ['n', 'a', 'n'] => some .nan
  | _ => readFraction negative size

end RouteLocalizer.Decimal
