/-
  HEXADECIMAL digits, with letters of either case, and the characters whose code they spell.  The
  digits of every smaller base are among them.
-/
import RouteLocalizer.Text.Basic

namespace RouteLocalizer.Text

/-- The value of a hexadecimal digit. -/
def hexDigitValue (c : Char) : Option Nat :=
  if c.isDigit then some (c.toNat - '0'.toNat)
  else if 'a' ≤ c ∧ c ≤ 'f' then some (c.toNat - 'a'.toNat + 10)
  else if 'A' ≤ c ∧ c ≤ 'F' then some (c.toNat - 'A'.toNat + 10)
  else none

/-- The value of hexadecimal digits, and zero where there are none. -/
def hexNumber (digits : Text) : Option Nat :=
  digits.foldl (fun value c =>
    value.bind fun n => (hexDigitValue c).map fun d => 16 * n + d) (some 0)

/-- The value of digits in a base up to sixteen; there is at least one. -/
def digitsInBase (base : Nat) (digits : Text) : Option Nat :=
  if digits.isEmpty then none
  else digits.foldl (fun value c =>
    value.bind fun n =>
      (hexDigitValue c).bind fun d => if d < base then some (base * n + d) else none) (some 0)

/-- The number that the next `count` characters spell, all of them digits. -/
def readHex (count : Nat) (text : Text) : Option (Nat × Text) :=
  let digits := text.take count
  if digits.length < count then none
  else (hexNumber digits).map fun code => (code, text.drop count)

/-- The character of a code, if it is the code of one. -/
def charOfCode (code : Nat) : Option Char :=
  if code.isValidChar then some (Char.ofNat code) else none

/-- The character whose code the next `count` digits spell. -/
def readCode (count : Nat) (text : Text) : Option (Char × Text) :=
  (readHex count text).bind fun (code, rest) => (charOfCode code).map fun c => (c, rest)

end RouteLocalizer.Text
