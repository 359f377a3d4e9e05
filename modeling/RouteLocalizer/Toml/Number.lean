/-
  NUMBERS of TOML.

  Digits may be grouped by underscores, each of them between two digits.  A whole number is decimal,
  hexadecimal, octal or binary and fits a 64-bit word with a sign.  A number with a fraction or an
  exponent is rounded to the nearest one of the floating-point format; one that is too large for it
  is no number, unless it is negative.
-/
import RouteLocalizer.Toml.Quoted
import RouteLocalizer.Decimal.Notation

namespace RouteLocalizer.Toml.Reader

open Text Decimal

/-- Digits of a class, in groups; answers them without the underscores. -/
def grouped (p : Char → Bool) : Text → Text × Text
  | [] => ([], [])
  | c :: rest =>
    if p c then (c :: (grouped p rest).1, (grouped p rest).2)
    else if c = '_' ∧ rest.head?.any p then grouped p rest
    else ([], c :: rest)

/-- At least one digit, in groups. -/
def digits (p : Char → Bool) (text : Text) : Reading Text :=
  if text.head?.any p then some (grouped p text) else none

/-- The value of digits in a base. -/
def inBase (base : Nat) (ds : Text) : Int :=
  ds.foldl (fun (n : Int) c => base * n + ((hexDigitValue c).getD 0 : Nat)) 0

/-- A whole number, if it fits a 64-bit word. -/
def word (value : Int) (rest : Text) : Reading Toml :=
  if fitsWord value then some (.integer value, rest) else none

/-- A whole number behind the mark of its base. -/
def based (base : Nat) (text : Text) : Reading Toml :=
  (digits (fun c => (hexDigitValue c).any (· < base)) text).bind fun (ds, rest) =>
    word (inBase base ds) rest

/-- The digits before the fraction: no zero stands in front of others. -/
def wholePart (text : Text) : Reading Text :=
  match text with
  | '0' :: rest => some (['0'], rest)
  | _ => digits Char.isDigit text

/-- The exponent behind its letter. -/
def exponent (text : Text) : Reading Int :=
  let (negative, text) := readSign text
  (digits Char.isDigit text).map fun (ds, rest) =>
    let size : Int := digitsValue ds
    (if negative then -size else size, rest)

/-- A number of the floating-point format, from its digits and the power of ten. -/
def rounded (negative : Bool) (ds : Text) (power : Int) (rest : Text) : Reading Toml :=
  match Double.ofDecimal negative (digitsValue ds) power with
  | .infinite false => none
  | value => some (.double value, rest)

/-- Whether a text starts with the mark of an exponent. -/
def startsExponent (text : Text) : Bool := text.head? == some 'e' || text.head? == some 'E'

/-- What follows the digits of a number that is not whole: perhaps an exponent. -/
def afterFraction (negative : Bool) (ds : Text) (places : Nat) (text : Text) : Reading Toml :=
  if startsExponent text then
    (exponent (text.drop 1)).bind fun (power, rest) => rounded negative ds (power - places) rest
  else rounded negative ds (-places) text

/-- A decimal number behind its sign. -/
def decimal (negative : Bool) (text : Text) : Reading Toml :=
  (wholePart text).bind fun (whole, rest) =>
    match rest with
    | '.' :: rest =>
      (digits Char.isDigit rest).bind fun (fraction, rest) =>
        afterFraction negative (whole ++ fraction) fraction.length rest
    | _ =>
      if startsExponent rest then afterFraction negative whole 0 rest
      else
        let size : Int := digitsValue whole
        word (if negative then -size else size) rest

/-- A number. -/
def number (text : Text) : Reading Toml :=
  match text with
  | '0' :: 'x' :: rest => based 16 rest
  | '0' :: 'o' :: rest => based 8 rest
  | '0' :: 'b' :: rest => based 2 rest
  | _ =>
    let (negative, size) := readSign text
    match size with
    | 'i' :: 'n' :: 'f' :: rest => some (.double (.infinite negative), rest)
    | 'n' :: 'a' :: 'n' :: rest => some (.double .nan, rest)
    | _ => decimal negative size

end RouteLocalizer.Toml.Reader
