/-
  REPLACEMENT PATTERNS: what a find is replaced with, written with references to its parts.

  A dollar sign starts a reference.  Two of them stand for one dollar sign; a name in braces, or
  the longest run of letters, digits and underscores, refers to a part of the find; a dollar sign
  with neither behind it stands for itself.  A name that reads as a number refers to the part of
  that number, where part 0 is the whole find.  Parts that do not exist are empty, and since parts
  carry no names, so is every other name.
-/
import RouteLocalizer.Text.CharClass

namespace RouteLocalizer.Text

/-- A character of a name that a reference may have without braces. -/
def isReferenceChar (c : Char) : Bool := c.isAlphanum || c == '_'

/-- The number that a decimal numeral of ASCII digits stands for. -/
def digitsValue (digits : Text) : Nat :=
  digits.foldl (fun n c => 10 * n + (c.toNat - '0'.toNat)) 0

/-- The number of a part that a name stands for: a machine word in digits, with or without a plus
    sign. -/
def partNumber (name : Text) : Option Nat :=
  let digits := match name with
    | '+' :: rest => rest
    | _ => name
  if digits ≠ [] ∧ digits.all Char.isDigit ∧ digitsValue digits < wordLimit then
    some (digitsValue digits)
  else none

/-- The name of the reference that starts behind a dollar sign, and the number of characters that
    the reference takes there. -/
def readReference : Text → Option (Text × Nat)
  | '\x7b' :: rest =>
    if rest.elem '\x7d' then
      let name := rest.takeWhile (· != '\x7d')
      some (name, name.length + 2)
    else none
  | text =>
    let name := text.takeWhile isReferenceChar
    if name.isEmpty then none else some (name, name.length)

/-- Fills in the parts of a find.  `skip` counts the characters that still belong to the reference
    before. -/
def fillFrom (part : Nat → Text) (skip : Nat) : Text → Text
  | [] => []
  | c :: cs =>
    match skip with
    | k + 1 => fillFrom part k cs
    | 0 =>
      if c = '$' then
        if cs.head? = some '$' then '$' :: fillFrom part 1 cs
        else match readReference cs with
          | some (name, taken) => ((partNumber name).map part).getD [] ++ fillFrom part taken cs
          | none => '$' :: fillFrom part 0 cs
      else c :: fillFrom part 0 cs

/-- The pattern with the parts of a find filled in. -/
def fillPattern (part : Nat → Text) (pattern : Text) : Text := fillFrom part 0 pattern

end RouteLocalizer.Text
