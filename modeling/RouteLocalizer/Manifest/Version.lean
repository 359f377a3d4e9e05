/-
  The MAJOR VERSION that a version specifier asks for: the number behind the comparison signs at
  its start.  Tags, addresses and all else that has no number there have no major version.
-/
import RouteLocalizer.Text.Replacement

namespace RouteLocalizer.Manifest

open Text

/-- What may stand in front of the number. -/
def isComparison (c : Char) : Bool :=
  c == '^' || c == '~' || c == '=' || c == '>' || c == '<' || c == 'v' || c == ' '

/-- The major version of a specifier, if it is a 64-bit word. -/
def majorVersion (specifier : Text) : Option Nat :=
  let digits := ((trim specifier).dropWhile isComparison).takeWhile Char.isDigit
  if digits ≠ [] ∧ digitsValue digits < wordLimit then some (digitsValue digits) else none

end RouteLocalizer.Manifest
