/-
  WRITING JSON, the way manifests are written: one member or item a line, two spaces deeper than
  the bracket around it, and empty brackets closed at once.

  A string escapes the quote, the backslash and the characters below the space, the latter by a
  letter where there is one; every other character stands for itself.
-/
import RouteLocalizer.Json.Basic
import RouteLocalizer.Decimal.Notation

namespace RouteLocalizer.Json

open Text Decimal

/-- A hexadecimal digit in small letters. -/
def hexDigit (n : Nat) : Char :=
  if n < 10 then Char.ofNat ('0'.toNat + n) else Char.ofNat ('a'.toNat + (n - 10))

/-- How a character stands in a string. -/
def escaped (c : Char) : Text :=
  if c = '"' then ['\\', '"']
  else if c = '\\' then ['\\', '\\']
  else if c = '\x08' then ['\\', 'b']
  else if c = '\x0c' then ['\\', 'f']
  else if c = '\n' then ['\\', 'n']
  else if c = '\r' then ['\\', 'r']
  else if c = '\t' then ['\\', 't']
  else if c.toNat < 0x20 then
    ['\\', 'u', '0', '0', hexDigit (c.toNat / 16), hexDigit (c.toNat % 16)]
  else [c]

/-- A string in quotes. -/
def quoted (text : Text) : Text := '"' :: text.flatMap escaped ++ ['"']

/-- The indentation of a level. -/
def indentation (level : Nat) : Text := List.replicate (2 * level) ' '

/-- What stands behind an item or a member: a comma unless it is the last one, and a line end. -/
def lineBreak (isLast : Bool) : Text := if isLast then ['\n'] else [',', '\n']

mutual

/-- Writes a value whose brackets stand on the given level. -/
def print (level : Nat) : Json → Text
  | .null => "null"
  | .bool true => "true"
  | .bool false => "false"
  | .whole i => ofInt i
  | .double f => Notation.manifest.write f
  | .string text => quoted text
  | .array [] => "[]"
  | .array (v :: vs) =>
    '[' :: '\n' :: printItems (level + 1) (v :: vs) ++ indentation level ++ [']']
  | .object [] => ['\x7b', '\x7d']
  | .object (m :: ms) =>
    '\x7b' :: '\n' :: printMembers (level + 1) (m :: ms) ++ indentation level ++ ['\x7d']

/-- Writes the items of an array, one a line. -/
def printItems (level : Nat) : List Json → Text
  | [] => []
  | v :: vs => indentation level ++ print level v ++ lineBreak vs.isEmpty ++ printItems level vs

/-- Writes the members of an object, one a line. -/
def printMembers (level : Nat) : List (Text × Json) → Text
  | [] => []
  | (n, v) :: ms =>
    indentation level ++ quoted n ++ [':', ' '] ++ print level v ++ lineBreak ms.isEmpty ++
      printMembers level ms

end

/-- The text of a value. -/
def toText (value : Json) : Text := print 0 value

end RouteLocalizer.Json
