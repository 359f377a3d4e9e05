/-
  TOML VALUES, the values that a settings file can hold.

  A date or a time is kept as the text that shows it.  The entries of a table stand in the order in
  which they were defined, and no two of them have one name.
-/
import RouteLocalizer.Text.Basic
import RouteLocalizer.Decimal.Double

namespace RouteLocalizer

/-- A TOML value. -/
inductive Toml where
  | boolean (value : Bool)
  | integer (value : Int)
  | double (value : Decimal.Double)
  | string (value : Text)
  /-- A date, a time, or both. -/
  | moment (shown : Text)
  | array (items : List Toml)
  | table (entries : List (Text × Toml))

namespace Toml

namespace Reader

/-- What a reader answers: a value and the text behind it, or nothing when the text is not what
    the reader looks for. -/
abbrev Reading (α : Type) := Option (α × Text)

/-- A space or a tab: the only white space within a line. -/
def skipSpace (text : Text) : Text := text.dropWhile fun c => c == ' ' || c == '\t'

/-- The text behind a line end. -/
def lineEnd : Text → Option Text
  | '\n' :: rest => some rest
  | '\r' :: '\n' :: rest => some rest
  | _ => none

/-- Whether a character may stand in a comment and, quotes and backslashes apart, in a string. -/
def isPrintable (c : Char) : Bool := c == '\t' || (0x20 ≤ c.toNat && c.toNat != 0x7F)

/-- The text behind a comment, if there is one. -/
def skipComment (text : Text) : Text :=
  match text with
  | '#' :: rest => rest.dropWhile isPrintable
  | _ => text

end Reader

end Toml

end RouteLocalizer
