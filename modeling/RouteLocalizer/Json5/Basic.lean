/-
  JSON5 as it is WRITTEN: what a text says by its grammar, before it is told what its numbers and
  strings mean.

  A number is its spelling, and a string, like the name of a member, is the list of its PIECES:
  characters and escapes.
-/
import RouteLocalizer.Text.Basic

namespace RouteLocalizer

namespace Json5

/-- A piece of a string or of a name. -/
inductive Piece where
  /-- A character that stands for itself. -/
  | literal (char : Char)
  /-- The letter of an escape. -/
  | letter (char : Char)
  /-- The escape of the character zero. -/
  | zero
  /-- The two digits of an escape. -/
  | pair (digits : Text)
  /-- The four digits of an escape. -/
  | code (digits : Text)
deriving DecidableEq, Repr

/-- How a piece is spelled, without the marks in front of it. -/
def Piece.spelling : Piece → Text
  | .literal c => [c]
  | .letter c => [c]
  | .zero => ['0']
  | .pair digits => digits
  | .code digits => digits

end Json5

/-- A JSON5 value as it is written. -/
inductive Json5 where
  | null
  | bool (value : Bool)
  | number (spelling : Text)
  | string (pieces : List Json5.Piece)
  | array (items : List Json5)
  | object (members : List (List Json5.Piece × Json5))

end RouteLocalizer
