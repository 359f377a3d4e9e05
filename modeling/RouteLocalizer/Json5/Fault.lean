/-
  Why a text is NO JSON5, and where.

  A text that does not follow the grammar is told about by what was MISSED: of all places at which a
  part of the grammar was looked for and not found, the furthest, and the parts that were looked for
  there.  A part that was missed counts even if another one was found in its place later on.

  A text that follows the grammar may still spell a number or a character that there is not.  The
  message about it names no place.
-/
import RouteLocalizer.Text.CharClass

namespace RouteLocalizer.Json5

open Text

/-- A part of the grammar that a message names. -/
inductive Part where
  | ending
  | array
  | boolean
  | shortEscape
  | literal
  | pairEscape
  | name
  | zeroEscape
  | null
  | number
  | object
  | string
  | codeEscape
deriving DecidableEq, Repr

namespace Part

/-- The parts, in the order in which a message names them. -/
def all : List Part :=
  [.ending, .array, .boolean, .shortEscape, .literal, .pairEscape, .name, .zeroEscape, .null,
   .number, .object, .string, .codeEscape]

/-- What a message calls a part. -/
def shown : Part → Text
  | .ending => "EOI"
  | .array => "array"
  | .boolean => "boolean"
  | .shortEscape => "char_escape_sequence"
  | .literal => "char_literal"
  | .pairEscape => "hex_escape_sequence"
  | .name => "identifier"
  | .zeroEscape => "nul_escape_sequence"
  | .null => "null"
  | .number => "number"
  | .object => "object"
  | .string => "string"
  | .codeEscape => "unicode_escape_sequence"

end Part

/-- The furthest place at which parts were missed, by the number of characters behind it. -/
structure Missed where
  unread : Nat
  parts : List Part := []
deriving DecidableEq, Repr

namespace Missed

/-- Takes note of a part that was missed in front of a number of characters. -/
def note (part : Part) (unread : Nat) (m : Missed) : Missed :=
  if unread < m.unread then ⟨unread, [part]⟩
  else if unread = m.unread then ⟨unread, part :: m.parts⟩
  else m

/-- The words of a list: with "or" between two of them, and commas where there are more. -/
def choice : List Text → Text
  | [] => []
  | [a] => a
  | [a, b] => a ++ " or " ++ b
  | words => joinWith ", " words.dropLast ++ ", or " ++ words.getLast?.getD []

/-- The line and the column behind a text.  A carriage return ends a line together with the line
    feed behind it, and alone it is a character like others. -/
def placeBehind : Text → (line column : Nat) → Nat × Nat
  | [], line, column => (line, column)
  | '\r' :: '\n' :: rest, line, _ => placeBehind rest (line + 1) 1
  | '\n' :: rest, line, _ => placeBehind rest (line + 1) 1
  | _ :: rest, line, column => placeBehind rest line (column + 1)

/-- The line around a place, with the line feed at its end. -/
def lineAround (before after : Text) : Text :=
  let start := (before.reverse.takeWhile (· != '\n')).reverse
  let ending := after.takeWhile (· != '\n')
  start ++ ending ++ (after.drop ending.length).take 1

/-- A line as a message shows it.  The characters that end it are seen only if the message is about
    one of them. -/
def shownLine (before after : Text) : Text :=
  let line := lineAround before after
  if after.head?.any isLineEnd then
    line.map fun c => if c = '\r' then '␍' else if c = '\n' then '␊' else c
  else line.filter fun c => !isLineEnd c

/-- The message about what was missed in a text. -/
def message (text : Text) (m : Missed) : Text :=
  let before := text.take (text.length - m.unread)
  let after := text.drop (text.length - m.unread)
  let (line, column) := placeBehind before 1 1
  let shown := shownLine before after
  let number := ofNat line
  let margin : Text := List.replicate number.length ' '
  let space := (shown.take (column - 1)).map fun c => if c = '\t' then c else ' '
  let parts := (Part.all.filter m.parts.elem).map Part.shown
  joinWith ['\n']
    [margin ++ "--> " ++ number ++ ":" ++ ofNat column,
     margin ++ " |",
     number ++ " | " ++ shown,
     margin ++ " | " ++ space ++ "^---",
     margin ++ " |",
     margin ++ " = expected " ++ choice parts]

end Missed

/-- What is wrong with a number or a character that a text spells. -/
inductive Reason where
  | hexadecimal
  | integer
  | number
  | tooLarge
  /-- The second half of a pair of codes stands without the first. -/
  | loneTrail
  /-- Nothing stands behind the first half of a pair of codes. -/
  | missingTrail
  /-- What stands behind the first half of a pair of codes is not the second. -/
  | otherTrail
deriving DecidableEq, Repr

/-- What a reason says. -/
def Reason.message : Reason → Text
  | .hexadecimal => "error parsing hex"
  | .integer => "error parsing integer"
  | .number => "error parsing number"
  | .tooLarge => "error parsing number: too large"
  | .loneTrail => "unexpected unicode trail surrogate"
  | .missingTrail => "missing unicode trail surrogate"
  | .otherTrail => "expecting unicode trail surrogate"

/-- What is wrong with a text that should be JSON5. -/
inductive Fault where
  | missed (missed : Missed)
  | meaning (reason : Reason)
deriving DecidableEq, Repr

/-- What a fault in the given text says. -/
def Fault.message (text : Text) : Fault → Text
  | .missed m => m.message text
  | .meaning reason => reason.message

end RouteLocalizer.Json5
