/-
  The FAULTS of patterns, and how a message shows them.

  A fault is its cause and where it stands; a thing that must not be there twice also knows where it
  stood first.  A message shows the lines of the pattern with marks below the faulty characters.  A
  pattern of one line is indented, the lines of others are numbered, and of a stretch that goes over
  lines only its ends are named.
-/
import RouteLocalizer.Pattern.Basic

namespace RouteLocalizer.Pattern

/-- What can be wrong with a pattern. -/
inductive Cause where
  | classEscapeInvalid
  | classRangeInvalid
  | classRangeLiteral
  | classUnclosed
  | countInvalid
  | countMissing
  | countUnclosed
  | repetitionMissing
  | codeInvalid
  | codeDigitInvalid
  | escapeAtEnd
  | escapeUnknown
  | flagNegationDangling
  | flagNegationRepeated
  | flagRepeated
  | flagAtEnd
  | flagUnknown
  | nameRepeated
  | nameEmpty
  | nameInvalid
  | nameUnclosed
  | groupUnclosed
  | groupUnopened
  | tooDeep
  | boundaryUnclosed
  | boundaryAtEnd
  | propertyInvalid
  | backreference
  | lookAround
  /-- A Unicode class or a character outside ASCII where only bytes are meant. -/
  | unicodeNotAllowed
  /-- Something that matches single bytes of a longer character. -/
  | notText
  | propertyUnknown
deriving DecidableEq, Repr

/-- The most levels that a pattern may nest. -/
def mostLevels : Nat := 250

/-- What is said of a cause. -/
def Cause.message : Cause → Text
  | .classEscapeInvalid => "invalid escape sequence found in character class"
  | .classRangeInvalid => "invalid character class range, the start must be <= the end"
  | .classRangeLiteral => "invalid range boundary, must be a literal"
  | .classUnclosed => "unclosed character class"
  | .countInvalid => "decimal literal invalid"
  | .countMissing => "repetition quantifier expects a valid decimal"
  | .countUnclosed => "unclosed counted repetition"
  | .repetitionMissing => "repetition operator missing expression"
  | .codeInvalid => "hexadecimal literal is not a Unicode scalar value"
  | .codeDigitInvalid => "invalid hexadecimal digit"
  | .escapeAtEnd => "incomplete escape sequence, reached end of pattern prematurely"
  | .escapeUnknown => "unrecognized escape sequence"
  | .flagNegationDangling => "dangling flag negation operator"
  | .flagNegationRepeated => "flag negation operator repeated"
  | .flagRepeated => "duplicate flag"
  | .flagAtEnd => "expected flag but got end of regex"
  | .flagUnknown => "unrecognized flag"
  | .nameRepeated => "duplicate capture group name"
  | .nameEmpty => "empty capture group name"
  | .nameInvalid => "invalid capture group character"
  | .nameUnclosed => "unclosed capture group name"
  | .groupUnclosed => "unclosed group"
  | .groupUnopened => "unopened group"
  | .tooDeep =>
    "exceed the maximum number of nested parentheses/brackets (" ++ Text.ofNat mostLevels ++ ")"
  | .boundaryUnclosed =>
    "special word boundary assertion is either unclosed or contains an invalid character"
  | .boundaryAtEnd =>
    "found either the beginning of a special word boundary or a bounded repetition on a \\b " ++
      "with an opening brace, but no closing brace"
  | .propertyInvalid => "invalid Unicode character class"
  | .backreference => "backreferences are not supported"
  | .lookAround => "look-around, including look-ahead and look-behind, is not supported"
  | .unicodeNotAllowed => "Unicode not allowed here"
  | .notText => "pattern can match invalid UTF-8"
  | .propertyUnknown => "Unicode property not found"

/-- What is wrong with a pattern, and where. -/
structure Fault where
  cause : Cause
  span : Span
  /-- Where the thing stood first that stands at the span again. -/
  first : Option Span := none
deriving DecidableEq, Repr

/-! ## Messages -/

namespace Fault

/-- A line without the carriage return in front of its line feed. -/
def withoutReturn (line : Text) : Text :=
  if line.getLast? = some '\r' then line.dropLast else line

/-- The lines of a pattern.  Behind a line feed at its end there is none. -/
def patternLines (pattern : Text) : List Text :=
  let pieces := Text.pieces '\n' pattern
  pieces.dropLast.map withoutReturn ++ pieces.getLast?.toList.filter fun line => !line.isEmpty

/-- Marks below the stretches of one line, behind the marks for so many columns. -/
def marksBehind (columns : Nat) : List Span → Text
  | [] => []
  | s :: rest =>
    let gap := s.start.column - 1 - columns
    let length := max 1 (s.stop.column - s.start.column)
    List.replicate gap ' ' ++ List.replicate length '^' ++
      marksBehind (columns + gap + length) rest

/-- The stretches that a fault is about, from left to right. -/
def spans (f : Fault) : List Span := f.first.toList ++ [f.span]

/-- The line of marks below a line, if there are any; `indent` stands in front of it. -/
def markLine (f : Fault) (indent : Nat) (line : Nat) : Text :=
  let here := f.spans.filter fun s => s.start.line = line && s.stop.line = line
  if here.isEmpty then []
  else List.replicate indent ' ' ++ marksBehind 0 here ++ ['\n']

/-- The lines from a number on, with what stands in front of each and with the marks below. -/
def markedFrom (f : Fault) (label : Nat → Text) (number : Nat) : List Text → Text
  | [] => []
  | line :: rest =>
    label number ++ line ++ ['\n'] ++ f.markLine (label number).length number ++
      markedFrom f label (number + 1) rest

/-- What is said of a stretch that goes over lines. -/
def endsNote (s : Span) : Text :=
  "on line " ++ Text.ofNat s.start.line ++ " (column " ++ Text.ofNat s.start.column ++
    ") through line " ++ Text.ofNat s.stop.line ++ " (column " ++
    Text.ofNat (s.stop.column - 1) ++ ")\n"

/-- The line above and below a pattern of several lines. -/
def divider : Text := List.replicate 79 '~' ++ ['\n']

/-- The pattern with the marks of a fault. -/
def marked (pattern : Text) (f : Fault) : Text :=
  let lines := patternLines pattern
  if pattern.elem '\n' then
    let last := if pattern.getLast? = some '\n' then lines.length + 1 else lines.length
    let width := (Text.ofNat last).length
    let label := fun number => Text.padLeft width (Text.ofNat number) ++ ": "
    let notes := (f.spans.filter fun s => s.start.line ≠ s.stop.line).flatMap endsNote
    divider ++ f.markedFrom label 1 lines ++ divider ++ notes
  else f.markedFrom (fun _ => "    ") 1 lines

/-- The message about a fault of a pattern. -/
def message (pattern : Text) (f : Fault) : Text :=
  "regex parse error:\n" ++ f.marked pattern ++ "error: " ++ f.cause.message

end Fault

end RouteLocalizer.Pattern
