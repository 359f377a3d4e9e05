/-
  READING a pattern from a CURSOR: what remains of it, and at which place that starts.

  A flag of patterns lets blanks and comments stand between their characters.  Whether it is set is
  part of the cursor, so a step that has to pass over them does so wherever it is taken.
-/
import RouteLocalizer.Pattern.Fault
import RouteLocalizer.Text.CharClass

namespace RouteLocalizer.Pattern

/-- How far a pattern is read. -/
structure Cursor where
  rest : Text
  place : Position := {}
  /-- Whether blanks and comments mean nothing. -/
  skipsBlanks : Bool := false

/-- What a reader answers: a value and the cursor behind it, or a fault. -/
abbrev Reading (α : Type) := Except Fault (α × Cursor)

namespace Cursor

variable (c : Cursor)

/-- Whether nothing remains. -/
def isAtEnd : Bool := c.rest.isEmpty

/-- The next character. -/
def head? : Option Char := c.rest.head?

/-- The cursor behind the next character. -/
def step : Cursor :=
  match c.rest with
  | [] => c
  | ch :: rest => { c with rest := rest, place := c.place.behind ch }

/-- The cursor behind the next characters. -/
def drop : (count : Nat) → Cursor → Cursor
  | 0, c => c
  | count + 1, c => drop count c.step

/-- The number of blanks and characters of comments that a text starts with. -/
def gapLength : (inComment : Bool) → Text → Nat
  | _, [] => 0
  | true, c :: rest => gapLength (c != '\n') rest + 1
  | false, c :: rest =>
    if Text.isBlank c then gapLength false rest + 1
    else if c = '#' then gapLength true rest + 1
    else 0

/-- The cursor behind blanks and comments, where they mean nothing. -/
def skip : Cursor := if c.skipsBlanks then c.drop (gapLength false c.rest) else c

/-- The cursor behind the next character, and behind blanks and comments where they mean
    nothing. -/
def next : Cursor := c.step.skip

/-- The cursor behind the whole pattern. -/
def atEnd : Cursor := c.drop c.rest.length

/-- The cursor behind blanks, whether they mean anything or not; `steps` bounds their number. -/
def behindBlanks : (steps : Nat) → Cursor → Cursor
  | 0, c => c
  | steps + 1, c => if c.head?.any Text.isBlank then behindBlanks steps c.step else c

/-- The stretch of the next character. -/
def charSpan : Span := ⟨c.place, c.step.place⟩

/-- The stretch from a place to the cursor. -/
def spanFrom (start : Position) : Span := ⟨start, c.place⟩

/-- The fault that stands at a stretch. -/
def fault {α : Type} (cause : Cause) (span : Span) : Except Fault α := .error ⟨cause, span, none⟩

/-- The first character behind blanks, of which one hash sign counts as one. -/
def behindGap : (isHashed : Bool) → Text → Option Char
  | _, [] => none
  | isHashed, c :: rest =>
    if Text.isBlank c then behindGap isHashed rest
    else if c = '#' ∧ !isHashed then behindGap true rest
    else some c

/-- The character behind the next one, and behind blanks where they mean nothing. -/
def second? : Option Char :=
  let rest := c.rest.drop 1
  if c.skipsBlanks then (behindGap false rest).or rest.head? else rest.head?

end Cursor

end RouteLocalizer.Pattern
