/-
  READING PATTERNS.

  A pattern is read character by character.  What is open, the groups from the outer to the inner
  ones, is kept in a draft; of each of them the branches that are complete and the parts of the
  branch that is being read.  A pattern is complete when its text ends and no group is open.
-/
import RouteLocalizer.Pattern.Class
import RouteLocalizer.Pattern.Group
import RouteLocalizer.Text.Replacement

namespace RouteLocalizer.Pattern

open Cursor

/-- What is read of a group, or of the whole pattern. -/
structure Level where
  /-- Where the first branch starts. -/
  start : Position
  /-- The complete branches, from last to first. -/
  branches : List Pattern := []
  /-- Where the branch starts that is being read. -/
  branchStart : Position
  /-- The parts of that branch, from last to first. -/
  parts : List Pattern := []

namespace Level

/-- A level of which nothing is read. -/
def startingAt (place : Position) : Level := { start := place, branchStart := place }

/-- The branch that is being read, as it is when it ends at a place. -/
def branch (l : Level) (stop : Position) : Pattern :=
  match l.parts with
  | [] => .empty ⟨l.branchStart, stop⟩
  | [part] => part
  | parts => .concatenation ⟨l.branchStart, stop⟩ parts.reverse

/-- All branches, as they are when the level ends at a place. -/
def value (l : Level) (stop : Position) : Pattern :=
  match l.branches with
  | [] => l.branch stop
  | branches => .alternation ⟨l.start, stop⟩ (l.branch stop :: branches).reverse

/-- The level with one more part. -/
def push (l : Level) (part : Pattern) : Level := { l with parts := part :: l.parts }

end Level

/-- A group that is not closed yet. -/
structure OpenGroup where
  /-- The stretch of its parenthesis. -/
  span : Span
  flags : List FlagItem
  /-- Whether blanks mean nothing behind the group. -/
  skipsBlanks : Bool
  /-- What is read around the group. -/
  around : Level

/-- A pattern, as far as it is read. -/
structure Draft where
  cursor : Cursor
  /-- The names of groups, and where they stand. -/
  names : List (Text × Span) := []
  /-- The open groups, from the inner to the outer ones. -/
  groups : List OpenGroup := []
  /-- What is read of the innermost group. -/
  level : Level

namespace Draft

variable (d : Draft)

/-- The draft with one more part, behind which a cursor stands. -/
def push (part : Pattern) (behind : Cursor) : Draft :=
  { d with cursor := behind, level := d.level.push part }

/-- The draft with the next part that a reader reads. -/
def read (reader : Cursor → Reading Pattern) : Except Fault Draft :=
  (reader d.cursor).map fun (part, behind) => d.push part behind

/-- Reads an opening parenthesis. -/
def openGroup : Except Fault Draft := do
  let paren := d.cursor.charSpan
  match ← readOpening d.names d.cursor with
  | (.flags items span, behind) =>
    let skips := (flagState 'x' items).getD behind.skipsBlanks
    return d.push (.flags span items) { behind with skipsBlanks := skips }
  | (.group items name, behind) =>
    let skips := (flagState 'x' items).getD behind.skipsBlanks
    return {
      cursor := { behind with skipsBlanks := skips }
      names := name.toList ++ d.names
      groups := ⟨paren, items, behind.skipsBlanks, d.level⟩ :: d.groups
      level := .startingAt behind.place }

/-- Reads a closing parenthesis. -/
def closeGroup : Except Fault Draft :=
  match d.groups with
  | [] => fault .groupUnopened d.cursor.charSpan
  | g :: groups =>
    let behind := { d.cursor.step with skipsBlanks := g.skipsBlanks }
    let inner := d.level.value d.cursor.place
    .ok { d with
      cursor := behind
      groups := groups
      level := g.around.push (.group (behind.spanFrom g.span.start) g.flags inner) }

/-- Reads a bar between two branches. -/
def startBranch : Draft :=
  let behind := d.cursor.step
  { d with
    cursor := behind
    level := { d.level with
      branches := d.level.branch d.cursor.place :: d.level.branches
      branchStart := behind.place
      parts := [] } }

/-- The part that can be repeated here, and the parts in front of it. -/
def repeatable : Except Fault (Pattern × List Pattern) :=
  match d.level.parts with
  | [] => fault .repetitionMissing d.cursor.place.span
  | .flags _ _ :: _ => fault .repetitionMissing d.cursor.place.span
  | part :: parts => .ok (part, parts)

/-- Reads a sign that repeats a part, and the question mark that may follow. -/
def repeatPart : Except Fault Draft := do
  let (part, parts) ← d.repeatable
  let sign := d.cursor.step
  let behind := if sign.head? = some '?' then sign.step else sign
  let whole := Pattern.repetition (behind.spanFrom part.span.start) part
  return { d with cursor := behind, level := { d.level with parts := whole :: parts } }

/-- The digits of a count, and the cursor behind them; `steps` bounds their number. -/
def countDigits : (steps : Nat) → Cursor → Text × Cursor
  | 0, c => ([], c)
  | steps + 1, c =>
    match c.head? with
    | none => ([], c)
    | some ch =>
      if ch.isDigit then
        let (digits, behind) := countDigits steps c.next
        (ch :: digits, behind)
      else ([], c)

/-- The cursor behind the blanks that follow a count; `steps` bounds their number. -/
def behindCount : (steps : Nat) → Cursor → Cursor
  | 0, c => c
  | steps + 1, c => if c.head?.any Text.isBlank then behindCount steps c.next else c

/-- The first number that is too large for a count. -/
def countLimit : Nat := 0x100000000

/-- What is wrong with a count in braces: that there is none, that it is too large, or that the
    brace is not closed, which it never is in a log filter. -/
def countFault (c : Cursor) : Fault :=
  let inside := c.next
  if inside.isAtEnd then ⟨.countUnclosed, inside.spanFrom c.place, none⟩
  else
    let start := behindBlanks inside.rest.length inside
    let (digits, stop) := countDigits start.rest.length start
    let behind := behindCount stop.rest.length stop
    let span := stop.spanFrom start.place
    if behind.isAtEnd then ⟨.countUnclosed, behind.spanFrom c.place, none⟩
    else if digits.isEmpty then ⟨.countMissing, span, none⟩
    else if countLimit ≤ Text.digitsValue digits then ⟨.countInvalid, span, none⟩
    else ⟨.countUnclosed, behind.spanFrom c.place, none⟩

/-- Reads an opening brace, which is always faulty. -/
def countPart : Except Fault Draft :=
  match d.repeatable with
  | .error f => .error f
  | .ok _ => .error (countFault d.cursor)

/-- Reads what the next character starts. -/
def readNext (ch : Char) : Except Fault Draft :=
  let single := fun (part : Pattern) => Except.ok (d.push part d.cursor.step)
  match ch with
  | '(' => d.openGroup
  | ')' => d.closeGroup
  | '|' => .ok d.startBranch
  | '[' => d.read readClass
  | '?' => d.repeatPart
  | '*' => d.repeatPart
  | '+' => d.repeatPart
  | '\x7b' => d.countPart
  | '\\' => d.read readEscape
  | '.' => single (.dot d.cursor.charSpan)
  | '^' => single (.assertion d.cursor.charSpan false)
  | '$' => single (.assertion d.cursor.charSpan false)
  | ch => single (.literal ⟨d.cursor.charSpan, ch, false⟩)

/-- The pattern, once all of it is read. -/
def finish : Except Fault Pattern :=
  match d.groups with
  | [] => .ok (d.level.value d.cursor.place)
  | g :: _ => fault .groupUnclosed g.span

/-- Reads the rest of a pattern; `steps` bounds the number of its parts. -/
def readRest : (steps : Nat) → Draft → Except Fault Pattern
  | 0, d => d.finish
  | steps + 1, d =>
    let d := { d with cursor := d.cursor.skip }
    match d.cursor.head? with
    | none => d.finish
    | some ch =>
      match d.readNext ch with
      | .error f => .error f
      | .ok d => readRest steps d

end Draft

/-- The pattern that a text spells. -/
def read (text : Text) : Except Fault Pattern :=
  Draft.readRest (text.length + 1) { cursor := { rest := text }, level := .startingAt {} }

end RouteLocalizer.Pattern
