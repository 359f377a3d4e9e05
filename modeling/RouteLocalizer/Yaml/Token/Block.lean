/-
  BLOCKS of lines that are a scalar of YAML.

  Behind its mark a block may say how much deeper its lines are indented and what is to become of
  the line ends behind the last one: they are stripped, kept, or all of them are one.  Where it does
  not say how deep its lines stand, the deepest of the lines up to the first one with something on
  it says so.  A FOLDED block counts a single end of a line as a space, except around lines that
  start with white space.

  On a line of a block the characters that had been looked at before count one by one in a place,
  and those behind them by their bytes.
-/
import RouteLocalizer.Yaml.Token.Quoted

namespace RouteLocalizer.Yaml

open Text

/-- What becomes of the ends of lines behind a block. -/
inductive Chomping where
  | strip
  | clip
  | keep
deriving DecidableEq, Repr

/-- A block as far as it is read. -/
structure BlockText where
  text : Text := []
  /-- Whether the last line has an end. -/
  isEnded : Bool := false
  /-- How many empty lines stand behind it. -/
  more : Nat := 0
  /-- Whether it starts with white space. -/
  isLoose : Bool := false

namespace BlockText

/-- The text up to a line, which starts with white space or not. -/
def join (isFolded startsLoose : Bool) (b : BlockText) : Text :=
  let breaks := List.replicate b.more '\n'
  if isFolded && b.isEnded && !b.isLoose && !startsLoose then
    b.text ++ (if b.more = 0 then [' '] else breaks)
  else b.text ++ (if b.isEnded then ['\n'] else []) ++ breaks

end BlockText

namespace Cursor

/-- The cursor behind characters of a line of a block. -/
def behindBlockLine (line : Text) (c : Cursor) : Cursor :=
  let size := min c.window line.length + byteSize (line.drop c.window)
  { c with
    rest := c.rest.drop line.length
    window := max 1 (c.window - line.length)
    place := { c.place with index := c.place.index + size, column := c.place.column + size } }

end Cursor

namespace Scan

/-- How many of the next characters are looked at where the lines of a block are indented. -/
def blockWindow : Nat := 16

/-- How a block is chomped, if its next character says so. -/
def chomping : Scan (Option Chomping) := do
  let c ← peek
  if c = '+' then
    skip
    return some .keep
  else if c = '-' then
    skip
    return some .strip
  else return none

/-- How much deeper a block is indented, if its next character says so. -/
def blockIndent (start : Place) : Scan (Option Nat) := do
  let c ← peek
  if c = '0' then fail start .zeroIndentation
  else if c.isDigit then
    skip
    return some (c.toNat - '0'.toNat)
  else return none

/-- What a block says about its lines behind its mark, in any order. -/
def blockHeader (start : Place) : Scan (Chomping × Option Nat) := do
  match ← chomping with
  | some chomping => return (chomping, ← blockIndent start)
  | none =>
    match ← blockIndent start with
    | some depth => return ((← chomping).getD .clip, some depth)
    | none => return (.clip, none)

/-- Skips spaces up to a column, and the lines on which nothing else stands; answers their number.
    `steps` bounds the lines. -/
def skipBlockIndent (column : Nat) : (steps : Nat) → Scan Nat
  | 0 => return 0
  | steps + 1 => do
    modify fun c => c.look blockWindow
    let c ← get
    let spaces := (c.rest.takeWhile (· == ' ')).take (column - c.place.column)
    modify fun c => (spaces.length.repeat Cursor.stepBlank c).look 2
    if isLineEnd (← peek) then
      skipLineEnd
      return (← skipBlockIndent column steps) + 1
    else return 0

/-- Skips the lines in front of the first one with something on it, and its indentation; answers
    their number and how deep the deepest of them is indented.  `steps` bounds the lines. -/
def skipFirstIndent : (steps deepest : Nat) → Scan (Nat × Nat)
  | 0, deepest => return (0, deepest)
  | steps + 1, deepest => do
    let spaces := (← get).rest.takeWhile (· == ' ')
    modify fun c => (spaces.length.repeat Cursor.stepBlank c).look 1
    let deepest := max deepest (← here).column
    if isLineEnd (← peek) then
      skipLineEnd
      let (more, deepest) ← skipFirstIndent steps deepest
      return (more + 1, deepest)
    else return (0, deepest)

/-- The lines of a block, which stand in a column; `steps` bounds their number. -/
def blockLines (isFolded : Bool) (column : Nat) : (steps : Nat) → BlockText → Scan BlockText
  | 0, b => return b
  | steps + 1, b => do
    let c ← peek
    let isThere := (← here).column = column && !isEnd c && !(column = 0 && (← isAtDocumentMark))
    if !isThere then return b
    else
      let line := (← get).rest.takeWhile fun c => !endsLine c
      modify (Cursor.behindBlockLine line)
      let text := b.join isFolded (isIndent c) ++ line
      if isEnd (← peek) then return { text := text, isLoose := isIndent c }
      else
        skipLineEnd
        let more ← skipBlockIndent column (← bound)
        blockLines isFolded column steps
          { text := text, isEnded := true, more := more, isLoose := isIndent c }

/-- The text of a block, with what is to become of the ends of its last lines. -/
def chomped (chomping : Chomping) (column : Nat) (b : BlockText) : Scan Text := do
  let c ← get
  let isCut := isEnd (← peek) && max column 1 ≤ c.place.column
  let ending : Text := (if b.isEnded then ['\n'] else []) ++ (if isCut then ['\n'] else [])
  return match chomping with
    | .strip => b.text
    | .clip => b.text ++ ending
    | .keep => b.text ++ ending ++ List.replicate b.more '\n'

/-- The text of a block without lines, at the end of the text. -/
def chompedNothing (chomping : Chomping) (isOneLine hasEnd : Bool) (more : Nat) : Text :=
  let ending : Text := if hasEnd then ['\n'] else []
  if isOneLine then []
  else match chomping with
    | .strip => []
    | .clip => ending
    | .keep => if more = 0 then ending else List.replicate more '\n'

/-- Finds a block of lines. -/
def putBlock (isFolded : Bool) : Scan Unit := do
  noteCandidate
  allowKey
  let start ← here
  skip
  dropLooseIndents
  let (chomping, depth) ← blockHeader start
  let _ ← skipGap true
  let hasEnd := isLineEnd (← peek)
  if !endsLine (← peek) then fail start .blockHeader
  skipLineEnd
  if (← peek) = '\t' then fail start .blockTab
  let outer := (← get).indent
  let (more, column) ← match depth with
    | some depth => do
      let column := (max outer 0).toNat + depth
      pure (← skipBlockIndent column (← bound), column)
    | none => do
      let (more, deepest) ← skipFirstIndent (← bound) 0
      let least := max (outer + 1).toNat (if 0 < outer then 1 else 0)
      pure (more, max deepest least)
  let first ← here
  if isEnd (← peek) then
    put start (.scalar false (chompedNothing chomping (first.line == start.line) hasEnd more))
  else if first.column < column ∧ outer < first.column then failHere .blockLine
  else
    let b ← blockLines isFolded column (← bound) { more := more }
    put first (.scalar false (← chomped chomping column b))

end Scan

end RouteLocalizer.Yaml
