/-
  How far a RON text is read: the text that is left, and the PLACE where it starts.

  Lines are counted from one by their line feeds, and columns by bytes.  White space and comments
  count nowhere; comments go to the end of a line or stand between marks, and these nest.

  A NAME is made of letters, digits and underscores of ASCII.  A raw name stands behind a mark and
  may have points and signs too.
-/
import RouteLocalizer.Ron.Fault
import RouteLocalizer.Text.Bytes

namespace RouteLocalizer.Ron

open Text

/-- How far a text is read. -/
structure Cursor where
  rest : Text
  line : Nat := 1
  column : Nat := 1
  /-- Whether a value may stand for something that is there. -/
  impliesSome : Bool := false
deriving DecidableEq, Repr

namespace Cursor

variable (c : Cursor)

/-- The fault that a reason makes here. -/
def fault {α : Type} (reason : Reason) : Except Fault α := .error ⟨reason, c.line, c.column⟩

/-- The cursor behind the next character. -/
def step : Cursor :=
  match c.rest with
  | [] => c
  | '\n' :: rest => { c with rest := rest, line := c.line + 1, column := 1 }
  | ch :: rest => { c with rest := rest, column := c.column + ch.utf8Size }

/-- The cursor behind the next characters. -/
def advance : (count : Nat) → Cursor → Cursor
  | 0, c => c
  | count + 1, c => advance count c.step

/-- The fault that a reason makes behind the next byte. -/
def faultBehind {α : Type} (reason : Reason) : Except Fault α :=
  if c.rest.head? = some '\n' then .error ⟨reason, c.line + 1, 1⟩
  else .error ⟨reason, c.line, c.column + 1⟩

/-- The next character; there has to be one. -/
def next : Except Fault Char :=
  match c.rest with
  | [] => c.fault .endOfText
  | ch :: _ => .ok ch

/-- The cursor behind a word in front of the text. -/
def after? (word : Text) : Option Cursor :=
  if (afterWord word c.rest).isSome then some (c.advance word.length) else none

/-! ## What does not count -/

/-- White space. -/
def isSpace (c : Char) : Bool := c == ' ' || c == '\t' || c == '\n' || c == '\r'

/-- The first byte of a character, as the character of its number. -/
def firstByte (c : Char) : Char :=
  ((encode [c]).head?.map fun b => Char.ofNat b.toNat).getD c

/-- The cursor behind comments between marks, `depth` of which are open; `steps` bounds the
    characters in them. -/
def behindComment : (steps depth : Nat) → Cursor → Except Fault Cursor
  | 0, _, c => c.fault .unclosedComment
  | _ + 1, 0, c => .ok c
  | steps + 1, depth + 1, c =>
    match c.rest with
    | [] => c.fault .unclosedComment
    | '/' :: '*' :: _ => behindComment steps (depth + 2) (c.advance 2)
    | '*' :: '/' :: _ => behindComment steps depth (c.advance 2)
    | _ :: _ => behindComment steps (depth + 1) c.step

/-- The cursor behind white space and comments; `steps` bounds the number of comments. -/
def skipUpTo : (steps : Nat) → Cursor → Except Fault Cursor
  | 0, c => .ok c
  | steps + 1, c =>
    let c := c.advance (c.rest.takeWhile isSpace).length
    match c.rest with
    | '/' :: '/' :: rest =>
      skipUpTo steps (c.advance (2 + (rest.takeWhile (· != '\n')).length))
    | '/' :: '*' :: rest =>
      match behindComment (rest.length + 2) 1 (c.advance 2) with
      | .ok c => skipUpTo steps c
      | .error f => .error f
    | '/' :: ch :: _ => c.step.faultBehind (.unexpectedByte (firstByte ch))
    | ['/'] => c.step.fault .endOfText
    | _ => .ok c

/-- The cursor behind white space and comments. -/
def skip : Except Fault Cursor := skipUpTo (c.rest.length + 1) c

/-- The cursor behind a comma and what does not count around it, and whether there is one. -/
def comma : Except Fault (Bool × Cursor) := do
  let c ← c.skip
  match c.after? [','] with
  | some c => return (true, ← c.skip)
  | none => return (false, c)

/-! ## Names -/

/-- A character that starts a name. -/
def startsName (c : Char) : Bool := c.isAlpha || c == '_'

/-- A character of a name. -/
def isNameChar (c : Char) : Bool := c.isAlphanum || c == '_'

/-- A character of a raw name. -/
def isRawChar (c : Char) : Bool := isNameChar c || c == '.' || c == '+' || c == '-'

/-- The cursor behind a word that no character of a name follows. -/
def afterName? (word : Text) : Option Cursor :=
  (c.after? word).filter fun c => !c.rest.head?.any isNameChar

/-- The characters of a class in front of the text, and the cursor behind them. -/
def span (p : Char → Bool) : Text × Cursor :=
  let found := c.rest.takeWhile p
  (found, c.advance found.length)

/-- A name that is not raw.  It does not go on as only a raw one could. -/
def plainName : Except Fault (Text × Cursor) :=
  let raw := c.rest.takeWhile isRawChar
  let (found, behind) := c.span isNameChar
  if found.length < raw.length then c.fault (.rawName raw) else .ok (found, behind)

/-- A name.  The letter in front of a raw string is none. -/
def name : Except Fault (Text × Cursor) :=
  match c.rest with
  | [] => c.fault .endOfText
  | ['r'] => c.fault .endOfText
  | 'r' :: '"' :: _ => c.fault .expectedName
  | 'r' :: '#' :: rest =>
    if rest.head?.any isRawChar then .ok ((c.advance 2).span isRawChar)
    else c.fault .expectedName
  | ch :: _ => if startsName ch then c.plainName else c.fault .expectedName

end Cursor

end RouteLocalizer.Ron
