/-
  How far a YAML text is read for its TOKENS.

  A cursor has the text that is left and its place, the tokens that are found and not yet given
  away, and what decides about the next ones: how deep blocks are indented, which brackets are
  open, and which tokens could turn out to be KEYS.  That a token is a key is known only when the
  colon behind it is found, and then the tokens that say so are put in front of it.

  `Scan` is an action on the cursor that may find a fault.
-/
import RouteLocalizer.Yaml.Token

namespace RouteLocalizer.Yaml

/-- A token that may turn out to be a key. -/
structure Candidate where
  place : Place
  /-- How many tokens are found in front of it. -/
  number : Nat
  isPossible : Bool
  /-- Whether it has to be a key, because it starts a line of a mapping. -/
  isRequired : Bool
deriving DecidableEq, Repr

/-- No token. -/
def Candidate.none : Candidate := ⟨⟨0, 0, 0⟩, 0, false, false⟩

/-- An indentation that another one has taken the place of. -/
structure Outer where
  column : Int
  /-- Whether the one in its place is a block's, and ends with a token. -/
  isBlock : Bool
deriving DecidableEq, Repr

/-- How far a text is read for its tokens. -/
structure Cursor where
  rest : Text
  place : Place := {}
  /-- Whether only white space stands in front on the line. -/
  isIndenting : Bool := true
  /-- How many of the next characters have been looked at. -/
  window : Nat := 0
  /-- The tokens that are found and not yet given away. -/
  found : List Placed := []
  /-- How many tokens are given away. -/
  given : Nat := 0
  /-- The candidates, one for every open bracket and one for the blocks around them, from the
      innermost one on. -/
  candidates : List Candidate := [.none]
  allowsKey : Bool := true
  /-- The column of the innermost block; there is none at first. -/
  indent : Int := -1
  outer : List Outer := []
  /-- How many brackets are open. -/
  depth : Nat := 0
  /-- Whether a mapping between brackets has been opened by its own mark. -/
  opensMapping : Bool := false
  /-- For every open square bracket, whether one of its items is a pair without braces. -/
  pairs : List Bool := []
  /-- The index at which a colon may be followed by a value without white space. -/
  adjacentAt : Nat := 0

namespace Cursor

variable (c : Cursor)

/-- The cursor behind white space of one character. -/
def stepBlank : Cursor :=
  { c with
    rest := c.rest.tail
    window := c.window - 1
    place := { c.place with index := c.place.index + 1, column := c.place.column + 1 } }

/-- The cursor behind a character that is neither white space nor the end of a line. -/
def step : Cursor := { c.stepBlank with isIndenting := false }

/-- The cursor behind characters that are no ends of lines. -/
def advance : (count : Nat) → Cursor → Cursor
  | 0, c => c
  | count + 1, c => advance count c.step

/-- The cursor behind a character that ends a line. -/
def stepLine : Cursor :=
  { c with
    rest := c.rest.tail
    window := c.window - 1
    place := ⟨c.place.index + 1, c.place.line + 1, 0⟩
    isIndenting := true }

/-- The cursor behind the end of a line, which may be of two characters. -/
def stepLineEnd : Cursor :=
  match c.rest with
  | '\r' :: '\n' :: _ => c.stepBlank.stepLine
  | '\r' :: _ => c.stepLine
  | '\n' :: _ => c.stepLine
  | _ => c

/-- The cursor after a look at the next characters. -/
def look (count : Nat) : Cursor := { c with window := max c.window count }

end Cursor

/-- An action on a cursor that may find a fault. -/
abbrev Scan := StateT Cursor (Except Fault)

namespace Scan

/-- Finds a fault. -/
def fail {α : Type} (place : Place) (reason : Reason) : Scan α := throw ⟨reason, place⟩

/-- The place of the next character. -/
def here : Scan Place := return (← get).place

/-- Finds a fault at the next character. -/
def failHere {α : Type} (reason : Reason) : Scan α := do fail (← here) reason

/-- A bound for the steps that the rest of the text can take. -/
def bound : Scan Nat := return (← get).rest.length + 2

/-- One of the next characters.  Behind the text there are zeros. -/
def peekAt (n : Nat) : Scan Char := return (← get).rest.getD n '\x00'

/-- The next character, or zero where there is none. -/
def peek : Scan Char := peekAt 0

def skipBlank : Scan Unit := modify Cursor.stepBlank

def skip : Scan Unit := modify Cursor.step

def skipMany (count : Nat) : Scan Unit := modify (Cursor.advance count)

def skipLineEnd : Scan Unit := modify Cursor.stepLineEnd

/-- Whether the text is in blocks here, and not between brackets. -/
def isInBlock : Scan Bool := return (← get).depth = 0

/-- The next characters of a class, none of which ends a line. -/
def takeWhile (p : Char → Bool) : Scan Text := do
  let found := (← get).rest.takeWhile p
  skipMany found.length
  return found

/-! ## Tokens -/

/-- Puts a token behind all others. -/
def put (place : Place) (token : Token) : Scan Unit :=
  modify fun c => { c with found := c.found ++ [⟨place, token⟩] }

/-- Puts a token in front of the one with a number. -/
def putBefore (number : Nat) (place : Place) (token : Token) : Scan Unit :=
  modify fun c =>
    let count := number - c.given
    { c with found := c.found.take count ++ [⟨place, token⟩] ++ c.found.drop count }

end Scan

end RouteLocalizer.Yaml
