/-
  SMALL LETTERS of all scripts.

  A capital becomes its small letter, which for the Latin I with a dot is an i and a combining dot.
  The Greek sigma has two small letters: the final one stands at the end of a word, which is behind
  a character that has a case and not in front of one, whatever ignorable characters lie between.
-/
import RouteLocalizer.Text.CharClass
import RouteLocalizer.Text.Table.Case

namespace RouteLocalizer.Text

/-- The ASCII characters that do not separate the letters of a word. -/
def isAsciiIgnorable (c : Char) : Bool :=
  c == '\'' || c == '.' || c == ':' || c == '^' || c == '\x60'

def isCaseIgnorable : Char → Bool := asciiOr isAsciiIgnorable Table.caseIgnorable

def isCased : Char → Bool := asciiOr Char.isAlpha Table.cased

/-- The small letter of a capital, if the run holds it. -/
def Table.CapitalRun.small? (r : CapitalRun) (code : Nat) : Option Nat :=
  if r.first ≤ code ∧ code ≤ r.last ∧ (code - r.first) % r.step = 0 then
    some (r.small + (code - r.first))
  else none

/-- The small letter of a character, wherever the character stands. -/
def smallLetter (c : Char) : Text :=
  if c.toNat < 0x80 then [c.toLower]
  else if c.toNat = 0x130 then ['i', Char.ofNat 0x307]
  else match Table.capitals.findSome? fun r => r.small? c.toNat with
    | some code => [Char.ofNat code]
    | none => [c]

/-- Whether the first character that is not ignorable has a case. -/
def startsCased (text : Text) : Bool := (text.dropWhile isCaseIgnorable).head?.any isCased

/-- The small letters of a text that the characters `before`, the last one first, stand in front
    of. -/
def toLowerBehind (before : Text) : Text → Text
  | [] => []
  | c :: rest =>
    let small :=
      if c = 'Σ' then (if startsCased before && !startsCased rest then ['ς'] else ['σ'])
      else smallLetter c
    small ++ toLowerBehind (c :: before) rest

/-- The text in small letters. -/
def toLower (text : Text) : Text := toLowerBehind [] text

end RouteLocalizer.Text
