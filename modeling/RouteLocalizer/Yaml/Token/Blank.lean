/-
  What stands BETWEEN the tokens of YAML: white space, ends of lines and comments.

  Tabs are white space, but they do not indent blocks.  A comment stands at the start of a line or
  behind white space.
-/
import RouteLocalizer.Text.CharClass
import RouteLocalizer.Yaml.Token.Cursor

namespace RouteLocalizer.Yaml

open Text

/-- The character that stands for the end of the text. -/
def isEnd (c : Char) : Bool := c == '\x00'

/-- The end of a line or of the text. -/
def endsLine (c : Char) : Bool := isLineEnd c || isEnd c

/-- What a word ends at: white space, or the end of a line or of the text. -/
def endsWord (c : Char) : Bool := isIndent c || endsLine c

/-- A mark of the lists between brackets. -/
def isListMark (c : Char) : Bool := [',', '[', ']', '\x7b', '\x7d'].elem c

/-- A character of the names of directives and handles. -/
def isNameChar (c : Char) : Bool := c.isAlphanum || c == '_' || c == '-'

/-- Whether a mark of three characters stands in front of a text, and nothing right behind it. -/
def startsMark (mark : Text) (text : Text) : Bool :=
  mark.isPrefixOf text && endsWord (text.getD 3 '\x00')

/-- Whether a document starts or ends in front of a text. -/
def startsDocumentMark (text : Text) : Bool := startsMark "---" text || startsMark "..." text

namespace Scan

/-- Whether a document starts or ends here. -/
def isAtDocumentMark : Scan Bool := do
  let c ← get
  return c.place.column = 0 && startsDocumentMark c.rest

/-- Skips the rest of a line. -/
def skipLine : Scan Unit := do
  let _ ← takeWhile fun c => !endsLine c

/-- What is found in a gap. -/
structure Gap where
  hasTab : Bool := false
  hasSpace : Bool := false

/-- Skips white space up to the next token or the end of the line, and a comment; `steps` bounds the
    characters. -/
def skipGapUpTo (tabs : Bool) : (steps : Nat) → Gap → Scan Gap
  | 0, gap => return gap
  | steps + 1, gap => do
    let c ← peek
    if c = ' ' then
      skipBlank
      skipGapUpTo tabs steps { gap with hasSpace := true }
    else if c = '\t' ∧ tabs then
      skipBlank
      skipGapUpTo tabs steps { gap with hasTab := true }
    else if c = '#' then
      if !gap.hasTab && !gap.hasSpace then failHere .commentSpace
      else
        skipLine
        return gap
    else return gap

/-- Skips white space up to the next token or the end of the line, and a comment. -/
def skipGap (tabs : Bool) : Scan Gap := do skipGapUpTo tabs (← bound) {}

/-- Skips the end of a line, behind which a key may stand in a block. -/
def skipLineEndToKey : Scan Unit := do
  skipLineEnd
  if ← isInBlock then modify fun c => { c with allowsKey := true }

/-- Skips all white space and comments; `steps` bounds the characters.  A tab may stand in the
    indentation of a block only on a line on which nothing else stands. -/
def skipToTokenUpTo : (steps : Nat) → Scan Unit
  | 0 => return
  | steps + 1 => do
    let c ← get
    let ch ← peek
    if ch = '\t' ∧ !c.outer.isEmpty ∧ c.isIndenting ∧ (c.place.column : Int) < c.indent then
      let _ ← skipGap true
      if !endsLine (← peek) then failHere .tabIndentation
      skipToTokenUpTo steps
    else if isIndent ch then
      skipBlank
      skipToTokenUpTo steps
    else if isLineEnd ch then
      skipLineEndToKey
      skipToTokenUpTo steps
    else if ch = '#' then
      skipLine
      skipToTokenUpTo steps

/-- Skips all white space and comments. -/
def skipToToken : Scan Unit := do skipToTokenUpTo (2 * (← bound))

/-- Skips spaces, ends of lines and comments; `steps` bounds the characters, and `isFound` says
    whether one has been skipped. -/
def skipSpacesUpTo : (steps : Nat) → (isFound : Bool) → Scan Bool
  | 0, isFound => return isFound
  | steps + 1, isFound => do
    let c ← peek
    if c = ' ' then
      skipBlank
      skipSpacesUpTo steps true
    else if isLineEnd c then
      skipLineEndToKey
      skipSpacesUpTo steps true
    else if c = '#' then
      skipLine
      skipSpacesUpTo steps isFound
    else return isFound

/-- Skips spaces, ends of lines and comments, of which there have to be some. -/
def skipSpaces : Scan Unit := do
  if !(← skipSpacesUpTo (2 * (← bound)) false) then failHere .missingSpace

end Scan

end RouteLocalizer.Yaml
