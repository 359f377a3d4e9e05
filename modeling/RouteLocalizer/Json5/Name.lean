/-
  The characters of JSON5: white space, the ends of lines, and what a NAME without quotes is made
  of.

  A name starts with a letter, a dollar sign or an underscore, and goes on with these and with
  digits, diacritics, marks without a width, punctuation that connects words, and the two joiners.
-/
import RouteLocalizer.Text.CharClass
import RouteLocalizer.Text.Table.Diacritic

namespace RouteLocalizer.Json5

open Text

/-- A character that ends a line. -/
def endsLine (c : Char) : Bool := isLineEnd c || c.toNat == 0x2028 || c.toNat == 0x2029

/-- White space, to which the mark of the byte order belongs. -/
def isSpace (c : Char) : Bool := (isBlank c && c.toNat != 0x85) || c.toNat == 0xFEFF

/-- The letters in circles and squares, which are symbols. -/
def isEnclosed (c : Char) : Bool :=
  inRanges [(0x24B6, 0x24E9), (0x1F130, 0x1F149), (0x1F150, 0x1F169), (0x1F170, 0x1F189)] c.toNat

/-- A letter, or a number that is written as one. -/
def isLetter (c : Char) : Bool := isAlphabetic c && !isMark c && !isEnclosed c

/-- A mark that takes no width of its own. -/
def isNonspacing (c : Char) : Bool :=
  isMark c && inRanges Table.graphemeExtend c.toNat && !inRanges Table.spacingExtender c.toNat

/-- A diacritic, as far as it is neither a letter nor a mark without a width. -/
def isDiacritic (c : Char) : Bool :=
  c == '^' || c == '\x60' || inRanges Table.spacingDiacritic c.toNat

/-- A character that starts a name. -/
def startsName (c : Char) : Bool := isLetter c || c == '$' || c == '_'

/-- A character of a name. -/
def isNameChar (c : Char) : Bool :=
  startsName c || isNonspacing c || isDiacritic c || isDecimalDigit c || isConnector c ||
    isJoiner c

end RouteLocalizer.Json5
