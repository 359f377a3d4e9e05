/-
  The CHARACTER CLASSES that the searches of this library tell apart.

  Two notions of "part of a name" are in use, and they differ.  A WORD character is what a word
  boundary is drawn around: letters, marks, decimal digits, connecting punctuation such as the
  underscore, and the two joiners.  An IDENTIFIER character is what a binding's name is made of:
  letters, numbers of every kind, the underscore and the dollar sign.  So `$` continues an
  identifier but not a word, and `²` likewise, while a combining mark may continue a word only.
  They differ in age too: words know the characters of one edition of the Unicode standard less
  than identifiers do, so a RECENT letter stands between words.

  All ASCII characters are decided by a comparison; the tables under `Text.Table` are asked only
  from U+0080 on.
-/
import RouteLocalizer.Text.Basic
import RouteLocalizer.Text.Table.Alphabetic
import RouteLocalizer.Text.Table.Mark
import RouteLocalizer.Text.Table.Numeric
import RouteLocalizer.Text.Table.Printable
import RouteLocalizer.Text.Table.Recent

namespace RouteLocalizer.Text

/-- Whether one of the closed ranges holds the code point. -/
def inRanges (ranges : List (Nat × Nat)) (code : Nat) : Bool :=
  ranges.any fun r => r.1 ≤ code && code ≤ r.2

/-- Looks a character up: ASCII by `ascii`, all others in a table. -/
def asciiOr (ascii : Char → Bool) (ranges : List (Nat × Nat)) (c : Char) : Bool :=
  if c.toNat < 0x80 then ascii c else inRanges ranges c.toNat

/-- White space: the six ASCII blanks and line ends, next line, no-break space, the spaces of the
    general punctuation block, the two separators of lines and paragraphs, and the wide space. -/
def isBlank (c : Char) : Bool :=
  let n := c.toNat
  (9 ≤ n && n ≤ 13) || n == 0x20 || n == 0x85 || n == 0xA0 || n == 0x1680 ||
    (0x2000 ≤ n && n ≤ 0x200A) || n == 0x2028 || n == 0x2029 || n == 0x202F ||
    n == 0x205F || n == 0x3000

/-- A space or a tab. -/
def isIndent (c : Char) : Bool := c == ' ' || c == '\t'

/-- A carriage return or a line feed. -/
def isLineEnd (c : Char) : Bool := c == '\r' || c == '\n'

def isAlphabetic : Char → Bool := asciiOr Char.isAlpha Table.alphabetic

def isMark : Char → Bool := asciiOr (fun _ => false) Table.mark

def isDecimalDigit : Char → Bool := asciiOr Char.isDigit Table.decimalDigit

def isNumeric : Char → Bool := asciiOr Char.isDigit Table.numeric

/-- Punctuation that connects two words into one, the underscore first of all. -/
def isConnector (c : Char) : Bool :=
  let n := c.toNat
  n == 0x5F || n == 0x203F || n == 0x2040 || n == 0x2054 || n == 0xFE33 || n == 0xFE34 ||
    (0xFE4D ≤ n && n ≤ 0xFE4F) || n == 0xFF3F

/-- The zero-width non-joiner and the zero-width joiner. -/
def isJoiner (c : Char) : Bool := c.toNat == 0x200C || c.toNat == 0x200D

/-- Whether the last edition of the Unicode standard has added the character. -/
def isRecent : Char → Bool := asciiOr (fun _ => false) Table.recent

/-- A character that a word is made of. -/
def isWordChar (c : Char) : Bool :=
  (isAlphabetic c || isConnector c || isDecimalDigit c || isMark c || isJoiner c) && !isRecent c

/-- A character that an identifier is made of. -/
def isIdentifierChar (c : Char) : Bool :=
  isAlphabetic c || isNumeric c || c == '_' || c == '$'

/-- The two halfwidth sound marks, which take a cell of their own though they extend the character
    in front of them. -/
def isSoundMark (c : Char) : Bool := c.toNat == 0xFF9E || c.toNat == 0xFF9F

/-- The letters that fill a place where no letter stands, and that nobody sees. -/
def isFiller (c : Char) : Bool :=
  c.toNat == 0x115F || c.toNat == 0x1160 || c.toNat == 0x3164 || c.toNat == 0xFFA0

/-- Whether a character is drawn over the one in front of it. -/
def isExtender (c : Char) : Bool :=
  asciiOr (fun _ => false) Table.graphemeExtend c && !isSoundMark c

/-- Whether a quoted text shows the character as an escape with its code point. -/
def needsEscape (c : Char) : Bool :=
  asciiOr (fun c => c.toNat < 0x20 || c.toNat == 0x7F) Table.unprintable c || isExtender c ||
    isFiller c

/-- A word boundary: of the two neighbours exactly one is a word character.  The ends of the text
    count as no word character. -/
def isBoundary (last : Option Char) (rest : Text) : Bool :=
  last.any isWordChar != rest.head?.any isWordChar

/-- Where a line starts: at the start of the text, behind a line feed, and behind a carriage
    return that no line feed follows. -/
def isLineStart (last : Option Char) (rest : Text) : Bool :=
  match last with
  | none => true
  | some '\n' => true
  | some '\r' => rest.head? != some '\n'
  | some _ => false

/-- The small letters of ASCII for its capitals; no other character changes. -/
def toLowerAscii (text : Text) : Text := text.map Char.toLower

/-! ## Trimming and words -/

/-- The text without the white space at its start. -/
def trimStart (text : Text) : Text := text.dropWhile isBlank

/-- The text without the characters of a class at its end. -/
def dropEndWhile (p : Char → Bool) (text : Text) : Text :=
  (text.reverse.dropWhile p).reverse

/-- The text without the white space at its end. -/
def trimEnd (text : Text) : Text := dropEndWhile isBlank text

/-- The text without the white space at both ends. -/
def trim (text : Text) : Text := trimEnd (trimStart text)

/-- The maximal runs of characters other than white space, from left to right. -/
def words : Text → List Text
  | [] => []
  | c :: cs =>
    if isBlank c then words cs
    else match cs with
      | [] => [[c]]
      | d :: _ =>
        if isBlank d then [c] :: words cs
        else match words cs with
          | [] => [[c]]
          | w :: ws => (c :: w) :: ws

/-! ## Lines -/

/-- The lines of a text, each without the line feed that ends it.  A carriage return in front of
    the line feed stays: to a comparison of trimmed lines it is white space. -/
def lines : Text → List Text
  | [] => []
  | c :: cs =>
    if c = '\n' then [] :: lines cs
    else match lines cs with
      | [] => [[c]]
      | l :: ls => (c :: l) :: ls

end RouteLocalizer.Text
