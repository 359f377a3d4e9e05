/-
  TAGS, ANCHORS and DIRECTIVES of YAML.

  A tag says what kind of value follows.  It is a handle and a suffix; the handle stands for the
  start of the tag, which a directive may have given it.  In a suffix a character may be spelled by
  the bytes of its form, each behind a percent sign.  Bytes are put one behind another as they are,
  so that those of more than two bytes spell no character.

  An anchor names a value, and an alias stands for the value that the anchor names.
-/
import RouteLocalizer.Text.Hexadecimal
import RouteLocalizer.Yaml.Token.Blank
import RouteLocalizer.Yaml.Token.Indentation

namespace RouteLocalizer.Yaml

open Text

/-- A character of the start of a tag. -/
def isUriChar (c : Char) : Bool :=
  (isNameChar c && c != '_') || "#;/?:@&=+$,_.!~*'()[]%".toList.elem c

/-- A character of the suffix of a tag. -/
def isTagChar (c : Char) : Bool := isUriChar c && !isListMark c && c != '!'

/-- A character of the name of an anchor. -/
def isAnchorChar (c : Char) : Bool :=
  !endsWord c && !isListMark c && c.toNat != 0xFEFF

/-- How many bytes a character has that starts with a byte. -/
def formLength (byte : Nat) : Option Nat :=
  if byte < 0x80 then some 1
  else if 0xC0 ≤ byte ∧ byte < 0xE0 then some 2
  else if 0xE0 ≤ byte ∧ byte < 0xF0 then some 3
  else if 0xF0 ≤ byte ∧ byte < 0xF8 then some 4
  else none

namespace Scan

/-! ## Tags -/

/-- A byte, behind a percent sign. -/
def octet (start : Place) : Scan Nat := do
  if (← peek) ≠ '%' then fail start .octet
  else match hexDigitValue (← peekAt 1), hexDigitValue (← peekAt 2) with
    | some high, some low =>
      skipMany 3
      return 16 * high + low
    | _, _ => fail start .octet

/-- As many more bytes of a character, behind those that make up a code. -/
def moreOctets (start : Place) : (count code : Nat) → Scan Nat
  | 0, code => return code
  | count + 1, code => do
    let byte ← octet start
    if byte < 0x80 ∨ 0xC0 ≤ byte then fail start .trailingOctet
    moreOctets start count (0x100 * code + byte)

/-- A character that is spelled by its bytes. -/
def octets (start : Place) : Scan Char := do
  let byte ← octet start
  match formLength byte with
  | none => fail start .leadingOctet
  | some length =>
    match charOfCode (← moreOctets start (length - 1) byte) with
    | some c => return c
    | none => fail start .tagCode

/-- The characters of a class, which may be spelled by their bytes; `steps` bounds their number. -/
def uriUpTo (p : Char → Bool) (start : Place) : (steps : Nat) → Scan Text
  | 0 => return []
  | steps + 1 => do
    let c ← peek
    if !p c then return []
    else if c = '%' then
      let first ← octets start
      return first :: (← uriUpTo p start steps)
    else
      skip
      return c :: (← uriUpTo p start steps)

/-- The characters of a class, which may be spelled by their bytes. -/
def uri (p : Char → Bool) (start : Place) : Scan Text := do uriUpTo p start (← bound)

/-- A handle: a name between exclamation marks.  A tag may have only the first of them, and then
    the name is not its handle's. -/
def handle (isDirective : Bool) (start : Place) : Scan Text := do
  if (← peek) ≠ '!' then fail start .tagMark
  skip
  let name ← takeWhile isNameChar
  if (← peek) = '!' then
    skip
    return '!' :: name ++ ['!']
  else if isDirective && !name.isEmpty then fail start .tagDirectiveMark
  else return '!' :: name

/-- The suffix of a tag, which starts with the name behind the mark in front of it. -/
def suffix (head : Text) (start : Place) : Scan Text := do
  let rest ← uri isTagChar start
  if head.isEmpty && rest.isEmpty then fail start .tagName
  return head.drop 1 ++ rest

/-- A tag that is spelled as a whole, between angle brackets. -/
def verbatimTag (start : Place) : Scan Token := do
  skipMany 2
  let name ← uri isUriChar start
  if (← peek) ≠ '>' then fail start .verbatimEnd
  skip
  return .tag [] name

/-- A tag with a handle, or else one of this file alone. -/
def shorthandTag (start : Place) : Scan Token := do
  let found ← handle false start
  if 2 ≤ found.length && found.getLast? == some '!' then
    return .tag found (← suffix [] start)
  else
    let name ← suffix found start
    return if name.isEmpty then .tag [] ['!'] else .tag ['!'] name

/-- Finds a tag. -/
def putTag : Scan Unit := do
  noteCandidate
  forbidKey
  let start ← here
  let tag ← if (← peekAt 1) = '<' then verbatimTag start else shorthandTag start
  let c ← peek
  if endsWord c || (!(← isInBlock) && isListMark c) then put start tag
  else fail start .tagEnd

/-! ## Anchors -/

/-- Finds an anchor or an alias, whose names are made into tokens. -/
def putAnchor (token : Text → Token) : Scan Unit := do
  noteCandidate
  forbidKey
  let start ← here
  skip
  let name ← takeWhile isAnchorChar
  if name.isEmpty then fail start .anchorName
  put start (token name)

/-! ## Directives -/

/-- Skips a number of a version, which has at most nine digits. -/
def versionNumber (start : Place) : Scan Unit := do
  let digits ← takeWhile Char.isDigit
  if digits.isEmpty then fail start .versionNumber
  if 9 < digits.length then fail start .versionLong

/-- Skips the white space on a line. -/
def skipIndents : Scan Unit := do
  let count := ((← get).rest.takeWhile isIndent).length
  modify fun c => count.repeat Cursor.stepBlank c

/-- The version behind its directive. -/
def versionDirective (start : Place) : Scan Token := do
  skipIndents
  versionNumber start
  if (← peek) ≠ '.' then fail start .versionPoint
  skip
  versionNumber start
  return .versionDirective

/-- What the tags with a handle start with. -/
def tagStart (start : Place) : Scan Text := do
  let c ← peek
  if c = '!' then
    skip
    return c :: (← uri isUriChar start)
  else if isTagChar c then uri isUriChar start
  else fail start .globalTag

/-- The handle and the start of tags behind their directive. -/
def tagDirective (start : Place) : Scan Token := do
  skipIndents
  let found ← handle true start
  skipIndents
  let name ← tagStart start
  if endsWord (← peek) then return .tagDirective found name
  else fail start .tagDirectiveEnd

/-- The name of a directive. -/
def directiveName : Scan Text := do
  let start ← here
  let name ← takeWhile isNameChar
  if name.isEmpty then fail start .directiveName
  if endsWord (← peek) then return name
  else fail start .directiveLetter

/-- A directive. -/
def directive : Scan Token := do
  let start ← here
  skip
  let name ← directiveName
  if name = "YAML" then versionDirective start
  else if name = "TAG" then tagDirective start
  else
    skipLine
    return .tagDirective [] []

/-- Finds a directive, which ends with its line. -/
def putDirective : Scan Unit := do
  endBlocks (-1)
  dropCandidate
  forbidKey
  let start ← here
  let token ← directive
  let _ ← skipGap true
  if endsLine (← peek) then
    skipLineEnd
    put start token
  else fail start .directiveEnd

end Scan

end RouteLocalizer.Yaml
