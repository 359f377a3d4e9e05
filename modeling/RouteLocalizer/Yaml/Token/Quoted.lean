/-
  QUOTED scalars of YAML.

  White space within quotes is FOLDED where a line ends: what stands around the end of the line
  goes, a single end counts as a space, and of several each but the first counts as a line feed.
  In double quotes a backslash starts an escape; at the end of a line it takes the end away, with
  the white space behind it.  In single quotes a quote is written twice.
-/
import RouteLocalizer.Text.Hexadecimal
import RouteLocalizer.Yaml.Token.Blank
import RouteLocalizer.Yaml.Token.Indentation

namespace RouteLocalizer.Yaml

open Text

/-- White space in a scalar, as far as it is skipped. -/
structure Fold where
  /-- White space in front of the first end of a line. -/
  blank : Text := []
  /-- Whether an end of a line is kept. -/
  isBroken : Bool := false
  /-- How many more ends of lines there are. -/
  more : Nat := 0

namespace Fold

/-- What ends of lines count as. -/
def broken (f : Fold) : Text :=
  if f.isBroken && f.more = 0 then [' '] else List.replicate f.more '\n'

end Fold

/-- The character that a letter behind a backslash stands for. -/
def shortEscape (c : Char) : Option Char :=
  match c with
  | '0' => some '\x00'
  | 'a' => some '\x07'
  | 'b' => some '\x08'
  | 't' => some '\t'
  | '\t' => some '\t'
  | 'n' => some '\n'
  | 'v' => some '\x0b'
  | 'f' => some '\x0c'
  | 'r' => some '\r'
  | 'e' => some '\x1b'
  | ' ' => some ' '
  | '"' => some '"'
  | '/' => some '/'
  | '\\' => some '\\'
  | 'N' => some '\u0085'
  | '_' => some '\u00a0'
  | 'L' => some '\u2028'
  | 'P' => some '\u2029'
  | _ => none

/-- The number of digits of a code, by the letter in front of them. -/
def codeLength (c : Char) : Option Nat :=
  match c with
  | 'x' => some 2
  | 'u' => some 4
  | 'U' => some 8
  | _ => none

namespace Scan

/-- The character of a code with so many digits. -/
def codeEscape (start : Place) (count : Nat) : Scan Char := do
  let digits := (← get).rest.take count
  if digits.length < count then fail start .escapeDigits
  match hexNumber digits with
  | none => fail start .escapeDigits
  | some code =>
    match charOfCode code with
    | none => fail start .escapeCode
    | some c =>
      skipMany count
      return c

/-- The character of an escape. -/
def escape (start : Place) : Scan Char := do
  let c ← peekAt 1
  match shortEscape c, codeLength c with
  | some e, _ =>
    skipMany 2
    return e
  | none, some count =>
    skipMany 2
    codeEscape start count
  | none, none => fail start .unknownEscape

/-- What stands in quotes up to the next white space or the closing quote, and whether it ends with
    an end of a line that an escape has taken away; `steps` bounds the characters. -/
def quotedWord (isSingle : Bool) (start : Place) : (steps : Nat) → Scan (Text × Bool)
  | 0 => return ([], false)
  | steps + 1 => do
    let c ← peek
    let d ← peekAt 1
    if endsWord c then return ([], false)
    else if isSingle && c == '\'' && d == '\'' then
      skipMany 2
      let (text, isCut) ← quotedWord isSingle start steps
      return (c :: text, isCut)
    else if c = (if isSingle then '\'' else '"') then return ([], false)
    else if !isSingle && c == '\\' then
      if isLineEnd d then
        skip
        skipLineEnd
        return ([], true)
      else
        let e ← escape start
        let (text, isCut) ← quotedWord isSingle start steps
        return (e :: text, isCut)
    else
      skip
      let (text, isCut) ← quotedWord isSingle start steps
      return (c :: text, isCut)

/-- Skips white space in quotes; `steps` bounds the characters, and `isBehindEnd` says whether an
    end of a line stands in front. -/
def quotedFold : (steps : Nat) → (isBehindEnd : Bool) → Fold → Scan Text
  | 0, _, f => return f.blank
  | steps + 1, isBehindEnd, f => do
    let c ← peek
    if isIndent c then
      if !isBehindEnd then
        skipBlank
        quotedFold steps isBehindEnd { f with blank := f.blank ++ [c] }
      else
        let cursor ← get
        if c = '\t' ∧ (cursor.place.column : Int) < cursor.indent then failHere .quotedTab
        skipBlank
        quotedFold steps isBehindEnd f
    else if isLineEnd c then
      skipLineEnd
      if isBehindEnd then quotedFold steps true { f with more := f.more + 1 }
      else quotedFold steps true { f with blank := [], isBroken := true }
    else return if isBehindEnd then f.broken else f.blank

/-- The text of a quoted scalar behind its quote; `steps` bounds its words. -/
def quotedRest (isSingle : Bool) (start : Place) : (steps : Nat) → Scan Text
  | 0 => fail start .quotedEnd
  | steps + 1 => do
    if ← isAtDocumentMark then fail start .quotedDocument
    if isEnd (← peek) then fail start .quotedEnd
    let c ← get
    if (c.place.column : Int) < c.indent then fail start .quotedIndentation
    let (word, isCut) ← quotedWord isSingle start (← bound)
    if (← peek) = (if isSingle then '\'' else '"') then return word
    let blank ← quotedFold (← bound) isCut {}
    return word ++ blank ++ (← quotedRest isSingle start steps)

/-- Whether something may stand behind a closing quote. -/
def mayFollowQuote (start : Place) : Scan Bool := do
  let c ← peek
  if ← isInBlock then
    return endsLine c || (c == ':' && start.line == (← here).line)
  else return endsLine c || c == ':' || c == ',' || c == '\x7d' || c == ']'

/-- Finds a quoted scalar.  A colon right behind it needs no white space. -/
def putQuoted (isSingle : Bool) : Scan Unit := do
  noteCandidate
  forbidKey
  let start ← here
  skip
  let text ← quotedRest isSingle start (← bound)
  skip
  let _ ← skipGap true
  if !(← mayFollowQuote start) then failHere .behindQuote
  skipToToken
  modify fun c => { c with adjacentAt := c.place.index }
  put start (.scalar false text)

end Scan

end RouteLocalizer.Yaml
