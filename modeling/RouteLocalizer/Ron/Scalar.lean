/-
  NUMBERS, STRINGS and CHARACTERS of RON.

  A number is whole if its digits could be those of a whole one.  Then it is read as one, in the
  base that it says, and where that fails it is read once more as a fraction.  The second reading
  starts at the same character, but the place goes on from where the first one came to.

  Strings have escapes, or stand between marks of their own and have none.
-/
import RouteLocalizer.Decimal.Notation
import RouteLocalizer.Ron.Basic
import RouteLocalizer.Ron.Cursor
import RouteLocalizer.Text.Hexadecimal

namespace RouteLocalizer.Ron.Reader

open Text Decimal

/-! ## Numbers -/

/-- A character of a fraction. -/
def isFractionChar (c : Char) : Bool := c.isDigit || ['e', 'E', '.', '+', '-', '_'].elem c

/-- A character of a whole number, in any base. -/
def isWholeChar (c : Char) : Bool := (hexDigitValue c).isSome || c == '_'

/-- Whether a sign stands in front of a text. -/
def hasSign (text : Text) : Bool := text.head? == some '+' || text.head? == some '-'

/-- Whether a number goes on where a whole one could not. -/
def looksFractional (text : Text) : Bool :=
  let size := if hasSign text then text.tail else text
  (size.takeWhile isWholeChar).length < (size.takeWhile isFractionChar).length

/-- The base of a whole number, which a letter behind a zero says. -/
def baseOf : Text → Option Nat
  | '0' :: 'x' :: _ => some 16
  | '0' :: 'b' :: _ => some 2
  | '0' :: 'o' :: _ => some 8
  | _ => none

/-- The value of the digits of a whole number: with a sign it fits a word with a sign, and without
    one a word without. -/
def wholeValue (sign : Option Char) (base : Nat) (digits : Text) : Option Int :=
  (digitsInBase base (digits.filter (· != '_'))).bind fun n =>
    let i : Int := if sign = some '-' then -(n : Int) else n
    if (if sign.isSome then fitsWord i else n < wordLimit) then some i else none

/-- A whole number, if there is one, and the place up to which it has been looked for. -/
def whole (c : Cursor) : Option Int × Cursor :=
  let sign := if hasSign c.rest then c.rest.head? else none
  let c := if sign.isSome then c.step else c
  let base := baseOf c.rest
  let c := if base.isSome then c.advance 2 else c
  let (digits, behind) := c.span isWholeChar
  if digits.isEmpty ∨ digits.head? = some '_' then (none, c)
  else (wholeValue sign (base.getD 10) digits, behind)

/-- The words for what is no finite number. -/
def boundless : List (Text × Double) :=
  [("inf", .infinite false), ("+inf", .infinite false), ("-inf", .infinite true), ("NaN", .nan),
   ("+NaN", .nan), ("-NaN", .nan)]

/-- A fraction, or a word for what none can say. -/
def fraction (c : Cursor) : Except Fault (Ron × Cursor) :=
  match boundless.findSome? fun w => (c.afterName? w.1).map fun c => (w.2, c) with
  | some (d, c) => .ok (.double d, c)
  | none =>
    let (spelled, behind) := c.span isFractionChar
    let sound := spelled.takeWhile (· != '_')
    if sound.length < spelled.length then (c.advance sound.length).fault .underscore
    else match readDouble spelled with
      | some d => .ok (.double d, behind)
      | none => behind.fault .expectedFloat

/-- The value of a whole number: a word with a sign, or else the nearest number of the
    floating-point format. -/
def ofWhole (i : Int) : Ron :=
  if fitsWord i then .integer i else .double (Double.nearest (i < 0) i.natAbs 1)

/-- A number. -/
def number (c : Cursor) : Except Fault (Ron × Cursor) :=
  if looksFractional c.rest then fraction c
  else match whole c with
    | (some i, behind) => .ok (ofWhole i, behind)
    | (none, reached) => fraction { reached with rest := c.rest }

/-! ## Strings and characters -/

/-- Hexadecimal digits, up to a number of them; they end in front of a brace. -/
def bracedDigits : (most : Nat) → Cursor → Except Fault (Text × Cursor)
  | 0, c => .ok ([], c)
  | most + 1, c => do
    let ch ← c.next
    if ch = '\x7d' then return ([], c)
    if (hexDigitValue ch).isNone then c.faultBehind .noHexDigit
    else
      let (digits, c) ← bracedDigits most c.step
      return (ch :: digits, c)

/-- The next character, which has to be a certain one. -/
def expect (wanted : Char) (reason : Reason) (c : Cursor) : Except Fault Cursor := do
  if (← c.next) = wanted then return c.step else c.faultBehind reason

/-- The character of a code in braces. -/
def bracedCode (c : Cursor) : Except Fault (Char × Cursor) := do
  let c ← expect '\x7b' .missingBrace c
  let (digits, c) ← bracedDigits 6 c
  if digits.isEmpty then c.fault .noDigits
  else
    let c ← expect '\x7d' .unclosedBrace c
    match (hexNumber digits).bind charOfCode with
    | some ch => return (ch, c)
    | none => c.fault .noChar

/-- Hexadecimal digits, as many as are asked for. -/
def fixedDigits : (count : Nat) → Cursor → Except Fault (Text × Cursor)
  | 0, c => .ok ([], c)
  | count + 1, c => do
    let ch ← c.next
    if (hexDigitValue ch).isNone then c.faultBehind .noHexDigit
    else
      let (digits, c) ← fixedDigits count c.step
      return (ch :: digits, c)

/-- The character that a letter behind a backslash stands for. -/
def shortEscape : Char → Option Char
  | '\'' => some '\''
  | '"' => some '"'
  | '\\' => some '\\'
  | 'n' => some '\n'
  | 'r' => some '\r'
  | 't' => some '\t'
  | '0' => some '\x00'
  | _ => none

/-- The character of an escape, behind its backslash. -/
def escape (c : Cursor) : Except Fault (Char × Cursor) := do
  let ch ← c.next
  if ch = 'x' then
    let (digits, c) ← fixedDigits 2 c.step
    return (Char.ofNat ((hexNumber digits).getD 0), c)
  else if ch = 'u' then bracedCode c.step
  else match shortEscape ch with
    | some e => return (e, c.step)
    | none => c.faultBehind .unknownEscape

/-- A string behind its quote or behind one of its escapes; `steps` bounds the escapes, and
    `missing` is what is wrong where the string does not end. -/
def stringRest (missing : Reason) : (steps : Nat) → Cursor → Except Fault (Text × Cursor)
  | 0, c => c.fault missing
  | steps + 1, c =>
    let (plain, behind) := c.span fun ch => ch != '"' && ch != '\\'
    match behind.rest with
    | [] => c.fault missing
    | '"' :: _ => .ok (plain, behind.step)
    | _ :: _ => do
      let (e, c) ← escape behind.step
      let (others, c) ← stringRest .endOfText steps c
      return (plain ++ e :: others, c)

/-- What stands in front of a mark, if the mark is there. -/
def upToMark (mark : Text) : Text → Option Text
  | [] => none
  | c :: rest =>
    if (afterWord mark (c :: rest)).isSome then some []
    else (upToMark mark rest).map (c :: ·)

/-- A string without escapes, behind its letter: it ends at a quote with the hash signs that stand
    in front of it. -/
def rawString (c : Cursor) : Except Fault (Text × Cursor) :=
  let (hashes, c) := c.span (· == '#')
  match c.after? ['"'] with
  | none => c.fault .expectedString
  | some c =>
    match upToMark ('"' :: hashes) c.rest with
    | none => c.fault .stringEnd
    | some text => .ok (text, c.advance (text.length + hashes.length + 1))

/-- A string, which starts with a quote or with a letter. -/
def string (c : Cursor) : Except Fault (Text × Cursor) :=
  match c.rest with
  | '"' :: rest => stringRest .stringEnd (rest.length + 1) c.step
  | 'r' :: _ => rawString c.step
  | _ => c.fault .expectedString

/-- A character behind its quote. -/
def characterRest (c : Cursor) : Except Fault (Char × Cursor) := do
  let ch ← c.next
  if ch = '\\' then
    let (e, c) ← escape c.step
    match c.after? ['\''] with
    | some c => return (e, c)
    | none => c.fault .expectedChar
  else if ch ≠ '\'' ∧ c.step.rest.head? = some '\'' then return (ch, c.advance 2)
  else c.fault .expectedChar

end RouteLocalizer.Ron.Reader
