/-
  READING JSON.

  Every reader takes the text from where it stands and answers a value with the text behind it, or
  a `Fault`.  Values nest no deeper than 127 arrays and objects; `value` recurses on the levels
  that are left, and a list of items or members on the number of characters, since each of them
  takes at least a comma.

  A number keeps its digits in a 64-bit word as long as they fit.  Digits of the whole part that do
  not fit only count, digits of the fraction that do not fit are dropped, and the word is then
  multiplied with or divided by one power of ten.  This is not always the nearest number, and it is
  the value that a manifest's number has.
-/
import RouteLocalizer.Json.Basic
import RouteLocalizer.Json.Fault
import RouteLocalizer.Decimal.Notation
import RouteLocalizer.Text.Hexadecimal

namespace RouteLocalizer.Json.Reader

open Text Decimal

/-- What a reader answers: a value and the text behind it, or a fault. -/
abbrev Reading (α : Type) := Except Fault (α × Text)

/-- The white space of JSON. -/
def isSpace (c : Char) : Bool := c == ' ' || c == '\n' || c == '\t' || c == '\r'

/-- The text behind the white space at its start. -/
def skipSpace (text : Text) : Text := text.dropWhile isSpace

/-! ## Words -/

/-- Reads the rest of a word character by character, and answers its value. -/
def word (value : Json) : Text → Text → Reading Json
  | [], text => .ok (value, text)
  | _ :: _, [] => .error (.before .endInValue [])
  | w :: ws, c :: cs =>
    if w = c then word value ws cs else .error (.behindByte .expectedIdent (c :: cs))

/-! ## Strings -/

/-- Four hexadecimal digits.  Four BYTES are taken, whatever they are, before they are looked at. -/
def hexUnit (text : Text) : Reading Nat :=
  if text.byteSize < 4 then .error (.before .endInString [])
  else match hexNumber (text.take 4) with
    | some n => .ok (n, text.drop 4)
    | none => .error ⟨.invalidEscape, text.byteSize - 4⟩

/-- The second half of a surrogate pair, behind its first half. -/
def lowSurrogate (high : Nat) : Text → Reading Char
  | [] => .error (.before .endInString [])
  | '\\' :: 'u' :: rest =>
    match hexUnit rest with
    | .error fault => .error fault
    | .ok (low, rest) =>
      if low < 0xDC00 ∨ 0xDFFF < low then .error (.before .loneSurrogate rest)
      else .ok (Char.ofNat ((high - 0xD800) * 0x400 + (low - 0xDC00) + 0x10000), rest)
  | '\\' :: rest =>
    match rest with
    | [] => .error (.before .endInString [])
    | _ :: _ => .error (.behindByte .unpairedSurrogate rest)
  | text => .error (.behindByte .unpairedSurrogate text)

/-- The character that an escape names by its code. -/
def codeEscape (text : Text) : Reading Char :=
  match hexUnit text with
  | .error fault => .error fault
  | .ok (code, rest) =>
    if 0xDC00 ≤ code ∧ code ≤ 0xDFFF then .error (.before .loneSurrogate rest)
    else if 0xD800 ≤ code ∧ code ≤ 0xDBFF then lowSurrogate code rest
    else .ok (Char.ofNat code, rest)

/-- The character that a letter behind a backslash stands for. -/
def shortEscape : Char → Option Char
  | '"' => some '"'
  | '\\' => some '\\'
  | '/' => some '/'
  | 'b' => some '\x08'
  | 'f' => some '\x0c'
  | 'n' => some '\n'
  | 'r' => some '\r'
  | 't' => some '\t'
  | _ => none

/-- The character of an escape, behind its backslash. -/
def escape : Text → Reading Char
  | [] => .error (.before .endInString [])
  | 'u' :: rest => codeEscape rest
  | c :: rest =>
    match shortEscape c with
    | some e => .ok (e, rest)
    | none => .error (.behindByte .invalidEscape (c :: rest))

/-- A string behind its opening quote; `steps` bounds the characters still to be looked at. -/
def stringBody : (steps : Nat) → Text → Reading Text
  | 0, text => .error (.before .endInString text)
  | _ + 1, [] => .error (.before .endInString [])
  | steps + 1, c :: rest =>
    if c = '"' then .ok ([], rest)
    else if c = '\\' then
      match escape rest with
      | .error fault => .error fault
      | .ok (e, rest) => (stringBody steps rest).map fun (text, rest) => (e :: text, rest)
    else if c.toNat < 0x20 then .error (.behindByte .controlCharacter (c :: rest))
    else (stringBody steps rest).map fun (text, rest) => (c :: text, rest)

/-- A string behind its opening quote. -/
def string (text : Text) : Reading Text := stringBody (text.length + 1) text

/-! ## Numbers -/

/-- The value of a digit. -/
def digitValue (c : Char) : Nat := c.toNat - '0'.toNat

/-- Appends digits to a number as long as it fits a 64-bit word; answers the digits left over. -/
def accumulate (significand : Nat) : Text → Nat × Text
  | [] => (significand, [])
  | d :: ds =>
    let next := 10 * significand + digitValue d
    if next < wordLimit then accumulate next ds else (significand, d :: ds)

/-- A power of ten of the floating-point format. -/
def powerOfTen (n : Nat) : Double := Double.nearest false (Nat.pow 10 n) 1

/-- Divides by 10^308 until the power that is left lies within the format. -/
def scaleDown (f : Double) (power : Nat) : Double :=
  if power ≤ 308 then f.dividedBy (powerOfTen power)
  else if f.isZero then f
  else scaleDown (f.dividedBy (powerOfTen 308)) (power - 308)
termination_by power

/-- A significand times a power of ten; nothing when it is out of range. -/
def scaled (significand : Nat) (power : Int) : Option Double :=
  let f := Double.nearest false significand 1
  if power < 0 then some (scaleDown f (-power).toNat)
  else if 308 < power then (if f.isZero then some f else none)
  else match f.times (powerOfTen power.toNat) with
    | .finite s m e => some (.finite s m e)
    | _ => none

/-- The sign put on a number. -/
def signed (negative : Bool) (f : Double) : Double := if negative then f.negate else f

/-- A number that is no whole one. -/
def fraction (negative : Bool) (significand : Nat) (power : Int) (rest : Text) : Reading Json :=
  match scaled significand power with
  | some f => .ok (.double (signed negative f), rest)
  | none => .error (.before .numberOutOfRange rest)

/-- The largest exponent that is still counted. -/
def mostExponent : Nat := 0x7FFFFFFF

/-- Splits the digits of an exponent behind the first one at which it is too large. -/
def exponentDigits (value : Nat) : Text → Nat × Option Text
  | [] => (value, none)
  | d :: ds =>
    let next := 10 * value + digitValue d
    if mostExponent < next then (value, some ds) else exponentDigits next ds

/-- The exponent of a number, behind its letter. -/
def exponent (negative : Bool) (significand : Nat) (start : Int) (text : Text) : Reading Json :=
  let (down, digits) := readSign text
  match digits with
  | [] => .error (.before .endInValue [])
  | c :: _ =>
    if !c.isDigit then .error (.behindByte .invalidNumber digits)
    else
      let rest := digits.dropWhile Char.isDigit
      match exponentDigits 0 (digits.takeWhile Char.isDigit) with
      | (value, none) =>
        fraction negative significand (if down then start - value else start + value) rest
      | (_, some unread) =>
        if significand ≠ 0 ∧ !down then .error (.before .numberOutOfRange (unread ++ rest))
        else .ok (.double (signed negative (Double.nearest false 0 1)), rest)

/-- What follows the digits of a number that is no whole one. -/
def exponentOrEnd (negative : Bool) (significand : Nat) (power : Int) (text : Text) :
    Reading Json :=
  match text with
  | c :: rest =>
    if c == 'e' || c == 'E' then exponent negative significand power rest
    else fraction negative significand power text
  | [] => fraction negative significand power []

/-- The fraction of a number, behind its point. -/
def decimals (negative : Bool) (significand : Nat) (power : Int) (text : Text) : Reading Json :=
  let digits := text.takeWhile Char.isDigit
  let rest := text.dropWhile Char.isDigit
  if digits.isEmpty then
    match rest with
    | [] => .error (.before .endInValue [])
    | _ :: _ => .error (.behindByte .invalidNumber rest)
  else
    let (significand, dropped) := accumulate significand digits
    exponentOrEnd negative significand (power - ((digits.length : Int) - dropped.length)) rest

/-- A whole number, unless it does not fit the words: minus zero and all beyond is no whole one. -/
def wholeOrDouble (negative : Bool) (significand : Nat) : Json :=
  if !negative then .whole significand
  else if 0 < significand ∧ 2 * significand ≤ wordLimit then .whole (-significand)
  else .double (Double.nearest true significand 1)

/-- What follows the whole part of a number. -/
def wholeRest (negative : Bool) (digits rest : Text) : Reading Json :=
  let (significand, extra) := accumulate 0 digits
  match rest with
  | '.' :: behind => decimals negative significand extra.length behind
  | c :: behind =>
    if c == 'e' || c == 'E' then exponent negative significand extra.length behind
    else if extra.isEmpty then .ok (wholeOrDouble negative significand, rest)
    else fraction negative significand extra.length rest
  | [] =>
    if extra.isEmpty then .ok (wholeOrDouble negative significand, [])
    else fraction negative significand extra.length []

/-- A number behind its sign. -/
def number (negative : Bool) (text : Text) : Reading Json :=
  match text with
  | [] => .error (.before .endInValue [])
  | c :: behind =>
    if !c.isDigit then .error (.behindByte .invalidNumber text)
    else if c = '0' ∧ behind.head?.any Char.isDigit then
      .error (.behindByte .invalidNumber behind)
    else wholeRest negative (text.takeWhile Char.isDigit) (text.dropWhile Char.isDigit)

/-! ## Arrays and objects -/

/-- The items of an array behind the first one; `steps` bounds the items. -/
def moreItems (item : Text → Reading Json) : (steps : Nat) → Text → Reading (List Json)
  | 0, text => .error (.before .endInList text)
  | steps + 1, text =>
    match skipSpace text with
    | [] => .error (.before .endInList [])
    | ']' :: rest => .ok ([], rest)
    | ',' :: rest =>
      match skipSpace rest with
      | [] => .error (.before .endInValue [])
      | ']' :: behind => .error (.behindByte .trailingComma (']' :: behind))
      | next =>
        match item next with
        | .error fault => .error fault
        | .ok (value, rest) =>
          (moreItems item steps rest).map fun (values, rest) => (value :: values, rest)
    | other => .error (.behindByte .expectedListComma other)

/-- The items of an array, behind its bracket. -/
def items (item : Text → Reading Json) (text : Text) : Reading (List Json) :=
  match skipSpace text with
  | [] => .error (.before .endInList [])
  | ']' :: rest => .ok ([], rest)
  | next =>
    match item next with
    | .error fault => .error fault
    | .ok (value, rest) =>
      (moreItems item (rest.length + 1) rest).map fun (values, rest) => (value :: values, rest)

/-- A member of an object, behind the quote that opens its name. -/
def member (item : Text → Reading Json) (text : Text) : Reading (Text × Json) :=
  match string text with
  | .error fault => .error fault
  | .ok (name, rest) =>
    match skipSpace rest with
    | [] => .error (.before .endInObject [])
    | ':' :: rest => (item rest).map fun (value, rest) => ((name, value), rest)
    | other => .error (.behindByte .expectedColon other)

/-- The members of an object behind the first one; `steps` bounds the members. -/
def moreMembers (item : Text → Reading Json) : (steps : Nat) → Text → Reading Members
  | 0, text => .error (.before .endInObject text)
  | steps + 1, text =>
    match skipSpace text with
    | [] => .error (.before .endInObject [])
    | '\x7d' :: rest => .ok ([], rest)
    | ',' :: rest =>
      match skipSpace rest with
      | [] => .error (.before .endInValue [])
      | '"' :: rest =>
        match member item rest with
        | .error fault => .error fault
        | .ok (m, rest) => (moreMembers item steps rest).map fun (ms, rest) => (m :: ms, rest)
      | '\x7d' :: behind => .error (.behindByte .trailingComma ('\x7d' :: behind))
      | other => .error (.behindByte .keyMustBeString other)
    | other => .error (.behindByte .expectedObjectComma other)

/-- The members of an object, behind its brace, as they stand in the text. -/
def membersRead (item : Text → Reading Json) (text : Text) : Reading Members :=
  match skipSpace text with
  | [] => .error (.before .endInObject [])
  | '\x7d' :: rest => .ok ([], rest)
  | '"' :: rest =>
    match member item rest with
    | .error fault => .error fault
    | .ok (m, rest) =>
      (moreMembers item (rest.length + 1) rest).map fun (ms, rest) => (m :: ms, rest)
  | other => .error (.behindByte .keyMustBeString other)

/-- An object of the members that were read: of two with one name the last value stands, in the
    place of the first. -/
def objectOf (read : Members) : Json :=
  .object (read.foldl (fun members m => Members.set m.1 m.2 members) [])

/-! ## Values -/

/-- Reads a value whose arrays and objects are read by `item`; without it they are too deep. -/
def valueWith (item : Option (Text → Reading Json)) (text : Text) : Reading Json :=
  match skipSpace text with
  | [] => .error (.before .endInValue [])
  | c :: rest =>
    if c = 'n' then word .null ['u', 'l', 'l'] rest
    else if c = 't' then word (.bool true) ['r', 'u', 'e'] rest
    else if c = 'f' then word (.bool false) ['a', 'l', 's', 'e'] rest
    else if c = '-' then number true rest
    else if c.isDigit then number false (c :: rest)
    else if c = '"' then (string rest).map fun (text, rest) => (.string text, rest)
    else if c = '[' then
      match item with
      | some item => (items item rest).map fun (values, rest) => (.array values, rest)
      | none => .error (.behindByte .tooDeep (c :: rest))
    else if c = '\x7b' then
      match item with
      | some item => (membersRead item rest).map fun (members, rest) => (objectOf members, rest)
      | none => .error (.behindByte .tooDeep (c :: rest))
    else .error (.behindByte .expectedValue (c :: rest))

/-- Reads a value that nests at most `levels` deep. -/
def value : (levels : Nat) → Text → Reading Json
  | 0 => valueWith none
  | levels + 1 => valueWith (some (value levels))

/-- How deep arrays and objects may nest. -/
def mostLevels : Nat := 127

end RouteLocalizer.Json.Reader

namespace RouteLocalizer.Json

open Reader

/-- The value that a whole text spells. -/
def read (text : Text) : Except Fault Json :=
  match Reader.value mostLevels text with
  | .error fault => .error fault
  | .ok (value, rest) =>
    match skipSpace rest with
    | [] => .ok value
    | other => .error (.behindByte .trailingCharacters other)

end RouteLocalizer.Json
