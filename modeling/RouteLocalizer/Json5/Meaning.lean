/-
  What JSON5 MEANS: the values that its spellings stand for, told in the terms of JSON.

  A number without a point and an exponent is a whole one, and has to fit a 64-bit word with a sign;
  a hexadecimal one stands without a sign and fits 32 bits.  A character beyond the first 65536 is
  spelled by two codes, the halves of a pair.

  Of several faults the first one in the text counts.
-/
import RouteLocalizer.Decimal.Notation
import RouteLocalizer.Json.Reader
import RouteLocalizer.Json5.Reader

namespace RouteLocalizer.Json5

open Text Decimal

/-! ## Strings -/

/-- The character that the letter of an escape stands for. -/
def escaped (c : Char) : Char :=
  match c with
  | 'b' => '\x08'
  | 'f' => '\x0c'
  | 'n' => '\n'
  | 'r' => '\r'
  | 't' => '\t'
  | 'v' => '\x0b'
  | c => c

/-- The second half of a pair of codes. -/
def trailOf (p : Piece) : Except Reason Nat :=
  match hexNumber p.spelling with
  | none => .error .hexadecimal
  | some code => if 0xDC00 ≤ code ∧ code ≤ 0xDFFF then .ok code else .error .otherTrail

/-- The character of a pair of codes. -/
def joined (lead trail : Nat) : Char :=
  Char.ofNat ((lead - 0xD800) * 0x400 + (trail - 0xDC00) + 0x10000)

/-- The text that pieces stand for. -/
def textOf : List Piece → Except Reason Text
  | [] => .ok []
  | .literal c :: rest => (textOf rest).map (c :: ·)
  | .letter c :: rest => (textOf rest).map (escaped c :: ·)
  | .zero :: rest => (textOf rest).map ('\x00' :: ·)
  | .pair digits :: rest => (textOf rest).map (Char.ofNat ((hexNumber digits).getD 0) :: ·)
  | .code digits :: rest =>
    let code := (hexNumber digits).getD 0
    if 0xDC00 ≤ code ∧ code ≤ 0xDFFF then .error .loneTrail
    else if 0xD800 ≤ code ∧ code ≤ 0xDBFF then
      match rest with
      | [] => .error .missingTrail
      | p :: rest => do
        let trail ← trailOf p
        let others ← textOf rest
        return joined code trail :: others
    else (textOf rest).map (Char.ofNat code :: ·)

/-! ## Numbers -/

/-- The digits of a hexadecimal number without a sign. -/
def hexadecimalDigits : Text → Option Text
  | '0' :: x :: d :: rest => if x = 'x' ∨ x = 'X' then some (d :: rest) else none
  | _ => none

/-- The spellings of what is no finite number. -/
def boundless (spelled : Text) : Option Double :=
  if spelled = "Infinity" then some (.infinite false)
  else if spelled = "-Infinity" then some (.infinite true)
  else if spelled = "NaN" ∨ spelled = "-NaN" then some .nan
  else none

/-- A number in hexadecimal digits, which fits 32 bits. -/
def hexadecimalValue (digits : Text) : Except Reason Json :=
  match hexNumber digits with
  | some n => if n < 0x100000000 then .ok (.whole n) else .error .hexadecimal
  | none => .error .hexadecimal

/-- A number with a point or an exponent, which is finite. -/
def fractionValue (spelled : Text) : Except Reason Json :=
  match readDouble spelled with
  | none => .error .number
  | some (.finite s m e) => .ok (.double (.finite s m e))
  | some _ => .error .tooLarge

/-- The value of a number. -/
def numberValue (spelled : Text) : Except Reason Json :=
  match boundless spelled, hexadecimalDigits spelled with
  | some d, _ => .ok (.double d)
  | none, some digits => hexadecimalValue digits
  | none, none =>
    if spelled.any fun c => c == '.' || c == 'e' || c == 'E' then fractionValue spelled
    else match readInteger spelled with
      | some i => .ok (.whole i)
      | none => .error .integer

/-! ## Values -/

mutual

/-- The value that is written. -/
def meaning : Json5 → Except Reason Json
  | .null => .ok .null
  | .bool b => .ok (.bool b)
  | .number spelled => numberValue spelled
  | .string pieces => (textOf pieces).map .string
  | .array items => (itemsMeaning items).map .array
  | .object members => (membersMeaning members).map Json.Reader.objectOf

/-- The items of an array. -/
def itemsMeaning : List Json5 → Except Reason (List Json)
  | [] => .ok []
  | v :: rest =>
    match meaning v with
    | .error reason => .error reason
    | .ok v => (itemsMeaning rest).map (v :: ·)

/-- The members of an object. -/
def membersMeaning : List (List Piece × Json5) → Except Reason Json.Members
  | [] => .ok []
  | (key, v) :: rest =>
    match textOf key with
    | .error reason => .error reason
    | .ok key =>
      match meaning v with
      | .error reason => .error reason
      | .ok v => (membersMeaning rest).map ((key, v) :: ·)

end

/-- The value that a whole text spells. -/
def read (text : Text) : Except Fault Json :=
  match parse text with
  | .error m => .error (.missed m)
  | .ok v => (meaning v).mapError .meaning

end RouteLocalizer.Json5
