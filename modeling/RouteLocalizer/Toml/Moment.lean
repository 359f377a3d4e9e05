/-
  DATES AND TIMES of TOML, and the text that shows them.

  There are dates, times of day, and both together with or without an offset from universal time.
  The text that shows one is uniform: a `T` between date and time, a fraction of a second of at most
  nine digits without zeros at its end, and a `Z` or an offset in hours and minutes.

  A moment stands in a document as it is, or it is spelled in a string.  The two differ in how far
  hours and offsets may go (`Bounds`), and a spelled moment has nothing behind it.
-/
import RouteLocalizer.Toml.Number

namespace RouteLocalizer.Toml.Reader

open Text

/-- How far the numbers of a moment may go. -/
structure Bounds where
  /-- The last hour of a day. -/
  hour : Nat
  /-- The most hours of an offset. -/
  offsetHour : Nat
  /-- The most minutes of an offset behind its hours. -/
  offsetMinute : Nat
  /-- The most minutes of an offset in all. -/
  offset : Nat

/-- The bounds of a moment in a document. -/
def Bounds.document : Bounds := ⟨23, 23, 59, 1439⟩

/-- The bounds of a moment that is spelled in a string. -/
def Bounds.spelled : Bounds := ⟨24, 99, 99, 1440⟩

/-- A number of exactly `count` digits that lies between two bounds, with its text. -/
def fixed (count least most : Nat) (text : Text) : Reading Text :=
  let ds := text.take count
  if ds.length = count ∧ ds.all Char.isDigit ∧ least ≤ digitsValue ds ∧ digitsValue ds ≤ most then
    some (ds, text.drop count)
  else none

/-- A given character. -/
def sign (c : Char) (text : Text) : Option Text :=
  if text.head? = some c then some (text.drop 1) else none

/-- Whether a year has a 29th of February. -/
def isLeap (year : Nat) : Bool := year % 4 == 0 && (year % 100 != 0 || year % 400 == 0)

/-- The number of days of a month. -/
def daysIn (year month : Nat) : Nat :=
  if month = 2 then (if isLeap year then 29 else 28)
  else if month = 4 ∨ month = 6 ∨ month = 9 ∨ month = 11 then 30 else 31

/-- A date. -/
def date (text : Text) : Option (Text × Text) := do
  let (year, text) ← fixed 4 0 9999 text
  let text ← sign '-' text
  let (month, text) ← fixed 2 1 12 text
  let text ← sign '-' text
  let (day, text) ← fixed 2 1 (daysIn (digitsValue year) (digitsValue month)) text
  return (year ++ "-" ++ month ++ "-" ++ day, text)

/-- The fraction of a second, if there is one.  Digits behind the ninth do not count. -/
def secondFraction (text : Text) : Text × Text :=
  match text with
  | '.' :: rest =>
    let ds := rest.takeWhile Char.isDigit
    let shown := dropEndWhile (· == '0') (ds.take 9)
    if ds.isEmpty then ([], text)
    else (if shown.isEmpty then [] else '.' :: shown, rest.drop ds.length)
  | _ => ([], text)

/-- A time of day. -/
def time (b : Bounds) (text : Text) : Option (Text × Text) := do
  let (hour, text) ← fixed 2 0 b.hour text
  let text ← sign ':' text
  let (minute, text) ← fixed 2 0 59 text
  let text ← sign ':' text
  let (second, text) ← fixed 2 0 60 text
  let (fraction, text) := secondFraction text
  return (hour ++ ":" ++ minute ++ ":" ++ second ++ fraction, text)

/-- Whether a character starts an offset in hours and minutes. -/
def isOffsetSign (c : Char) : Bool := c == '+' || c == '-'

/-- A number in at least two digits. -/
def twoDigits (n : Nat) : Text := if n < 10 then '0' :: ofNat n else ofNat n

/-- The offset in hours and minutes behind its sign.  An offset of nothing is positive. -/
def hourOffset (b : Bounds) (c : Char) (text : Text) : Option (Text × Text) := do
  let (hour, text) ← fixed 2 0 b.offsetHour text
  let text ← sign ':' text
  let (minute, text) ← fixed 2 0 b.offsetMinute text
  let total := 60 * digitsValue hour + digitsValue minute
  let shown := if total = 0 then '+' else c
  if total ≤ b.offset then
    some (shown :: twoDigits (total / 60) ++ ":" ++ twoDigits (total % 60), text)
  else none

/-- The offset from universal time, if there is one. -/
def offset (b : Bounds) (text : Text) : Reading Text :=
  match text with
  | [] => some ([], [])
  | c :: rest =>
    if c == 'Z' || c == 'z' then some (['Z'], rest)
    else if isOffsetSign c then hourOffset b c rest
    else some ([], text)

/-- Whether a character may stand between date and time. -/
def isDelimiter (c : Char) : Bool := c == 'T' || c == 't' || c == ' '

/-- The time and the offset behind a date, if they are there. -/
def timeBehind (b : Bounds) (text : Text) : Reading Text :=
  if text.head?.any isDelimiter then
    match time b (text.drop 1) with
    | none => some ([], text)
    | some (shown, rest) => (offset b rest).map fun (o, rest) => ('T' :: shown ++ o, rest)
  else some ([], text)

/-- The text that shows a date, a time of day, or both. -/
def shownMoment (b : Bounds) (text : Text) : Reading Text :=
  match date text with
  | some (day, rest) => (timeBehind b rest).map fun (t, rest) => (day ++ t, rest)
  | none => time b text

/-- A moment in a document. -/
def moment (text : Text) : Reading Toml :=
  (shownMoment .document text).map fun (shown, rest) => (.moment shown, rest)

/-- The moment that a string spells. -/
def spelledMoment (text : Text) : Option Toml :=
  match shownMoment .spelled text with
  | some (shown, []) => some (.moment shown)
  | _ => none

end RouteLocalizer.Toml.Reader
