/-
  READING JSON5: JSON with the liberties of scripts.

  There may be comments, to the end of a line or between marks, a comma behind the last item, names
  without quotes, single quotes, escapes for any character, and numbers with a plus sign, with a
  point at either end, or with hexadecimal digits.

  A reader is an ATTEMPT: it answers what it has read with the text behind it, or nothing, and it
  takes note of the parts that it has missed in either case.  Alternatives are tried one after
  another, and the first that succeeds counts.
-/
import RouteLocalizer.Json5.Basic
import RouteLocalizer.Json5.Fault
import RouteLocalizer.Json5.Name
import RouteLocalizer.Text.Hexadecimal

namespace RouteLocalizer.Json5.Reader

open Text

/-- What a reader makes: an answer or none, and a note of what was missed. -/
abbrev Attempt := OptionT (StateM Missed)

/-- Misses a part in front of a text. -/
def miss {α : Type} (part : Part) (text : Text) : Attempt α := do
  modify (Missed.note part text.length)
  failure

/-- A part that a message names: where it is not found, it is missed. -/
def named {α : Type} (part : Part) (read : Text → Attempt α) (text : Text) : Attempt α :=
  read text <|> miss part text

/-- An answer that may be none. -/
def attempt {α : Type} : Option α → Attempt α
  | some a => pure a
  | none => failure

/-! ## What does not count -/

/-- The text behind a comment between marks, behind the first of them. -/
def behindComment : Text → Option Text
  | [] => none
  | '*' :: '/' :: rest => some rest
  | _ :: rest => behindComment rest

/-- The text behind white space and comments; `steps` bounds the number of comments. -/
def skipUpTo : (steps : Nat) → Text → Text
  | 0, text => text
  | steps + 1, text =>
    let text := text.dropWhile isSpace
    match text with
    | '/' :: '/' :: rest => skipUpTo steps (rest.dropWhile fun c => !endsLine c)
    | '/' :: '*' :: rest =>
      match behindComment rest with
      | some rest => skipUpTo steps rest
      | none => text
    | _ => text

/-- The text behind white space and comments. -/
def skip (text : Text) : Text := skipUpTo (text.length + 1) text

/-- The text behind a word in front of it. -/
def word (spelled : Text) (text : Text) : Attempt Text := attempt (afterWord spelled text)

/-! ## Strings and names -/

/-- As many hexadecimal digits. -/
def digits (count : Nat) (text : Text) : Attempt (Text × Text) :=
  let found := text.take count
  if found.length = count && found.all fun c => (hexDigitValue c).isSome then
    pure (found, text.drop count)
  else failure

/-- The letters that stand for another character, and the characters that stand for themselves and
    could be taken for something else. -/
def escapeLetters : Text := "'\"\\bfnrtv"

/-- The letter of an escape: one that stands for a character, or any that means nothing. -/
def escapeLetter : Text → Attempt (Piece × Text)
  | [] => failure
  | c :: rest =>
    if escapeLetters.elem c || !(c.isDigit || c == 'x' || c == 'u' || endsLine c) then
      pure (.letter c, rest)
    else failure

/-- The zero of an escape. -/
def escapeZero (text : Text) : Attempt (Piece × Text) := do
  let rest ← word ['0'] text
  return (.zero, rest)

/-- An escape by two digits, behind their mark. -/
def escapePair (text : Text) : Attempt (Piece × Text) := do
  let (found, rest) ← digits 2 text
  return (.pair found, rest)

/-- An escape by four digits, behind their mark. -/
def escapeCode (text : Text) : Attempt (Piece × Text) := do
  let (found, rest) ← digits 4 text
  return (.code found, rest)

/-- An escape, behind its backslash. -/
def escape (text : Text) : Attempt (Piece × Text) :=
  named .shortEscape escapeLetter text
  <|> named .zeroEscape escapeZero text
  <|> (do named .pairEscape escapePair (← word ['x'] text))
  <|> (do named .codeEscape escapeCode (← word ['u'] text))

/-- The text behind the end of a line. -/
def lineEnd : Text → Attempt Text
  | '\r' :: '\n' :: rest => pure rest
  | c :: rest => if endsLine c then pure rest else failure
  | [] => failure

/-- What stands in a string: a piece or, behind a backslash, the end of a line, which is none. -/
def stringPart (text : Text) : Attempt (List Piece × Text) :=
  match text with
  | [] => miss .literal text
  | c :: rest =>
    if c = '\\' then
      (do let (p, rest) ← escape rest; return ([p], rest))
      <|> (do let rest ← lineEnd rest; return ([], rest))
    else if endsLine c then miss .literal text
    else pure ([.literal c], rest)

/-- A string behind its quote; `steps` bounds its parts. -/
def stringRest (quote : Char) : (steps : Nat) → Text → Attempt (List Piece × Text)
  | 0, _ => failure
  | steps + 1, text =>
    if text.head? = some quote then pure ([], text.tail)
    else do
      let (first, rest) ← stringPart text
      let (others, rest) ← stringRest quote steps rest
      return (first ++ others, rest)

/-- A string. -/
def string : Text → Attempt (List Piece × Text)
  | [] => failure
  | c :: rest => if c = '"' ∨ c = '\'' then stringRest c (rest.length + 1) rest else failure

/-- A piece of a name, which is a character of a class or an escape by four digits. -/
def namePiece (fits : Char → Bool) (text : Text) : Attempt (Piece × Text) :=
  (match text with
    | [] => failure
    | c :: rest => if fits c then pure (.literal c, rest) else failure)
  <|> (do named .codeEscape escapeCode (← word "\\u" text))

/-- The pieces of a name behind the first one; `steps` bounds their number. -/
def nameRest : (steps : Nat) → Text → Attempt (List Piece × Text)
  | 0, text => pure ([], text)
  | steps + 1, text =>
    (do
      let (first, rest) ← namePiece isNameChar text
      let (others, rest) ← nameRest steps rest
      return (first :: others, rest))
    <|> pure ([], text)

/-- A name without quotes. -/
def name (text : Text) : Attempt (List Piece × Text) := do
  let (first, rest) ← namePiece startsName text
  let (others, rest) ← nameRest rest.length rest
  return (first :: others, rest)

/-! ## Numbers -/

/-- The spelling of an exponent, if there is one. -/
def exponentOf : Text → Text
  | [] => []
  | c :: rest =>
    if c = 'e' ∨ c = 'E' then
      let sign := rest.take (if rest.head? = some '+' ∨ rest.head? = some '-' then 1 else 0)
      let digits := (rest.drop sign.length).takeWhile Char.isDigit
      if digits.isEmpty then [] else c :: sign ++ digits
    else []

/-- The spelling of a decimal number, or nothing where there is none. -/
def decimalOf (text : Text) : Text :=
  let whole := if text.head? = some '0' then ['0'] else text.takeWhile Char.isDigit
  let rest := text.drop whole.length
  let fraction : Text := match rest with
    | '.' :: rest => '.' :: rest.takeWhile Char.isDigit
    | _ => []
  if whole.isEmpty && fraction.length < 2 then []
  else whole ++ fraction ++ exponentOf (rest.drop fraction.length)

/-- The spelling of a hexadecimal number, or nothing where there is none. -/
def hexadecimalOf : Text → Text
  | '0' :: x :: rest =>
    let digits := rest.takeWhile fun c => (hexDigitValue c).isSome
    if (x = 'x' ∨ x = 'X') ∧ !digits.isEmpty then '0' :: x :: digits else []
  | _ => []

/-- The spelling of a number without its sign, or nothing where there is none. -/
def sizeOf (text : Text) : Text :=
  let hexadecimal := hexadecimalOf text
  let decimal := decimalOf text
  if !hexadecimal.isEmpty then hexadecimal
  else if !decimal.isEmpty then decimal
  else if (afterWord "Infinity" text).isSome then "Infinity"
  else if (afterWord "NaN" text).isSome then "NaN"
  else []

/-- A number. -/
def number (text : Text) : Attempt (Json5 × Text) :=
  let sign := text.take (if text.head? = some '+' ∨ text.head? = some '-' then 1 else 0)
  let size := sizeOf (text.drop sign.length)
  if size.isEmpty then failure
  else pure (.number (sign ++ size), text.drop (sign.length + size.length))

/-! ## Values -/

/-- A word that spells a value. -/
def wordValue (spelled : Text) (value : Json5) (text : Text) : Attempt (Json5 × Text) := do
  let rest ← word spelled text
  return (value, rest)

/-- What stands behind the first item of a list: items behind commas; `steps` bounds their number.
    White space is skipped in front of a comma and behind it. -/
def more {α : Type} (item : Text → Attempt (α × Text)) :
    (steps : Nat) → Text → Attempt (List α × Text)
  | 0, text => pure ([], text)
  | steps + 1, text =>
    (do
      let rest ← word [','] (skip text)
      let (first, rest) ← item (skip rest)
      let (others, rest) ← more item steps rest
      return (first :: others, rest))
    <|> pure ([], text)

/-- The items of a list with a comma between two of them, and perhaps one behind the last, up to the
    mark that closes the list; the text stands behind the mark that opens it. -/
def items {α : Type} (close : Char) (item : Text → Attempt (α × Text)) (text : Text) :
    Attempt (List α × Text) :=
  let text := skip text
  (do
    let rest ← word [close] text
    return ([], rest))
  <|> (do
    let (first, rest) ← item text
    let (others, rest) ← more item rest.length rest
    let rest := skip rest
    let rest := skip ((afterWord [','] rest).getD rest)
    let rest ← word [close] rest
    return (first :: others, rest))

/-- A member of an object. -/
def member (item : Text → Attempt (Json5 × Text)) (text : Text) :
    Attempt ((List Piece × Json5) × Text) := do
  let (key, rest) ← named .name name text <|> named .string string text
  let rest ← word [':'] (skip rest)
  let (value, rest) ← item (skip rest)
  return ((key, value), rest)

/-- An array. -/
def array (item : Text → Attempt (Json5 × Text)) (text : Text) : Attempt (Json5 × Text) := do
  let (values, rest) ← items ']' item (← word ['['] text)
  return (.array values, rest)

/-- An object. -/
def object (item : Text → Attempt (Json5 × Text)) (text : Text) : Attempt (Json5 × Text) := do
  let (members, rest) ← items '\x7d' (member item) (← word ['\x7b'] text)
  return (.object members, rest)

/-- Reads a value whose arrays and objects are read by `item`. -/
def valueWith (item : Text → Attempt (Json5 × Text)) (text : Text) : Attempt (Json5 × Text) :=
  named .null (wordValue "null" .null) text
  <|> named .boolean (fun text =>
    wordValue "true" (.bool true) text <|> wordValue "false" (.bool false) text) text
  <|> named .string (fun text => do
    let (pieces, rest) ← string text
    return (.string pieces, rest)) text
  <|> named .number number text
  <|> named .object (object item) text
  <|> named .array (array item) text

/-- Reads a value that nests fewer than `levels` deep. -/
def value : (levels : Nat) → Text → Attempt (Json5 × Text)
  | 0 => fun _ => failure
  | levels + 1 => valueWith (value levels)

/-- The end of a text. -/
def ending (text : Text) : Attempt Unit := if text.isEmpty then pure () else failure

/-- The value that a whole text spells. -/
def whole (text : Text) : Attempt Json5 := do
  let (v, rest) ← value (text.length + 1) (skip text)
  named .ending ending (skip rest)
  return v

end RouteLocalizer.Json5.Reader

namespace RouteLocalizer.Json5

/-- The value that is written in a text, or what was missed. -/
def parse (text : Text) : Except Missed Json5 :=
  match (Reader.whole text).run.run ⟨text.length, []⟩ with
  | (some v, _) => .ok v
  | (none, m) => .error m

end RouteLocalizer.Json5
