/-
  ESCAPES of patterns: a backslash, and what it makes of the characters behind it.

  Punctuation stands for itself, some letters for a control character, a class or a condition, and
  others start the code of a character.  An opening brace may start a longer form of an escape; a
  pattern in a log filter never has the brace that would close it, so the longer forms are all
  faulty.
-/
import RouteLocalizer.Pattern.Cursor
import RouteLocalizer.Text.Hexadecimal

namespace RouteLocalizer.Pattern

open Cursor

/-- Whether a backslash makes a character stand for itself. -/
def isEscapable (c : Char) : Bool :=
  c.toNat < 0x80 && !c.isAlphanum && c != '<' && c != '>'

/-- The control character that an escape by a letter stands for. -/
def controlEscape : Char → Option Char
  | 'a' => some '\x07'
  | 'f' => some '\x0c'
  | 't' => some '\t'
  | 'n' => some '\n'
  | 'r' => some '\r'
  | 'v' => some '\x0b'
  | _ => none

/-- Whether an escape by a letter is a class: digits, blanks, word characters, or all others. -/
def isShorthand (c : Char) : Bool := ['d', 's', 'w', 'D', 'S', 'W'].elem c

/-! ## Codes of characters -/

/-- The number of digits behind the letter of a code. -/
def codeLength (letter : Char) : Nat :=
  if letter = 'x' then 2 else if letter = 'u' then 4 else 8

/-- The value of the next `count` digits, behind digits of a known value. -/
def codeDigits : (count : Nat) → (value : Nat) → Cursor → Reading Nat
  | 0, value, c => .ok (value, c)
  | count + 1, value, c =>
    match c.head? with
    | none => fault .escapeAtEnd c.place.span
    | some ch =>
      match Text.hexDigitValue ch with
      | none => fault .codeDigitInvalid c.charSpan
      | some d => codeDigits count (16 * value + d) c.next

/-- What is wrong with a code behind an opening brace: a character that is no digit, or that the
    brace is not closed.  `steps` bounds the number of digits. -/
def bracedCode (brace : Position) : (steps : Nat) → Cursor → Fault
  | 0, c => ⟨.escapeAtEnd, c.spanFrom brace, none⟩
  | steps + 1, c =>
    match c.head? with
    | none => ⟨.escapeAtEnd, c.spanFrom brace, none⟩
    | some ch =>
      if (Text.hexDigitValue ch).isSome then bracedCode brace steps c.next
      else ⟨.codeDigitInvalid, c.charSpan, none⟩

/-- The character of a code; the cursor stands at its letter, and the escape starts at `start`. -/
def readCode (start : Position) (letter : Char) (c : Cursor) : Reading Pattern :=
  let digits := c.next
  if digits.isAtEnd then fault .escapeAtEnd digits.place.span
  else if digits.head? = some '\x7b' then
    .error (bracedCode digits.place digits.rest.length digits.next)
  else
    match codeDigits (codeLength letter) 0 digits with
    | .error f => .error f
    | .ok (value, c) =>
      if value.isValidChar then
        .ok (.literal ⟨c.spanFrom start, Char.ofNat value, letter == 'x'⟩, c)
      else fault .codeInvalid (c.spanFrom digits.place)

/-! ## Properties and conditions -/

/-- A Unicode property by its letter; the cursor stands at the letter of the escape. -/
def readProperty (start : Position) (c : Cursor) : Reading Pattern :=
  let name := c.next
  match name.head? with
  | none => fault .escapeAtEnd name.place.span
  | some '\x7b' => fault .escapeAtEnd name.atEnd.place.span
  | some '\\' => fault .propertyInvalid name.charSpan
  | some letter => .ok (.property (name.next.spanFrom start) letter, name.next)

/-- A character of the name of a condition on words. -/
def isBoundaryChar (c : Char) : Bool := c.isAlpha || c == '-'

/-- The cursor behind the name of a condition on words; `steps` bounds its length. -/
def behindBoundaryName : (steps : Nat) → Cursor → Cursor
  | 0, c => c
  | steps + 1, c => if c.head?.any isBoundaryChar then behindBoundaryName steps c.next else c

/-- A word boundary, behind its letter.  An opening brace starts the name of another condition on
    words, which is never closed, unless no name can start there. -/
def readBoundary (start : Position) (c : Cursor) : Reading Pattern :=
  let boundary := Pattern.assertion (c.spanFrom start) true
  if c.head? = some '\x7b' then
    let name := c.next
    match name.head? with
    | none => fault .boundaryAtEnd (name.spanFrom start)
    | some ch =>
      if isBoundaryChar ch then
        fault .boundaryUnclosed ((behindBoundaryName name.rest.length name).spanFrom c.place)
      else .ok (boundary, c)
  else .ok (boundary, c)

/-! ## All escapes -/

/-- An escape by a letter, or by a character that has no meaning behind a backslash; the cursor
    stands behind it. -/
def readLetterEscape (start : Position) (letter : Char) (c : Cursor) : Reading Pattern :=
  let span := c.spanFrom start
  match controlEscape letter with
  | some control => .ok (.literal ⟨span, control, false⟩, c)
  | none =>
    if letter = 'A' ∨ letter = 'z' then .ok (.assertion span false, c)
    else if letter = 'B' ∨ letter = '<' ∨ letter = '>' then .ok (.assertion span true, c)
    else if letter = 'b' then readBoundary start c
    else fault .escapeUnknown span

/-- An escape; the cursor stands at its backslash. -/
def readEscape (c : Cursor) : Reading Pattern :=
  let start := c.place
  let c := c.step
  match c.head? with
  | none => fault .escapeAtEnd (c.spanFrom start)
  | some ch =>
    let span := c.step.spanFrom start
    if ch.isDigit then fault .backreference span
    else if ch = 'x' ∨ ch = 'u' ∨ ch = 'U' then readCode start ch c
    else if ch = 'p' ∨ ch = 'P' then readProperty start c
    else if isShorthand ch then .ok (.shorthand span ch.isUpper, c.step)
    else if isEscapable ch then .ok (.literal ⟨span, ch, false⟩, c.step)
    else readLetterEscape start ch c.step

end RouteLocalizer.Pattern
