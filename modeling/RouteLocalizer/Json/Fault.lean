/-
  Why a text is NO JSON, and where.

  A fault is a reason and a count of the bytes that were still unread when it was found.  From the
  count follow the line and the column that the message names: the lines before that place, and
  the bytes between it and the line end in front of it.
-/
import RouteLocalizer.Text.Basic

namespace RouteLocalizer.Json

/-- What is wrong with a text that should be JSON. -/
inductive Reason where
  | endInValue
  | endInList
  | endInObject
  | endInString
  | expectedValue
  | expectedIdent
  | expectedColon
  | expectedListComma
  | expectedObjectComma
  | keyMustBeString
  | trailingComma
  | trailingCharacters
  | invalidNumber
  | numberOutOfRange
  | controlCharacter
  | invalidEscape
  | loneSurrogate
  | unpairedSurrogate
  | tooDeep
deriving DecidableEq, Repr

/-- What a reason says. -/
def Reason.message : Reason → Text
  | .endInValue => "EOF while parsing a value"
  | .endInList => "EOF while parsing a list"
  | .endInObject => "EOF while parsing an object"
  | .endInString => "EOF while parsing a string"
  | .expectedValue => "expected value"
  | .expectedIdent => "expected ident"
  | .expectedColon => "expected \x60:\x60"
  | .expectedListComma => "expected \x60,\x60 or \x60]\x60"
  | .expectedObjectComma => "expected \x60,\x60 or \x60\x7d\x60"
  | .keyMustBeString => "key must be a string"
  | .trailingComma => "trailing comma"
  | .trailingCharacters => "trailing characters"
  | .invalidNumber => "invalid number"
  | .numberOutOfRange => "number out of range"
  | .controlCharacter =>
    "control character (\\u0000-\\u001F) found while parsing a string"
  | .invalidEscape => "invalid escape"
  | .loneSurrogate => "lone leading surrogate in hex escape"
  | .unpairedSurrogate => "unexpected end of hex escape"
  | .tooDeep => "recursion limit exceeded"

/-- A reason, and how many bytes were unread when it was found. -/
structure Fault where
  reason : Reason
  unread : Nat
deriving DecidableEq, Repr

namespace Fault

/-- A fault in front of `rest`. -/
def before (reason : Reason) (rest : Text) : Fault := ⟨reason, rest.byteSize⟩

/-- A fault behind the next byte of `rest`, or at the end when there is none. -/
def behindByte (reason : Reason) (rest : Text) : Fault := ⟨reason, rest.byteSize - 1⟩

/-- The line and the column behind the first `bytes` bytes of a text. -/
def position : (bytes : Nat) → Text → (line column : Nat) → Nat × Nat
  | _, [], line, column => (line, column)
  | bytes, c :: cs, line, column =>
    if bytes = 0 then (line, column)
    else if c = '\n' then position (bytes - 1) cs (line + 1) 0
    else position (bytes - c.utf8Size) cs line (column + min bytes c.utf8Size)

/-- What a fault in the given text says. -/
def message (text : Text) (fault : Fault) : Text :=
  let (line, column) := position (text.byteSize - fault.unread) text 1 0
  fault.reason.message ++ " at line " ++ Text.ofNat line ++ " column " ++ Text.ofNat column

end Fault

end RouteLocalizer.Json
