/-
  Why a text is NO RON, and where: a reason, and the line and the column of the place.  Columns
  count bytes.
-/
import RouteLocalizer.Text.Quoted

namespace RouteLocalizer.Ron

open Text

/-- What is wrong with a text that should be RON. -/
inductive Reason where
  | endOfText
  | trailing
  | unclosedComment
  /-- A byte at which no value starts, as the character of its number. -/
  | unexpectedByte (byte : Char)
  | attributeStart
  | attributeEnd
  | unknownExtension (name : Text)
  | expectedName
  /-- A name with characters that only a raw name has. -/
  | rawName (name : Text)
  | expectedComma
  | expectedColon
  | expectedOption
  | optionEnd
  | expectedChar
  | expectedString
  | stringEnd
  | expectedFloat
  | underscore
  | unknownEscape
  | noHexDigit
  | missingBrace
  | noDigits
  | unclosedBrace
  | noChar
  | tooDeep
deriving DecidableEq, Repr

/-- A text between the quotes of a name. -/
def ticked (text : Text) : Text := "\x60" ++ text ++ "\x60"

/-- A character as a message quotes it. -/
def quotedByte (c : Char) : Text :=
  let shown : Text := if c = '\'' then ['\\', c] else if c = '"' then [c] else quotedChar c
  ['\''] ++ shown ++ ['\'']

/-- What a reason says. -/
def Reason.message : Reason → Text
  | .endOfText => "Unexpected end of RON"
  | .trailing => "Non-whitespace trailing characters"
  | .unclosedComment => "Unclosed block comment"
  | .unexpectedByte c => "Unexpected byte " ++ quotedByte c
  | .attributeStart => "Expected an \x60#![enable(...)]\x60 attribute"
  | .attributeEnd => "Expected closing \x60)]\x60 after the enable attribute"
  | .unknownExtension name => "No RON extension named " ++ ticked name
  | .expectedName => "Expected identifier"
  | .rawName name =>
    "Found invalid std identifier " ++ ticked name ++ ", try the raw identifier " ++
      ticked ("r#" ++ name) ++ " instead"
  | .expectedComma => "Expected comma"
  | .expectedColon => "Expected colon"
  | .expectedOption => "Expected option"
  | .optionEnd => "Expected closing \x60)\x60"
  | .expectedChar => "Expected char"
  | .expectedString => "Expected string"
  | .stringEnd => "Expected end of string"
  | .expectedFloat => "Expected float"
  | .underscore => "Unexpected underscore in float"
  | .unknownEscape => "Unknown escape character"
  | .noHexDigit => "Non-hex digit found"
  | .missingBrace => "Missing \x7b in Unicode escape"
  | .noDigits => "Expected 1-6 digits, got 0 digits in Unicode escape"
  | .unclosedBrace => "No \x7d at the end of Unicode escape"
  | .noChar => "Not a valid char"
  | .tooDeep =>
    "Exceeded recursion limit, try increasing the limit and using \x60serde_stacker\x60 " ++
      "to protect against a stack overflow"

/-- A reason and a place. -/
structure Fault where
  reason : Reason
  line : Nat
  column : Nat
deriving DecidableEq, Repr

/-- The message about a fault. -/
def Fault.message (f : Fault) : Text :=
  ofNat f.line ++ ":" ++ ofNat f.column ++ ": " ++ f.reason.message

end RouteLocalizer.Ron
