/-
  How a message QUOTES a text: in double quotes, with everything escaped that could not be told
  apart or would not be seen when it is printed.
-/
import RouteLocalizer.Text.CharClass

namespace RouteLocalizer.Text

/-- The digits of a number to the base sixteen. -/
def hexDigits (n : Nat) : Text := Nat.toDigits 16 n

/-- How a character stands in a quoted text. -/
def quotedChar (c : Char) : Text :=
  if c = '"' then ['\\', '"']
  else if c = '\\' then ['\\', '\\']
  else if c = '\x00' then ['\\', '0']
  else if c = '\t' then ['\\', 't']
  else if c = '\r' then ['\\', 'r']
  else if c = '\n' then ['\\', 'n']
  else if needsEscape c then "\\u\x7b" ++ hexDigits c.toNat ++ "\x7d"
  else [c]

/-- The text as a message quotes it. -/
def quoted (text : Text) : Text := '"' :: text.flatMap quotedChar ++ ['"']

end RouteLocalizer.Text
