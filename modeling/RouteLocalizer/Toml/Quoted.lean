/-
  QUOTED STRINGS of TOML, of four kinds.

  A BASIC string stands in double quotes and knows escapes; a LITERAL one stands in single quotes
  and knows none.  Both exist with three quotes on each side, and then go over lines: the line end
  right behind the opening quotes does not count, every other one counts as a line feed, and in a
  basic string a backslash at the end of a line takes the white space behind it away.  Up to two
  further quotes may stand in front of the three that close.
-/
import RouteLocalizer.Text.Hexadecimal
import RouteLocalizer.Toml.Basic

namespace RouteLocalizer.Toml.Reader

/-- The character of an escape, behind its backslash. -/
def escape : Text → Reading Char
  | '"' :: rest => some ('"', rest)
  | '\\' :: rest => some ('\\', rest)
  | 'b' :: rest => some ('\x08', rest)
  | 'f' :: rest => some ('\x0c', rest)
  | 'n' :: rest => some ('\n', rest)
  | 'r' :: rest => some ('\r', rest)
  | 't' :: rest => some ('\t', rest)
  | 'u' :: rest => Text.readCode 4 rest
  | 'U' :: rest => Text.readCode 8 rest
  | _ => none

/-! ## On one line -/

/-- A basic string behind its quote; `steps` bounds the characters still to be looked at. -/
def basicBody : (steps : Nat) → Text → Reading Text
  | 0, _ => none
  | _ + 1, [] => none
  | steps + 1, c :: rest =>
    if c = '"' then some ([], rest)
    else if c = '\\' then
      (escape rest).bind fun (e, rest) =>
        (basicBody steps rest).map fun (text, rest) => (e :: text, rest)
    else if isPrintable c then
      (basicBody steps rest).map fun (text, rest) => (c :: text, rest)
    else none

/-- A basic string behind its quote. -/
def basic (text : Text) : Reading Text := basicBody (text.length + 1) text

/-- A literal string behind its quote. -/
def literal (text : Text) : Reading Text :=
  let body := text.takeWhile fun c => c != '\'' && isPrintable c
  match text.drop body.length with
  | '\'' :: rest => some (body, rest)
  | _ => none

/-! ## Over lines -/

/-- The text behind white space and line ends. -/
def skipBlank : Text → Text
  | [] => []
  | c :: rest =>
    if c = ' ' ∨ c = '\t' ∨ c = '\n' then skipBlank rest
    else if c = '\r' ∧ rest.head? = some '\n' then skipBlank rest
    else c :: rest

/-- The text behind a backslash that ends its line: behind the white space of the line, the line
    end, and the white space at the start of the lines that follow. -/
def foldedLine (text : Text) : Option Text := (lineEnd (skipSpace text)).map skipBlank

/-- The end of a string whose closing quotes are read here: how many of the quotes belong to the
    string itself.  Five at most can stand in a row. -/
def closing (quote : Char) (text : Text) : Reading Text :=
  let quotes := text.takeWhile (· == quote)
  if quotes.length < 3 then none
  else
    let own := min (quotes.length - 3) 2
    some (List.replicate own quote, text.drop (own + 3))

/-- A string over lines, behind its three quotes; `steps` bounds the characters still to be looked
    at.  A basic string has escapes, a literal one has none. -/
def linesBody (quote : Char) (hasEscapes : Bool) : (steps : Nat) → Text → Reading Text
  | 0, _ => none
  | _ + 1, [] => none
  | steps + 1, c :: rest =>
    let more := fun (d : Char) (rest : Text) =>
      (linesBody quote hasEscapes steps rest).map fun (text, rest) => (d :: text, rest)
    if c = quote then
      match closing quote (c :: rest) with
      | some answer => some answer
      | none => more c rest
    else if c = '\\' ∧ hasEscapes then
      match foldedLine rest with
      | some rest => linesBody quote hasEscapes steps rest
      | none => (escape rest).bind fun (e, rest) => more e rest
    else if isPrintable c then more c rest
    else match lineEnd (c :: rest) with
      | some rest => more '\n' rest
      | none => none

/-- A string over lines, behind its three quotes. -/
def overLines (quote : Char) (hasEscapes : Bool) (text : Text) : Reading Text :=
  linesBody quote hasEscapes (text.length + 1) ((lineEnd text).getD text)

/-- A string of any kind. -/
def quoted : Text → Reading Text
  | '"' :: '"' :: '"' :: rest => overLines '"' true rest
  | '\'' :: '\'' :: '\'' :: rest => overLines '\'' false rest
  | '"' :: rest => basic rest
  | '\'' :: rest => literal rest
  | _ => none

end RouteLocalizer.Toml.Reader
