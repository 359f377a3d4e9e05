/-
  READING INI FILES: keys with values, line by line, in sections.

  A section starts with its name in brackets; the keys in front of the first one are in a section
  without a name.  A key goes up to an equals sign or a colon, and its value up to the end of the
  line; a value that starts with a quote goes up to the next one first.  A backslash starts an
  escape everywhere.  A line whose first character is a semicolon or a hash sign is a comment.
  Names, keys and values have no white space around them.

  A fault knows its line and its column, and the column it names is the one behind it.
-/
import RouteLocalizer.Text.CharClass
import RouteLocalizer.Text.Hexadecimal

namespace RouteLocalizer.Ini

/-- A section: its name, and its keys with their values in the order in which they stand. -/
structure Section where
  name : Option Text
  entries : List (Text × Text) := []
deriving DecidableEq, Repr

/-- How far a file is read.  The place is the one of the next character, or of the last one when
    none remains. -/
structure Cursor where
  rest : Text
  /-- The number of line feeds up to the place. -/
  line : Nat := 0
  /-- The number of characters behind the last line feed, up to the place. -/
  column : Nat := 0

/-- What is wrong with a file, and where. -/
structure Fault where
  reason : Text
  line : Nat
  column : Nat
deriving DecidableEq, Repr

/-- The message about a fault. -/
def Fault.message (f : Fault) : Text :=
  Text.ofNat f.line ++ ":" ++ Text.ofNat f.column ++ " " ++ f.reason

namespace Cursor

variable (c : Cursor)

/-- The cursor, with the next character counted. -/
def counted : Cursor :=
  match c.rest with
  | [] => c
  | '\n' :: _ => { c with line := c.line + 1, column := 0 }
  | _ => { c with column := c.column + 1 }

/-- The cursor at the start of a file. -/
def ofText (text : Text) : Cursor := counted { rest := text }

/-- The cursor behind the next character. -/
def step : Cursor := counted { c with rest := c.rest.drop 1 }

/-- The next character. -/
def head? : Option Char := c.rest.head?

/-- The fault that a reason makes here. -/
def fault {α : Type} (reason : Text) : Except Fault α := .error ⟨reason, c.line + 1, c.column + 1⟩

/-- The cursor behind the characters of a class; `steps` bounds their number. -/
def skipWhile (p : Char → Bool) : (steps : Nat) → Cursor → Cursor
  | 0, c => c
  | steps + 1, c => if c.head?.any p then skipWhile p steps c.step else c

/-- The cursor behind white space. -/
def skipBlank : Cursor := skipWhile Text.isBlank c.rest.length c

/-- The cursor behind white space of the same line. -/
def skipIndent : Cursor :=
  skipWhile (fun ch => Text.isBlank ch && !Text.isLineEnd ch) c.rest.length c

/-- The cursor behind the line. -/
def skipLine : Cursor := (skipWhile (· != '\n') c.rest.length c).step

end Cursor

/-- What a reader answers: a value and the cursor behind it, or a fault. -/
abbrev Reading (α : Type) := Except Fault (α × Cursor)

/-! ## Texts with escapes -/

/-- What ends a text, and how a message spells it. -/
structure Ending where
  isEnd : Option Char → Bool
  shown : Text

namespace Ending

/-- The end of the name of a section. -/
def bracket : Ending := ⟨(· == some ']'), "[Some(']')]"⟩

/-- The end of a key. -/
def key : Ending := ⟨fun c => c == some '=' || c == some ':', "[Some('='), Some(':')]"⟩

/-- The end of a line. -/
def line : Ending := ⟨fun c => c.all Text.isLineEnd, "[Some('\\n'), Some('\\r'), None]"⟩

/-- A closing quote. -/
def quote (q : Char) : Ending :=
  ⟨(· == some q), "[Some('" ++ (if q = '\'' then ['\\', '\''] else [q]) ++ "')]"⟩

/-- The fault of a text that does not end. -/
def missing {α : Type} (e : Ending) (c : Cursor) : Except Fault α :=
  c.fault ("expecting \"" ++ e.shown ++ "\" but found EOF.")

end Ending

/-- The characters that an escape by a letter stands for; any other character stands for itself, and
    a line feed for nothing. -/
def escaped (c : Char) : Text :=
  match c with
  | '0' => ['\x00']
  | 'a' => ['\x07']
  | 'b' => ['\x08']
  | 't' => ['\t']
  | 'r' => ['\r']
  | 'n' => ['\n']
  | '\n' => []
  | c => [c]

/-- The digits of a code, in front of each of which the cursor goes one character on. -/
def codeDigits (e : Ending) : (count : Nat) → Cursor → Reading Text
  | 0, c => .ok ([], c)
  | count + 1, c =>
    let c := c.step
    match c.head? with
    | none => e.missing c
    | some ch => (codeDigits e count c).map fun (digits, c) => (ch :: digits, c)

/-- The character of a code of four digits; the cursor stands at its letter. -/
def readCode (e : Ending) (c : Cursor) : Except Fault (Text × Cursor) := do
  let (digits, c) ← codeDigits e 4 c
  match (Text.hexNumber digits).bind Text.charOfCode with
  | some ch => return ([ch], c)
  | none => c.fault "unknown character in \\xHH form"

/-- An escape; the cursor stands behind its backslash, and afterwards at its last character. -/
def readEscape (e : Ending) (c : Cursor) : Reading Text :=
  match c.head? with
  | none => e.missing c
  | some 'x' => readCode e c
  | some ch => .ok (escaped ch, c)

/-- A text up to its end; `steps` bounds the number of its characters. -/
def readUntil (e : Ending) : (steps : Nat) → Cursor → Except Fault (Text × Cursor)
  | 0, c => .ok ([], c)
  | steps + 1, c =>
    if e.isEnd c.head? then .ok ([], c)
    else
      match c.head? with
      | none => e.missing c
      | some '\\' => do
        let (first, c) ← readEscape e c.step
        let (rest, c) ← readUntil e steps c.step
        return (first ++ rest, c)
      | some ch => (readUntil e steps c.step).map fun (rest, c) => (ch :: rest, c)

/-- A text up to its end. -/
def readText (e : Ending) (c : Cursor) : Reading Text := readUntil e (c.rest.length + 1) c

/-- A value, behind the sign in front of it. -/
def readValue (c : Cursor) : Except Fault (Text × Cursor) := do
  let c := c.skipIndent
  match c.head? with
  | some q =>
    if q = '"' ∨ q = '\'' then do
      let (quoted, c) ← readText (.quote q) c.step
      let (rest, c) ← readText .line c.step
      return (quoted ++ rest, c)
    else readText .line c
  | none => return ([], c)

/-! ## Files -/

/-- A file, as far as it is read. -/
structure Draft where
  /-- The complete sections. -/
  sections : List Section := []
  /-- The section that is being read. -/
  current : Section := ⟨none, []⟩
  /-- The key whose value follows. -/
  key : Text := []

/-- All sections of a draft. -/
def Draft.all (d : Draft) : List Section := d.sections ++ [d.current]

/-- Reads what the next character starts. -/
def readNext (d : Draft) (ch : Char) (c : Cursor) : Reading Draft :=
  if ch = ';' ∨ ch = '#' then
    if 1 < c.column then c.fault "doesn't support inline comment" else .ok (d, c.skipLine)
  else if ch = '[' then
    (readText .bracket c.step).map fun (name, c) =>
      ({ d with sections := d.all, current := ⟨some (Text.trim name), []⟩ }, c.step)
  else if ch = '=' ∨ ch = ':' then
    if d.key.isEmpty then c.fault "missing key"
    else (readValue c.step).map fun (value, c) =>
      let entries := d.current.entries ++ [(d.key, Text.trim value)]
      ({ d with current := { d.current with entries := entries }, key := [] }, c)
  else (readText .key c).map fun (key, c) => ({ d with key := Text.trim key }, c)

/-- Reads the rest of a file; `steps` bounds the number of its parts. -/
def readRest : (steps : Nat) → Draft → Cursor → Except Fault (List Section)
  | 0, d, _ => .ok d.all
  | steps + 1, d, c =>
    let c := c.skipBlank
    match c.head? with
    | none => .ok d.all
    | some ch =>
      match readNext d ch c with
      | .error f => .error f
      | .ok (d, c) => readRest steps d c

/-- The sections of a file, the one without a name first. -/
def read (text : Text) : Except Fault (List Section) :=
  readRest (text.length + 1) {} (.ofText text)

end RouteLocalizer.Ini
