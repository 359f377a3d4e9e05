/-
  READING TOML.

  A document is a sequence of statements, one a line: an entry, or the header of a table or of one
  more table of an array, to which the entries behind it belong.  Arrays may go over lines, with
  comments in them; tables in braces may not.  Arrays and tables in braces nest at most 79 deep, and
  no key has more than 79 parts.

  `read` answers nothing for a text that is no document.
-/
import RouteLocalizer.Toml.Reserved
import RouteLocalizer.Toml.Table

namespace RouteLocalizer.Toml.Reader

/-- The most levels of arrays and tables in braces, and the most parts of a key. -/
def mostLevels : Nat := 79

/-! ## Keys -/

/-- A character of a name without quotes. -/
def isNameChar (c : Char) : Bool := c.isAlphanum || c == '_' || c == '-'

/-- One part of a key. -/
def keyPart (text : Text) : Reading Text :=
  match text with
  | '"' :: rest => basic rest
  | '\'' :: rest => literal rest
  | _ =>
    let name := text.takeWhile isNameChar
    if name.isEmpty then none else some (name, text.drop name.length)

/-- A key of at most `parts` parts, with the white space around it. -/
def keyUpTo : (parts : Nat) → Text → Reading Key
  | 0, _ => none
  | parts + 1, text =>
    match keyPart (skipSpace text) with
    | none => none
    | some (name, rest) =>
      match skipSpace rest with
      | '.' :: rest => (keyUpTo parts rest).map fun (names, rest) => (name :: names, rest)
      | rest => some ([name], rest)

/-- A key, with the white space around it. -/
def key (text : Text) : Reading Key := keyUpTo mostLevels text

/-! ## Values -/

/-- The text behind white space, line ends and comments; `steps` bounds their number. -/
def skipLines : (steps : Nat) → Text → Text
  | 0, text => text
  | steps + 1, text =>
    let text := skipSpace text
    match lineEnd (skipComment text) with
    | some rest => skipLines steps rest
    | none => text

/-- The text behind white space, line ends and comments. -/
def skipGap (text : Text) : Text := skipLines text.length text

/-- The items of an array behind its bracket; `steps` bounds their number. -/
def items (item : Text → Reading Toml) : (steps : Nat) → Text → Reading (List Toml)
  | 0, _ => none
  | steps + 1, text =>
    match skipGap text with
    | ']' :: rest => some ([], rest)
    | text =>
      match item text with
      | none => none
      | some (value, rest) =>
        match skipGap rest with
        | ',' :: rest => (items item steps rest).map fun (values, rest) => (value :: values, rest)
        | ']' :: rest => some ([value], rest)
        | _ => none

/-- A key, the equals sign and a value, with the white space around them. -/
def assignment (item : Text → Reading Toml) (text : Text) : Reading (Key × Toml) :=
  match key text with
  | some (k, '=' :: rest) =>
    (item (skipSpace rest)).map fun (value, rest) => ((k, value), skipSpace rest)
  | _ => none

/-- The entries of a table in braces, from a first one on; `steps` bounds their number. -/
def assignments (item : Text → Reading Toml) : (steps : Nat) → Text →
    Reading (List (Key × Toml))
  | 0, _ => none
  | steps + 1, text =>
    match assignment item text with
    | some (a, ',' :: rest) =>
      (assignments item steps rest).map fun (as, rest) => (a :: as, rest)
    | some (a, '\x7d' :: rest) => some ([a], rest)
    | _ => none

/-- A table in braces, behind its opening brace. -/
def braced (item : Text → Reading Toml) (text : Text) : Reading Toml :=
  match skipSpace text with
  | '\x7d' :: rest => some (.table [], rest)
  | text =>
    (assignments item (text.length + 1) text).bind fun (as, rest) =>
      let entries := as.foldlM (fun entries a => Entries.define a.1 a.2 entries) ([] : Entries)
      entries.map fun entries => (.table (Entries.toValues entries), rest)

/-- Reads a value whose arrays and tables hold what `item` reads; without it they are too deep. -/
def valueWith (item : Option (Text → Reading Toml)) (text : Text) : Reading Toml :=
  match text with
  | 't' :: 'r' :: 'u' :: 'e' :: rest => some (.boolean true, rest)
  | 'f' :: 'a' :: 'l' :: 's' :: 'e' :: rest => some (.boolean false, rest)
  | '[' :: rest =>
    item.bind fun item =>
      (items item (rest.length + 1) rest).map fun (values, rest) => (.array values, rest)
  | '\x7b' :: rest => item.bind fun item => braced item rest
  | _ =>
    if text.head? = some '"' ∨ text.head? = some '\'' then
      (quoted text).map fun (text, rest) => (.string text, rest)
    else (moment text).or (number text)

/-- Reads a value that nests at most `levels` deep. -/
def value : (levels : Nat) → Text → Reading Toml
  | 0 => valueWith none
  | levels + 1 => valueWith (some (value levels))

/-! ## Documents -/

/-- A document, as far as it is read. -/
structure Draft where
  /-- What is defined so far. -/
  root : Entries := []
  /-- The table that entries belong to. -/
  here : Key := []

/-- The text behind the end of a line, after white space and a comment. -/
def endOfLine (text : Text) : Option Text :=
  match skipComment (skipSpace text) with
  | [] => some []
  | text => lineEnd text

/-- The header of a table or of one more table of an array, behind its first bracket. -/
def header (draft : Draft) (text : Text) : Reading Draft :=
  match text with
  | '[' :: text =>
    match key text with
    | some (k, ']' :: ']' :: rest) =>
      (Entries.openItem k draft.root).map fun root => (⟨root, k⟩, rest)
    | _ => none
  | _ =>
    match key text with
    | some (k, ']' :: rest) =>
      (Entries.openTable k draft.root).map fun root => (⟨root, k⟩, rest)
    | _ => none

/-- An entry. -/
def entry (draft : Draft) (text : Text) : Reading Draft :=
  (assignment (value mostLevels) text).bind fun ((k, v), rest) =>
    (Entries.defineIn draft.here k v draft.root).map fun root => ({ draft with root := root }, rest)

/-- What one line says, if it is not empty. -/
def line (draft : Draft) (text : Text) : Reading Draft :=
  match skipSpace text with
  | '[' :: rest => header draft rest
  | text =>
    if (skipComment text).isEmpty ∨ (lineEnd (skipComment text)).isSome then some (draft, text)
    else entry draft text

/-- The lines of a document; `steps` bounds their number. -/
def lines : (steps : Nat) → Draft → Text → Option Draft
  | 0, _, _ => none
  | steps + 1, draft, text =>
    match line draft text with
    | none => none
    | some (draft, rest) =>
      match endOfLine rest with
      | none => none
      | some [] => some draft
      | some rest => lines steps draft rest

/-- The text without the mark of the byte order at its start. -/
def withoutMark (text : Text) : Text :=
  match text with
  | '\ufeff' :: rest => rest
  | _ => text

end RouteLocalizer.Toml.Reader

namespace RouteLocalizer.Toml

/-- The value of a document: the table that it defines, or the moment that the table stands for. -/
def read (text : Text) : Option Toml :=
  let text := Reader.withoutMark text
  (Reader.lines (text.length + 1) {} text).bind fun draft =>
    settle (.table (Entries.toValues draft.root))

end RouteLocalizer.Toml
