/-
  The OPTIONS OBJECT of the root instance, and an option put into it.

  The object is what stands between the brace of the first `new host({` and the brace that closes
  it.  `closeBrace` finds the latter by counting the braces still open; braces inside a string do
  not count, a string runs to the next quote of its kind, and a backslash in it takes the next
  character with it.  The count is of braces INSIDE the object, so it cannot fall below zero.
-/
import RouteLocalizer.Text.Identifier
import RouteLocalizer.Import.Line

namespace RouteLocalizer.Script

open Text

/-- What a reader of an object literal is inside of. -/
inductive Inside where
  /-- Code between the strings. -/
  | code
  /-- A string that the given quote ends. -/
  | string (quote : Char)
  /-- A string, behind a backslash. -/
  | escape (quote : Char)
deriving DecidableEq, Repr

/-- The three characters that start a string and end it. -/
def isQuote (c : Char) : Bool := c == '\'' || c == '"' || c == '\x60'

/-- Splits a text behind the brace that closes the object, with `opened` braces inside it still
    open. -/
def closeBrace (opened : Nat) : Inside → Text → Option (Text × Text)
  | _, [] => none
  | .escape q, c :: cs => keep c (closeBrace opened (.string q) cs)
  | .string q, c :: cs =>
    if c = '\\' then keep c (closeBrace opened (.escape q) cs)
    else if c = q then keep c (closeBrace opened .code cs)
    else keep c (closeBrace opened (.string q) cs)
  | .code, c :: cs =>
    if isQuote c then keep c (closeBrace opened (.string c) cs)
    else if c = '\x7b' then keep c (closeBrace (opened + 1) .code cs)
    else if c = '\x7d' then
      match opened with
      | 0 => some ([c], cs)
      | n + 1 => keep c (closeBrace n .code cs)
    else keep c (closeBrace opened .code cs)
where
  /-- Puts a character in front of the object's rest. -/
  keep (c : Char) (split : Option (Text × Text)) : Option (Text × Text) :=
    split.map fun (object, rest) => (c :: object, rest)

/-- An expression `new host({`, up to the brace. -/
def rootCall (host : Text) : Shape :=
  Shape.boundary <| Shape.literal ['n', 'e', 'w'] <| Shape.runOne isBlank <|
    Shape.literal host <| Shape.run isBlank <| Shape.literal ['('] <| Shape.run isBlank <|
    Shape.literal ['\x7b'] Shape.finish

/-- The options object of the first `new host({`, from brace to brace. -/
def findRootOptions (host text : Text) : Option Passage :=
  match Shape.firstOf (rootCall host) text with
  | some call =>
    (closeBrace 0 .code call.after).map fun (object, rest) =>
      ⟨call.before ++ call.body.dropLast, '\x7b' :: object, rest⟩
  | none => none

/-- What is written behind the opening brace to make `option` the first property.  On a brace that
    ends its line the option gets a line of its own, indented like the line below unless that one
    has no indentation or closes the object. -/
def optionText (newline option rest : Text) : Text :=
  match afterWord newline rest with
  | some below =>
    let indent := below.takeWhile isIndent
    let indent : Text :=
      if indent.isEmpty || (below.dropWhile isIndent).head? == some '\x7d' then "  " else indent
    newline ++ indent ++ option ++ ","
  | none => " " ++ option ++ ","

/-- Gives the root instance an option, unless its options object names it already. -/
def injectRootOption (host option text : Text) : Text :=
  match findRootOptions host text with
  | some object =>
    if hasIdentifier option object.body then text
    else
      let inner := object.body.drop 1
      object.before ++ '\x7b' :: optionText (Import.lineEnding text) option inner ++ inner ++
        object.after
  | none => text

end RouteLocalizer.Script
