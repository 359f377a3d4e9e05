/-
  IMPORT LINES: the lines of a script that start an import declaration.

  Nothing here parses a script.  An import line is recognised by its first word: some indentation,
  the word `import`, and one character of a blank, a brace, a star or a quote, so that a call
  `import(` is none.  `lastImport` answers the rightmost one, and lets it go on over the following
  lines when it opens a brace list that it does not close.
-/
import RouteLocalizer.Text.Shape

namespace RouteLocalizer.Import

open Text

/-- The word that starts an import declaration. -/
def keyword : Text := ['i', 'm', 'p', 'o', 'r', 't']

/-- The word between the bindings and the module. -/
def fromWord : Text := ['f', 'r', 'o', 'm']

/-- What may follow the keyword directly. -/
def opensBindings (c : Char) : Bool :=
  isIndent c || c == '\x7b' || c == '*' || c == '\'' || c == '"'

/-- A line that starts an import declaration, as a whole and without its line end. -/
def importLine : Shape :=
  Shape.lineStart <| Shape.run isIndent <| Shape.literal keyword <| Shape.one opensBindings
    Shape.lineRest

/-- The text behind the closing brace, together with the brace and all before it. -/
def throughBrace : Text → Option (Text × Text)
  | [] => none
  | c :: cs =>
    if c = '\x7d' then some ([c], cs)
    else (throughBrace cs).map fun (list, rest) => (c :: list, rest)

/-- Lets an import line with an open brace list go on to the end of the line that closes it. -/
def throughBraceList (line : Passage) : Passage :=
  if line.body.elem '\x7b' && !line.body.elem '\x7d' then
    match throughBrace line.after with
    | some (list, rest) =>
      ⟨line.before, line.body ++ list ++ rest.takeWhile (!isLineEnd ·),
        rest.dropWhile (!isLineEnd ·)⟩
    | none => line
  else line

/-- The last import declaration of a text, from the start of its first line to the end of the line
    that closes its brace list. -/
def lastImport (text : Text) : Option Passage :=
  (Shape.lastOf importLine text).map throughBraceList

/-- The line end that a text uses: the two-character one as soon as it occurs at all. -/
def lineEnding (text : Text) : Text :=
  if Text.contains ['\r', '\n'] text then ['\r', '\n'] else ['\n']

/-- Writes a line right behind the last import declaration, or in front of a text without any. -/
def insertBehindImports (line text : Text) : Text :=
  match lastImport text with
  | some p => p.insertBehind (lineEnding text ++ line)
  | none => line ++ lineEnding text ++ text

end RouteLocalizer.Import
