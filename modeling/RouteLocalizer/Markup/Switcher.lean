/-
  The LANGUAGE SWITCHER of the App component.

  The example switcher is five lines of markup, written right behind the opening tag of the
  navigation element `<div id="nav">`, or behind the first `<div>` where there is none, two spaces
  deeper than the line on which that tag stands.  A component that has a switcher already is left
  alone, and one without a `<div>` has no place for it.
-/
import RouteLocalizer.Markup.Tag
import RouteLocalizer.Import.Line
import RouteLocalizer.Settings.Basic

namespace RouteLocalizer.Markup

open Text

/-- The start of a division's opening tag. -/
def divStart : Text := ['<', 'd', 'i', 'v']

/-- What marks the navigation element. -/
def navAttribute : Text := ['i', 'd', '=', '"', 'n', 'a', 'v', '"']

/-- A character that a tag on one line may hold. -/
def staysInTag (c : Char) : Bool := c != '>' && c != '\n'

/-- The opening tag of the navigation element, on one line. -/
def navDiv : Shape :=
  Shape.literal divStart <| Shape.run staysInTag <| Shape.boundary <|
    Shape.literal navAttribute <| Shape.run staysInTag <| Shape.literal ['>'] Shape.finish

/-- The opening tag of any division, on one line. -/
def anyDiv : Shape :=
  Shape.literal divStart <| Shape.boundary <| Shape.run staysInTag <|
    Shape.literal ['>'] Shape.finish

/-- The opening tag that the switcher is written behind. -/
def findAnchor (text : Text) : Option Passage :=
  (Shape.firstOf navDiv text).or (Shape.firstOf anyDiv text)

/-- The lines of the example switcher. -/
def switcherLines (w : Wiring) : List Text :=
  ["<" ++ w.switcherTag ++ " v-slot=\"\x7b links \x7d\">",
    "  <" ++ w.linkTag ++ " :to=\"link.url\" v-for=\"link in links\" :key=\"link.langIndex\">",
    "    <span>\x7b\x7b link.langName \x7d\x7d</span>",
    "  </" ++ w.linkTag ++ ">",
    "</" ++ w.switcherTag ++ ">"]

/-- The example switcher, each line behind a line end and the given indentation. -/
def switcherSnippet (w : Wiring) (indent newline : Text) : Text :=
  (switcherLines w).flatMap fun line => newline ++ indent ++ line

/-- The part of a text behind its last line feed. -/
def lastLine (text : Text) : Text := (text.reverse.takeWhile (· != '\n')).reverse

/-- Adds the language switcher to a component, or answers nothing when there is no place for it. -/
def addSwitcher (w : Wiring) (text : Text) : Option Text :=
  if hasOpeningTag w.switcherTag text then some text
  else (findAnchor text).map fun anchor =>
    let line := lastLine anchor.before ++ anchor.body ++ anchor.after
    let indent := line.takeWhile isIndent ++ [' ', ' ']
    anchor.insertBehind (switcherSnippet w indent (Import.lineEnding text))

end RouteLocalizer.Markup
