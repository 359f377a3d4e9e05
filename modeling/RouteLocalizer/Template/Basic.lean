/-
  TEMPLATES: files with placeholders, and the values that are filled in.

  A placeholder is a name in double braces.  Values are filled in one name after another, in the
  order of the names' characters, in the path of a file as well as in its text; a name that has no
  value stays as it stands.
-/
import RouteLocalizer.Settings.Basic
import RouteLocalizer.Manifest.Basic
import RouteLocalizer.Text.Shape

namespace RouteLocalizer

/-- A file that is filled in before it is written. -/
structure Template where
  /-- Where the file goes, as seen from the root of the project. -/
  relative : Text
  content : Text
deriving DecidableEq, Repr

/-- The values of placeholders, in the order of their names. -/
abbrev Variables := List (Text × Text)

namespace Variables

/-- Puts a value in its place among the others; the value that is there gives way. -/
def insert (name value : Text) : Variables → Variables
  | [] => [(name, value)]
  | (n, v) :: rest =>
    if n = name then (name, value) :: rest
    else if Text.isBefore name n then (name, value) :: (n, v) :: rest
    else (n, v) :: insert name value rest

/-- The values in the order of their names. -/
def ofList (values : List (Text × Text)) : Variables :=
  values.foldl (fun vars v => insert v.1 v.2 vars) []

/-- The placeholder of a name. -/
def placeholder (name : Text) : Text := "\x7b\x7b" ++ name ++ "\x7d\x7d"

/-- Fills the values into a text, one name after another. -/
def fill (vars : Variables) (text : Text) : Text :=
  vars.foldl (fun text v => Text.replaceAll (placeholder v.1) v.2 text) text

end Variables

/-- A day, as templates show it. -/
structure Day where
  year : Text
  /-- Year, month and day of the month. -/
  date : Text
deriving DecidableEq, Repr

/-- A number in at least `width` digits. -/
def Day.digits (width n : Nat) : Text :=
  let digits := Text.ofNat n
  List.replicate (width - digits.length) '0' ++ digits

/-- The day of a date. -/
def Day.ofDate (year month dayOfMonth : Nat) : Day where
  year := Day.digits 4 year
  date := Day.digits 4 year ++ "-" ++ Day.digits 2 month ++ "-" ++ Day.digits 2 dayOfMonth

namespace Template

/-- A switch, as templates show it. -/
def ofBool (b : Bool) : Text := if b then "true" else "false"

/-- The values that every template can use. -/
def standardValues (s : Settings) (script : Script) (day : Day) : Variables :=
  Variables.ofList
    [("DEFAULT_LANGUAGE", s.i18n.defaultLanguage),
      ("SCRIPT_EXT", script.extension),
      ("PACKAGE", s.router.package),
      ("ROUTER_SYMBOL", s.router.toSymbol),
      ("LINK_TAG", s.router.localizedLinkTag),
      ("SWITCHER_TAG", s.router.switcherTag),
      ("RENDER_TEMPLATE", ofBool s.options.renderTemplate),
      ("REWRITE_ROUTER_LINK", ofBool s.options.localizeLinks),
      ("ADD_LANGUAGE_SWITCHER", ofBool s.options.addLanguageSwitcher),
      ("YEAR", day.year),
      ("DATE", day.date)]

end Template

end RouteLocalizer
