/-
  The EXAMPLE FILES that a pass adds to a project: two languages with their messages, and the
  localized address segments of one of them.

  The files are templates; what stands in double braces is filled in when they are written.  The
  router file imports the two index files, by the lines of `routerImports`.
-/
import RouteLocalizer.Template.Basic

namespace RouteLocalizer.Template

/-- A text of lines, each with a line end. -/
def ofLines (lines : List Text) : Text := lines.flatMap fun line => line ++ ['\n']

/-- The languages of the project, each with its messages. -/
def messagesIndex : Text :=
  ofLines [
    "import en from './en.json'",
    "",
    "// Add a language here and a matching JSON file next to this one.",
    "// Languages other than the default one are loaded on demand.",
    "const translations = \x7b",
    "\ten: \x7b",
    "\t\tname: 'English',",
    "\t\tmessages: en,",
    "\t\x7d,",
    "\tcs: \x7b",
    "\t\tname: 'Česky',",
    "\t\tload: () => import('./cs.json'),",
    "\t\x7d,",
    "\x7d;",
    "",
    "export const defaultLanguage = '\x7b\x7bDEFAULT_LANGUAGE\x7d\x7d';",
    "",
    "export default translations;"]

/-- The English messages. -/
def messagesEn : Text :=
  ofLines [
    "\x7b",
    "\t\"Home\": \"Home\",",
    "\t\"About\": \"About\",",
    "\t\"Welcome to Your Vue.js App\": \"Welcome to Your Vue.js App\"",
    "\x7d"]

/-- The Czech messages. -/
def messagesCs : Text :=
  ofLines [
    "\x7b",
    "\t\"Home\": \"Domů\",",
    "\t\"About\": \"O nás\",",
    "\t\"Welcome to Your Vue.js App\": \"Vítejte ve vaší Vue.js aplikaci\"",
    "\x7d"]

/-- The languages with localized addresses. -/
def localizedUrlsIndex : Text :=
  ofLines [
    "import cs from './cs.json'",
    "",
    "// Translated URL segments, keyed by language",
    "const localizedURLs = \x7b",
    "\tcs,",
    "\x7d;",
    "",
    "export default localizedURLs;"]

/-- The Czech address segments. -/
def localizedUrlsCs : Text :=
  ofLines [
    "\x7b",
    "\t\"about\": \"o-nas\"",
    "\x7d"]

/-- The example files. -/
def examples : List Template :=
  [⟨"src/lang/translations/index.\x7b\x7bSCRIPT_EXT\x7d\x7d", messagesIndex⟩,
    ⟨"src/lang/translations/en.json", messagesEn⟩,
    ⟨"src/lang/translations/cs.json", messagesCs⟩,
    ⟨"src/lang/localized-urls/index.\x7b\x7bSCRIPT_EXT\x7d\x7d", localizedUrlsIndex⟩,
    ⟨"src/lang/localized-urls/cs.json", localizedUrlsCs⟩]

/-- The symbols that the router file needs of the example files, with the lines that import
    them. -/
def routerImports : List (Text × Text) :=
  [("translations", "import translations from '../lang/translations'"),
    ("localizedURLs", "import localizedURLs from '../lang/localized-urls'")]

end RouteLocalizer.Template
