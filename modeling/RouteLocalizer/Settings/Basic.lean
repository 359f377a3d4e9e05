/-
  The SETTINGS of a pass: which steps run, which dependency is declared, which names and tags are
  swapped for which, and how the run is logged.

  Every field has a default, so a project without a settings file and without environment
  variables is wired for the stock router.  `Settings.check` is the one rule that a set of
  settings has to meet: seven texts must hold more than white space, and the logging format is one
  of three words.
-/
import RouteLocalizer.Failure
import RouteLocalizer.Text.CharClass

namespace RouteLocalizer

/-- The switches of a pass. -/
structure Options where
  /-- Add the example files. -/
  renderTemplate : Bool := true
  /-- Rename the link tags of the App component. -/
  localizeLinks : Bool := true
  /-- Add the language switcher to the App component. -/
  addLanguageSwitcher : Bool := false
  /-- Import the i18n object and hand it to the root instance. -/
  injectI18n : Bool := true
  /-- Ask before the pass starts. -/
  interactive : Bool := true
deriving DecidableEq, Repr

/-- The dependency to declare in the manifest. -/
structure Dependency where
  name : Text := "vue-lang-router"
  version : Text := "^1.2.0"
deriving DecidableEq, Repr

/-- The symbols and tags that take part in swapping the stock router for the localized one. -/
structure Wiring where
  /-- The object that routers are installed on. -/
  host : Text := "Vue"
  /-- The stock router. -/
  fromSymbol : Text := "VueRouter"
  /-- The localized router. -/
  toSymbol : Text := "LangRouter"
  /-- The package that provides the localized router. -/
  package : Text := "vue-lang-router"
  /-- The i18n object. -/
  i18nSymbol : Text := "i18n"
  /-- The stock link tag. -/
  linkTag : Text := "router-link"
  /-- The localized link tag. -/
  localizedLinkTag : Text := "localized-link"
  /-- The tag of the language switcher. -/
  switcherTag : Text := "language-switcher"
deriving DecidableEq, Repr

/-- The language of pages whose address names none. -/
structure Languages where
  defaultLanguage : Text := "en"
deriving DecidableEq, Repr

/-- Where the example files come from. -/
structure TemplateSettings where
  /-- A directory that takes the place of the built-in files. -/
  dir : Option Text := none
deriving DecidableEq, Repr

/-- How a run is logged. -/
structure Logging where
  level : Text := "info"
  format : Text := "pretty"
deriving DecidableEq, Repr

/-- All settings of a pass. -/
structure Settings where
  options : Options := {}
  dependency : Dependency := {}
  router : Wiring := {}
  i18n : Languages := {}
  templates : TemplateSettings := {}
  logging : Logging := {}
deriving DecidableEq, Repr

namespace Wiring

/-- The line that imports `symbol` by name from the router's package. -/
def importLine (w : Wiring) (symbol : Text) : Text :=
  "import \x7b " ++ symbol ++ " \x7d from '" ++ w.package ++ "'"

/-- The line that imports the localized router. -/
def routerImportLine (w : Wiring) : Text := w.importLine w.toSymbol

/-- The line that imports the i18n object. -/
def i18nImportLine (w : Wiring) : Text := w.importLine w.i18nSymbol

end Wiring

namespace Settings

/-- The settings that project tests use: nothing is asked, the language switcher is added. -/
def forTesting : Settings where
  options := { addLanguageSwitcher := true, interactive := false }
  logging := { level := "debug", format := "compact" }

/-- Why a set of settings is refused. -/
inductive Refusal where
  /-- A text that has to say something holds white space alone. -/
  | empty (key : Text)
  /-- The logging format is none of the known ones. -/
  | unknownFormat (format : Text)
deriving DecidableEq, Repr

/-- What a refusal says. -/
def Refusal.message : Refusal → Text
  | .empty key => key ++ " must not be empty"
  | .unknownFormat format => "Unknown logging format: " ++ format

/-- The texts that must not be empty, by their keys and in the order in which they are tried. -/
def required (s : Settings) : List (Text × Text) :=
  [("router.host", s.router.host),
    ("router.from_symbol", s.router.fromSymbol),
    ("router.to_symbol", s.router.toSymbol),
    ("router.package", s.router.package),
    ("router.i18n_symbol", s.router.i18nSymbol),
    ("dependency.name", s.dependency.name),
    ("i18n.default_language", s.i18n.defaultLanguage)]

/-- The known logging formats. -/
def logFormats : List Text := ["pretty", "compact", "json"]

/-- Whether the settings can be used, and the first reason if not. -/
def check (s : Settings) : Except Refusal Unit :=
  match s.required.find? fun (_, value) => (Text.trim value).isEmpty with
  | some (key, _) => .error (.empty key)
  | none =>
    if s.logging.format ∈ logFormats then .ok () else .error (.unknownFormat s.logging.format)

/-- The settings, unless they cannot be used. -/
def checked (s : Settings) : Except Failure Settings :=
  match s.check with
  | .ok () => .ok s
  | .error refusal => .error (.configuration refusal.message)

end Settings

end RouteLocalizer
