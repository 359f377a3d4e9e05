/-
  What each step of a pass MAKES OF ITS FILE.

  An edit is a function from the text of a file to its new text and to what there is to say about
  it.  It sees nothing else, and in particular no other file: what a step does to its file depends
  on the settings, on the project and, for the router file, on whether the example files are there
  to be imported.
-/
import RouteLocalizer.Import.Provide
import RouteLocalizer.Markup.Region
import RouteLocalizer.Markup.Switcher
import RouteLocalizer.Project
import RouteLocalizer.Report
import RouteLocalizer.Script.RootOptions
import RouteLocalizer.Script.Router
import RouteLocalizer.Template.Examples

namespace RouteLocalizer.Pass

/-- A new text of a file, with the notes that go with it. -/
structure Edit where
  text : Text
  notes : List Diagnostic
deriving DecidableEq, Repr

/-- A note that is there under a condition only. -/
def noteIf (condition : Bool) (level : Level) (message : Text) : List Diagnostic :=
  if condition then [⟨level, message⟩] else []

/-! ## The entry file -/

/-- The text of the entry file with the i18n object imported and handed to the root
    instance. -/
def entryText (w : Wiring) (text : Text) : Text :=
  Script.injectRootOption w.host w.i18nSymbol (Import.provide w.i18nSymbol w.i18nImportLine text)

/-- Imports the i18n object and hands it to the root instance. -/
def entryEdit (w : Wiring) (shown text : Text) : Edit :=
  let imported := Import.provide w.i18nSymbol w.i18nImportLine text
  { text := entryText w text
    notes := noteIf (Script.findRootOptions w.host imported).isNone .warn
      ("Root \x60new " ++ w.host ++ "(\x7b ... \x7d)\x60 not found in " ++ shown ++ "; add \x60" ++
        w.i18nSymbol ++ "\x60 to its options manually") }

/-! ## The router file -/

/-- The text with the import lines of the example files. -/
def importExamples (text : Text) : Text :=
  Template.routerImports.foldl (fun text (symbol, line) => Import.provide symbol line text) text

/-- What is passed to the localized router when the example files are there. -/
def exampleArgs (s : Settings) : Script.InstallArgs where
  defaultLanguage := some s.i18n.defaultLanguage
  messages := some "translations"
  localizedUrls := some "localizedURLs"

/-- The text of the router file with the localized router in the place of the stock one. -/
def routerText (s : Settings) (withExamples : Bool) (text : Text) : Text :=
  let imported := Import.provide s.router.fromSymbol s.router.routerImportLine text
  if withExamples then Script.swapRouter s.router (exampleArgs s) (importExamples imported)
  else Script.swapRouter s.router {} imported

/-- Swaps the stock router for the localized one. -/
def routerEdit (s : Settings) (withExamples : Bool) (shown text : Text) : Edit :=
  let w := s.router
  let new := routerText s withExamples text
  let installed := (Script.findInstallCall w.host w.toSymbol new).isSome
  { text := new
    notes :=
      noteIf (!installed) .warn
        (w.host ++ ".use(" ++ w.fromSymbol ++ ") not found in " ++ shown ++ "; register " ++
          w.toSymbol ++ " manually") ++
      noteIf (installed && !withExamples) .info
        ("Pass your translations to " ++ w.host ++ ".use(" ++ w.toSymbol ++
          ", \x7b ... \x7d) in " ++ shown) ++
      noteIf (Script.findConstruction w.toSymbol new).isNone .warn
        ("new " ++ w.fromSymbol ++ " not found in " ++ shown ++ "; construct " ++ w.toSymbol ++
          " manually") }

/-! ## The App component -/

/-- The component with its link tags renamed, as far as that is wanted. -/
def linksText (s : Settings) (stamp : Nat) (text : Text) : Text :=
  if s.options.localizeLinks then
    Markup.renameOutside stamp s.router.linkTag s.router.localizedLinkTag s.router.switcherTag text
  else text

/-- The component with renamed link tags and a language switcher, as far as they are wanted. -/
def markupText (s : Settings) (stamp : Nat) (text : Text) : Text :=
  let linked := linksText s stamp text
  if s.options.addLanguageSwitcher then (Markup.addSwitcher s.router linked).getD linked
  else linked

/-- Renames the link tags and adds the language switcher, as far as they are wanted. -/
def markupEdit (s : Settings) (stamp : Nat) (shown text : Text) : Edit :=
  let linked := linksText s stamp text
  { text := markupText s stamp text
    notes := noteIf
      (s.options.addLanguageSwitcher && (Markup.addSwitcher s.router linked).isNone) .warn
      ("No <div> found in " ++ shown ++ "; add <" ++ s.router.switcherTag ++ "> manually") }

end RouteLocalizer.Pass
