/-
  The STATUS of a project: which parts of the localized wiring are in place.

  Nothing is written.  Each check looks for one part of the wiring in one file, and a file that
  cannot be read makes its checks `missing`.  Which checks there are depends on the settings.
-/
import RouteLocalizer.Import.Provide
import RouteLocalizer.Markup.Region
import RouteLocalizer.Project
import RouteLocalizer.Script.RootOptions
import RouteLocalizer.Script.Router
import RouteLocalizer.Store.Files

namespace RouteLocalizer

/-- Whether a part of the wiring is in place. -/
inductive CheckState where
  | done
  | pending
  /-- The file to look in cannot be read. -/
  | missing
deriving DecidableEq, Repr

/-- A part of the wiring, and the file to look for it. -/
structure Check where
  name : Text
  file : Path
  state : CheckState
deriving DecidableEq, Repr

/-- What is in place in a project. -/
structure Status where
  script : Script
  checks : List Check
deriving DecidableEq, Repr

namespace Status

/-- Whether all of the wiring is in place. -/
def isComplete (s : Status) : Bool := s.checks.all fun c => c.state = .done

/-- The parts that are not in place. -/
def pending (s : Status) : List Check := s.checks.filter fun c => c.state ≠ .done

/-- The state of a part, by whether it was found. -/
def stateOf (found : Bool) : CheckState := if found then .done else .pending

/-- The check for a part in a file that may be unreadable. -/
def fileCheck (name : Text) (file : Path) (text : Option Text) (found : Text → Bool) : Check :=
  ⟨name, file, text.elim .missing fun t => stateOf (found t)⟩

/-- The checks of the router file. -/
def routerChecks (w : Wiring) (file : Path) (text : Option Text) : List Check :=
  [fileCheck "router import" file text (Import.hasLine w.routerImportLine),
    fileCheck "install directive" file text fun t =>
      (Script.findInstallCall w.host w.toSymbol t).isSome,
    fileCheck "router construction" file text fun t =>
      (Script.findConstruction w.toSymbol t).isSome]

/-- Whether the root instance of a text has an option of the given name. -/
def hasRootOption (w : Wiring) (text : Text) : Bool :=
  (Script.findRootOptions w.host text).any fun object => Text.hasIdentifier w.i18nSymbol object.body

/-- The checks of the entry file. -/
def entryChecks (w : Wiring) (file : Path) (text : Option Text) : List Check :=
  [fileCheck "i18n import" file text (Import.hasLine w.i18nImportLine),
    fileCheck "i18n root option" file text (hasRootOption w)]

/-- The checks of the App component, as far as the settings want its parts. -/
def appChecks (s : Settings) (stamp : Nat) (file : Path) (text : Option Text) : List Check :=
  let w := s.router
  (if s.options.localizeLinks then
    [fileCheck "links localized" file text fun t =>
      !Markup.hasTagOutside stamp w.linkTag w.switcherTag t] else []) ++
  (if s.options.addLanguageSwitcher then
    [fileCheck "language switcher" file text (Text.contains ('<' :: w.switcherTag))] else [])

variable {m : Type → Type} [Monad m] [Files m]

/-- The text of a file, if it can be read. -/
def textOf (file : Path) : m (Option Text) := do return (← Files.read file).toOption

/-- Looks at the project at a root. -/
def inspect (s : Settings) (stamp : Nat) (root : Path) : m (Except Failure Status) := do
  let file := Project.manifestAt root
  match ← Files.read file with
  | .error fault =>
    return .error (.precondition ("Cannot read " ++ file.spelling ++ ": " ++ fault.message))
  | .ok text =>
    match Manifest.parse text with
    | .error failure => return .error failure
    | .ok manifest =>
      let p : Project := { root := root, script := manifest.script }
      let router ← textOf p.routerFile
      let entry ← textOf p.entryFile
      let app ← textOf p.appFile
      return .ok
        { script := p.script
          checks :=
            ⟨"dependency declared", file, stateOf (manifest.hasDependency s.dependency.name)⟩ ::
              routerChecks s.router p.routerFile router ++
              entryChecks s.router p.entryFile entry ++
              appChecks s stamp p.appFile app }

end Status

end RouteLocalizer
