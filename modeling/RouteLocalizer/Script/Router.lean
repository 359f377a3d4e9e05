/-
  The ROUTER FILE of a project: the call that installs the router on the host object, and the
  expression that constructs it.

  `installCall` and `construction` are the two shapes; `swapRouter` replaces the first find of
  each from the stock router to the localized one, and gives the install call its arguments.  A
  project has one router, so later finds stay as they are.
-/
import RouteLocalizer.Import.Line
import RouteLocalizer.Settings.Basic

namespace RouteLocalizer.Script

open Text

/-- A call `host.use(symbol …)` up to the first closing parenthesis. -/
def installCall (host symbol : Text) : Shape :=
  Shape.boundary <| Shape.literal host <| Shape.run isBlank <| Shape.literal ['.'] <|
    Shape.run isBlank <| Shape.literal ['u', 's', 'e', '('] <| Shape.run isBlank <|
    Shape.literal symbol <| Shape.boundary <| Shape.run (· != ')') <| Shape.literal [')']
    Shape.finish

/-- An expression `new symbol`, up to the symbol. -/
def construction (symbol : Text) : Shape :=
  Shape.boundary <| Shape.literal ['n', 'e', 'w'] <| Shape.runOne isBlank <|
    Shape.literal symbol <| Shape.boundary Shape.finish

/-- The first install call of `symbol` on `host`. -/
def findInstallCall (host symbol text : Text) : Option Passage :=
  Shape.firstOf (installCall host symbol) text

/-- The first construction of `symbol`. -/
def findConstruction (symbol text : Text) : Option Passage :=
  Shape.firstOf (construction symbol) text

/-! ## The arguments of the install call -/

/-- What is passed to the localized router when it is installed. -/
structure InstallArgs where
  defaultLanguage : Option Text := none
  /-- The expression for the messages of the languages. -/
  messages : Option Text := none
  /-- The expression for the localized addresses. -/
  localizedUrls : Option Text := none
deriving DecidableEq, Repr

namespace InstallArgs

/-- Whether there is nothing to pass. -/
def isEmpty (args : InstallArgs) : Bool :=
  args.defaultLanguage.isNone && args.messages.isNone && args.localizedUrls.isNone

/-- A property; the value is left out when it has the name of its key. -/
def property (key value : Text) : Text :=
  if key = value then key else key ++ ": " ++ value

/-- The property that names the default language. -/
def languageProperty (language : Text) : Text := "defaultLanguage: '" ++ language ++ "'"

/-- The properties of the arguments object. -/
def entries (args : InstallArgs) : List Text :=
  (args.defaultLanguage.map languageProperty).toList ++
    (args.messages.map (property "translations")).toList ++
    (args.localizedUrls.map (property "localizedURLs")).toList

/-- One line of the arguments object. -/
def entryLine (newline entry : Text) : Text := "  " ++ entry ++ "," ++ newline

/-- The arguments object, one property a line. -/
def render (newline : Text) (args : InstallArgs) : Text :=
  '\x7b' :: newline ++ args.entries.flatMap (entryLine newline) ++ ['\x7d']

end InstallArgs

/-! ## Swapping the router -/

/-- The install call of the localized router. -/
def installText (w : Wiring) (args : InstallArgs) (newline : Text) : Text :=
  if args.isEmpty then w.host ++ ".use(" ++ w.toSymbol ++ ")"
  else w.host ++ ".use(" ++ w.toSymbol ++ ", " ++ args.render newline ++ ")"

/-- Replaces the first install call of the stock router. -/
def swapInstallCall (w : Wiring) (args : InstallArgs) (text : Text) : Text :=
  match findInstallCall w.host w.fromSymbol text with
  | some p => p.replaceWith (installText w args (Import.lineEnding text))
  | none => text

/-- Replaces the first construction of the stock router. -/
def swapConstruction (w : Wiring) (text : Text) : Text :=
  match findConstruction w.fromSymbol text with
  | some p => p.replaceWith ("new " ++ w.toSymbol)
  | none => text

/-- Replaces the first install call and the first construction of the stock router. -/
def swapRouter (w : Wiring) (args : InstallArgs) (text : Text) : Text :=
  swapConstruction w (swapInstallCall w args text)

end RouteLocalizer.Script
