/-
  What the program DOES when it is started: it sets the variables of the environment file, reads
  its arguments, loads the settings of the project, and runs a pass over the project or looks at
  its status.

  A run ends with an exit code, which is 0 when everything is well, 1 when it is not, 2 when the
  arguments cannot be taken, and 101 when it cannot go on, and with what it prints.  A failure is
  one line: what was being done, and what went wrong.
-/
import RouteLocalizer.Command.Arguments
import RouteLocalizer.Command.EnvFile
import RouteLocalizer.Command.LogFilter
import RouteLocalizer.Command.Output
import RouteLocalizer.Pass.Run
import RouteLocalizer.Settings.Load

namespace RouteLocalizer.Command

open Text

/-- How a run ends. -/
structure Finish where
  exitCode : Nat
  /-- What the run prints. -/
  printed : Text := []
  /-- What the run says about its failure. -/
  complaint : Text := []
deriving DecidableEq, Repr

/-- What a run starts with. -/
structure Start where
  /-- The working directory. -/
  here : Path
  arguments : List Text
  environment : Environment
  /-- The time stamp in the placeholders of exclusion regions. -/
  stamp : Nat
  /-- The day that templates can show. -/
  day : Day

/-- The version of the program. -/
def versionText : Text := "lang-router 0.1.0\n"

/-- How the program is used. -/
def usageText : Text :=
  "usage: lang-router apply [flags] [directory]\n       lang-router status [flags] [directory]\n"

/-- A failure with what it comes from: where that is a failure of its own, it is said once more. -/
def chain (failure : Failure) : Text :=
  match failure with
  | .io m => failure.message ++ ": " ++ m
  | .json m => failure.message ++ ": " ++ m
  | _ => failure.message

/-- The end of a run that failed. -/
def failed (printed reason : Text) : Finish := ⟨1, printed, "Error: " ++ reason ++ "\n"⟩

/-- The end of a run that cannot go on, before it has printed anything. -/
def aborted : Finish := ⟨101, [], []⟩

/-- The variable that sets the log filter. -/
def filterVariable : Text := "RUST_LOG"

/-- The end of a run whose level is a filter that cannot be used, unless it can. -/
def levelFailure (level : Text) : Option Finish :=
  match checkFilter level with
  | .ok () => none
  | .error .cut => some aborted
  | .error fault => some (failed [] ("Invalid log level: " ++ level ++ ": " ++ fault.chain))

/-- The end of a run whose log filter cannot be used, unless it can.  A filter that the environment
    sets counts, if it can be used, and else the level of the settings, which the flag for more
    messages raises. -/
def filterFailure (env : Environment) (level : Text) : Option Finish :=
  match (env.get? filterVariable).map checkFilter with
  | some (.ok ()) => none
  | some (.error .cut) => some aborted
  | _ => levelFailure level

/-- The level of the log messages of a run. -/
def logLevel (g : Given) (s : Settings) : Text :=
  if g.has "verbose" then "debug" else s.logging.level

/-- The settings with the flags of the command over them. -/
def withFlags (g : Given) (s : Settings) : Settings :=
  let o := s.options
  { s with
    options := { o with
      renderTemplate := o.renderTemplate && !g.has "no-template"
      localizeLinks := o.localizeLinks && !g.has "no-link-rewrite"
      addLanguageSwitcher := o.addLanguageSwitcher || g.has "language-switcher"
      interactive := o.interactive && !g.has "yes" }
    i18n := { defaultLanguage := (g.value? "default-language").getD s.i18n.defaultLanguage } }

/-- The directory of the project. -/
def projectDirectory (g : Given) : Path := ⟨g.directory.getD ['.']⟩

variable {m : Type → Type} [Monad m] [Files m]

/-- Loads the settings of a project, or says why that cannot be done. -/
def loadProject (start : Start) (env : Environment) (dir : Path) : m (Except Text Settings) := do
  if !(← Files.isDirectory dir) then
    return .error (dir.spelling ++ " is not a directory")
  return (← Settings.load start.here dir env).mapError fun failure =>
    "Failed to load configuration from " ++ dir.spelling ++ ": " ++ chain failure

/-- Runs a pass. -/
def runPass (start : Start) (s : Settings) (dir : Path) (dryRun : Bool) : m Finish := do
  let heading : Text := "🌍 Adding " ++ s.dependency.name ++ " to " ++ dir.spelling
  let dryNote : List Text := if dryRun then ["📋 Dry run: no files will be written"] else []
  let printed := unlines (heading :: dryNote)
  match ← Pass.run s ⟨dryRun, start.stamp, start.day⟩ dir with
  | .error failure =>
    return failed printed ("Cannot apply " ++ s.dependency.name ++ " here: " ++ chain failure)
  | .ok report =>
    return ⟨if report.hasErrors then 1 else 0, printed ++ unlines (reportLines dir report), []⟩

/-- Runs the command that runs a pass.  `ask` asks for the switches, if the settings want that. -/
def applyCommand (start : Start) (ask : Options → m Options) (env : Environment) (g : Given) :
    m Finish := do
  let dir := projectDirectory g
  match ← loadProject start env dir with
  | .error reason => return failed [] reason
  | .ok s =>
    match (withFlags g s).checked with
    | .error failure => return failed [] (chain failure)
    | .ok s =>
      match filterFailure env (logLevel g s) with
      | some finish => return finish
      | none =>
        let options ← if s.options.interactive then ask s.options else pure s.options
        runPass start { s with options := options } dir (g.has "dry-run")

/-- The status of a project as it is printed. -/
def statusText (g : Given) (dir : Path) (status : Status) : Text :=
  if g.value? "format" = some "json".toList then (statusJson status).toText ++ ['\n']
  else unlines (statusLines dir status)

/-- Runs the command that looks at a project. -/
def statusCommand (start : Start) (env : Environment) (g : Given) : m Finish := do
  let dir := projectDirectory g
  match ← loadProject start env dir with
  | .error reason => return failed [] reason
  | .ok s =>
    match filterFailure env (logLevel g s) with
    | some finish => return finish
    | none =>
      match ← Status.inspect s start.stamp dir with
      | .error failure =>
        return failed [] ("Cannot inspect " ++ dir.spelling ++ ": " ++ chain failure)
      | .ok status => return ⟨if status.isComplete then 0 else 1, statusText g dir status, []⟩

/-- Runs the program. -/
def run (start : Start) (ask : Options → m Options) : m Finish := do
  match ← loadEnvFile start.here start.environment with
  | none => return aborted
  | some env =>
    match Request.ofArguments start.arguments with
    | none => return ⟨2, [], usageText⟩
    | some .help => return ⟨0, usageText, []⟩
    | some .version => return ⟨0, versionText, []⟩
    | some (.apply g) => applyCommand start ask env g
    | some (.status g) => statusCommand start env g

end RouteLocalizer.Command
