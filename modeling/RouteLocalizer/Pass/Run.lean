/-
  The PASS over a project.

  The preconditions come first, and nothing is written before they hold.  Then five steps run in
  order: the manifest, the example files, the entry file, the router file and the App component.
  A step reads its file once, edits the text and writes it once, and a file that cannot be read
  or written is a note of its own step: the steps behind it run regardless.

  A dry run does everything but write.
-/
import RouteLocalizer.Pass.Edit
import RouteLocalizer.Pass.Precondition
import RouteLocalizer.Template.Render

namespace RouteLocalizer.Pass

/-- How a pass is run. -/
structure Mode where
  /-- Compute every change, and write none. -/
  dryRun : Bool := false
  /-- The time stamp in the placeholders of exclusion regions. -/
  stamp : Nat := 0
  /-- The day that templates can show. -/
  day : Day := ⟨[], []⟩
deriving DecidableEq, Repr

/-- What a step came to. -/
structure StepResult where
  outcome : Outcome
  files : List Path
  notes : List Diagnostic := []
deriving DecidableEq, Repr

/-- The record of a step in the report. -/
def StepResult.addTo (r : StepResult) (step : Step) (report : Report) : Report :=
  { report with
    steps := report.steps ++ [⟨step, r.outcome, r.files⟩]
    diagnostics := report.diagnostics ++ r.notes }

variable {m : Type → Type} [Monad m] [Files m]

/-- Writes a file, unless this is a dry run. -/
def save (dryRun : Bool) (file : Path) (text : Text) : m (Outcome × List Diagnostic) := do
  if dryRun then return (.modified, [])
  match ← Files.write file text with
  | .ok () => return (.modified, [])
  | .error fault =>
    return (.skipped,
      [⟨.error, "Failed to write " ++ file.spelling ++ ": " ++ fault.message⟩])

/-- The note on a file that could not be read. -/
def unread (file : Path) (fault : FileFault) (remedy : Text) : Diagnostic :=
  let reason : Text :=
    if fault.isMissing then "not found" else "unreadable (" ++ fault.message ++ ")"
  ⟨.warn, file.fileName?.getD [] ++ " " ++ reason ++ ", " ++ remedy⟩

/-- Reads a file, edits it, and writes it when the edit changed something. -/
def editFile (dryRun : Bool) (file : Path) (remedy : Text) (edit : Text → Edit) :
    m StepResult := do
  match ← Files.read file with
  | .error fault => return ⟨.skipped, [file], [unread file fault remedy]⟩
  | .ok text =>
    let e := edit text
    if e.text = text then return ⟨.unchanged, [file], e.notes⟩
    let (outcome, notes) ← save dryRun file e.text
    return ⟨outcome, [file], e.notes ++ notes⟩

/-! ## The steps -/

/-- Declares the dependency. -/
def manifestStep (s : Settings) (mode : Mode) (a : Accepted) : m (Except Failure StepResult) := do
  let file := a.project.manifestFile
  let d := s.dependency
  match a.manifest.declare d.name d.version with
  | .error failure => return .error failure
  | .ok (_, false) =>
    return .ok ⟨.unchanged, [file], [⟨.info, d.name ++ " is already declared"⟩]⟩
  | .ok (manifest, true) =>
    let (outcome, notes) ← save mode.dryRun file manifest.toText
    return .ok ⟨outcome, [file], notes ++ noteIf (outcome = .modified) .info
      ("Added " ++ d.name ++ "@" ++ d.version ++ " to package.json")⟩

/-- The result of a templates step that a failure ended. -/
def failedTemplates (message : Text) : StepResult := ⟨.skipped, [], [⟨.error, message⟩]⟩

/-- The note on an example file that was there already. -/
def keptNote (root file : Path) : Diagnostic :=
  ⟨.info, root.shownIn file ++ " already exists, left as is"⟩

/-- Adds the example files.  Answers also whether the built-in ones are in place, so that the
    router file can import them. -/
def templatesStep (s : Settings) (mode : Mode) (p : Project) : m (StepResult × Bool) := do
  if !s.options.renderTemplate then return (⟨.skipped, [], []⟩, false)
  match ← Template.source s with
  | .error failure =>
    return (failedTemplates (failure.message ++ "; example files were not added"), false)
  | .ok templates =>
    let vars := Template.standardValues s p.script mode.day
    match ← Template.render mode.dryRun p.root vars templates with
    | .error failure =>
      return (failedTemplates ("Rendering example files failed: " ++ failure.message), false)
    | .ok summary =>
      let outcome := if summary.written.isEmpty then .unchanged else .modified
      return (⟨outcome, summary.written, summary.skipped.map (keptNote p.root)⟩,
        s.templates.dir.isNone)

/-- Imports the i18n object in the entry file. -/
def entryStep (s : Settings) (mode : Mode) (p : Project) : m StepResult :=
  if !s.options.injectI18n then pure ⟨.skipped, [], []⟩
  else
    editFile mode.dryRun p.entryFile "make sure to import i18n manually!"
      (entryEdit s.router (p.root.shownIn p.entryFile))

/-- Swaps the router in the router file. -/
def routerStep (s : Settings) (mode : Mode) (p : Project) (withExamples : Bool) : m StepResult :=
  editFile mode.dryRun p.routerFile ("make sure to add " ++ s.router.toSymbol ++ " manually!")
    (routerEdit s withExamples (p.root.shownIn p.routerFile))

/-- Renames the link tags of the App component and adds the language switcher. -/
def markupStep (s : Settings) (mode : Mode) (p : Project) : m StepResult :=
  if !s.options.localizeLinks && !s.options.addLanguageSwitcher then
    pure ⟨.skipped, [], []⟩
  else
    editFile mode.dryRun p.appFile ("skipping <" ++ s.router.linkTag ++ "> changes.")
      (markupEdit s mode.stamp (p.root.shownIn p.appFile))

/-! ## The whole pass -/

/-- Reads the manifest and decides whether the project can be wired. -/
def preconditions (s : Settings) (root : Path) : m (Except Failure Accepted) := do
  return accept s root (← Files.read (Project.manifestAt root))

/-- Runs the four steps behind the manifest's. -/
def steps (s : Settings) (mode : Mode) (p : Project) (report : Report) : m Report := do
  let (templates, withExamples) ← templatesStep s mode p
  let entry ← entryStep s mode p
  let router ← routerStep s mode p withExamples
  let markup ← markupStep s mode p
  return markup.addTo .markup <| router.addTo .router <| entry.addTo .entry <|
    templates.addTo .templates report

/-- Runs a pass over the project at a root. -/
def run (s : Settings) (mode : Mode) (root : Path) : m (Except Failure Report) := do
  match ← preconditions s root with
  | .error failure => return .error failure
  | .ok a =>
    match ← manifestStep s mode a with
    | .error failure => return .error failure
    | .ok manifest =>
      let start : Report := { diagnostics := a.notes, dryRun := mode.dryRun }
      return .ok (← steps s mode a.project (manifest.addTo .manifest start))

end RouteLocalizer.Pass
