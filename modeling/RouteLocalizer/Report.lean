/-
  The REPORT of a pass: what each step did, in order, and what there is to say about it.
-/
import RouteLocalizer.Path

namespace RouteLocalizer

/-- The steps of a pass. -/
inductive Step where
  | manifest
  | templates
  | entry
  | router
  | markup
deriving DecidableEq, Repr

/-- The name of a step. -/
def Step.name : Step → Text
  | .manifest => "manifest"
  | .templates => "templates"
  | .entry => "entry"
  | .router => "router"
  | .markup => "markup"

/-- The name of a step, as a heading. -/
def Step.title : Step → Text
  | .manifest => "Manifest"
  | .templates => "Templates"
  | .entry => "Entry"
  | .router => "Router"
  | .markup => "Markup"

/-- What a step came to. -/
inductive Outcome where
  /-- A file was written, or would be. -/
  | modified
  /-- There was nothing to do. -/
  | unchanged
  /-- The step was not wanted, or could not be done. -/
  | skipped
deriving DecidableEq, Repr

/-- How serious a note is. -/
inductive Level where
  | info
  | warn
  | error
deriving DecidableEq, Repr

/-- The name of a level. -/
def Level.name : Level → Text
  | .info => "info"
  | .warn => "warn"
  | .error => "error"

/-- A note of a pass. -/
structure Diagnostic where
  level : Level
  message : Text
deriving DecidableEq, Repr

/-- Whether a note asks for attention. -/
def Diagnostic.isWarning (d : Diagnostic) : Bool := d.level != .info

/-- What one step did, and to which files. -/
structure StepRecord where
  step : Step
  outcome : Outcome
  files : List Path
deriving DecidableEq, Repr

/-- Everything that a pass did. -/
structure Report where
  steps : List StepRecord := []
  diagnostics : List Diagnostic := []
  dryRun : Bool := false
deriving DecidableEq, Repr

namespace Report

variable (r : Report)

/-- The report with one more step. -/
def record (step : Step) (outcome : Outcome) (files : List Path) : Report :=
  { r with steps := r.steps ++ [⟨step, outcome, files⟩] }

/-- The report with one more note. -/
def note (d : Diagnostic) : Report := { r with diagnostics := r.diagnostics ++ [d] }

/-- What the first record of a step says. -/
def outcome? (step : Step) : Option Outcome :=
  (r.steps.find? fun s => s.step = step).map StepRecord.outcome

/-- The notes that ask for attention. -/
def warnings : List Diagnostic := r.diagnostics.filter Diagnostic.isWarning

/-- The files of the steps that modified some. -/
def modifiedFiles : List Path :=
  (r.steps.filter fun s => s.outcome = .modified).flatMap StepRecord.files

/-- Whether some step could not do what it should. -/
def hasErrors : Bool := r.diagnostics.any fun d => d.level = .error

end Report

end RouteLocalizer
