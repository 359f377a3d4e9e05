/-
  Where templates COME FROM and how they are WRITTEN.

  The templates of a pass are the built-in ones, or all files below a directory that the settings
  name.  `render` writes them one after another, each with the directories above it, and in a dry
  run it only says what it would write.  A file that is there is left as it is and
  counted as skipped; the first fault ends the rendering, and what was written until then stays.
-/
import RouteLocalizer.Template.Examples
import RouteLocalizer.Store.Files

namespace RouteLocalizer.Template

variable {m : Type → Type} [Monad m] [Files m]

/-- A file of a template directory, as seen from there, as a template. -/
def ofFile (file : Path × Text) : Template := ⟨file.1.spelling, file.2⟩

/-- The templates that are the files below a directory. -/
def ofDirectory (dir : Path) : m (Except Failure (List Template)) := do
  match ← Files.textsBelow dir with
  | none => pure (.error (.template ("Template directory not found: " ++ dir.spelling)))
  | some (.error fault) => pure (.error fault.toFailure)
  | some (.ok files) => pure (.ok (files.map ofFile))

/-- The templates of a pass. -/
def source (s : Settings) : m (Except Failure (List Template)) :=
  match s.templates.dir with
  | some dir => ofDirectory ⟨dir⟩
  | none => pure (.ok examples)

/-- What became of the templates. -/
structure Summary where
  /-- The files that were written, or would be. -/
  written : List Path := []
  /-- The files that were there already. -/
  skipped : List Path := []
deriving DecidableEq, Repr

/-- Where a template goes. -/
def target (root : Path) (vars : Variables) (t : Template) : Path :=
  root.join ⟨vars.fill t.relative⟩

/-- Writes templates below `root`, leaving alone what is there. -/
def render (dryRun : Bool) (root : Path) (vars : Variables) :
    List Template → m (Except Failure Summary)
  | [] => pure (.ok {})
  | t :: rest => do
    let file := target root vars t
    if ← Files.isPresent file then
      return (← render dryRun root vars rest).map fun s => { s with skipped := file :: s.skipped }
    let placed ← if dryRun then pure (.ok ()) else Files.place file (vars.fill t.content)
    match placed with
    | .error fault => pure (.error fault.toFailure)
    | .ok () =>
      return (← render dryRun root vars rest).map fun s => { s with written := file :: s.written }

end RouteLocalizer.Template
