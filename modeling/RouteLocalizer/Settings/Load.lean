/-
  LOADING the settings of a project: the defaults, over them the settings file of the project, if
  there is one, and over both the environment.  What comes out can be used, or is refused.

  The settings file has a fixed name.  Where a directory has that name, the settings file is a file
  beside it whose name goes on with the ending of a format.
-/
import RouteLocalizer.Settings.Source
import RouteLocalizer.Store.Files

namespace RouteLocalizer.Settings

/-- The name of the settings file of a project. -/
def fileName : Text := "lang-router.toml"

/-- The paths with an ending of a format behind their name, each with its format. -/
def withEndings (file : Path) : List (Path × FileFormat) :=
  FileFormat.all.flatMap fun format =>
    format.endings.map fun ending => (⟨file.spelling ++ '.' :: ending⟩, format)

variable {m : Type → Type} [Monad m] [Files m]

/-- The first of the paths at which there is a file, with its format. -/
def firstFile : List (Path × FileFormat) → m (Option (Path × FileFormat))
  | [] => pure none
  | (file, format) :: rest => do
    if (← Files.isPresent file) && !(← Files.isDirectory file) then return some (file, format)
    firstFile rest

/-- What a settings file sets.  Messages name it as it is seen from the directory `here`. -/
def readFile (here file : Path) (format : FileFormat) : m (Except Failure Layer.Entries) := do
  match ← Files.read file with
  | .error fault => return .error (.configuration fault.message)
  | .ok text =>
    return (format.entries (here.seenFrom file) text).mapError .configuration

/-- What the settings file of a project sets; without one there is nothing that it sets. -/
def readProject (here file : Path) : m (Except Failure Layer.Entries) := do
  if !(← Files.isPresent file) then return .ok []
  if !(← Files.isDirectory file) then readFile here file .toml
  else
    match ← firstFile (withEndings file) with
    | some (file, format) => readFile here file format
    | none =>
      return .error (.configuration
        ("configuration file \"" ++ file.spelling ++ "\" not found"))

/-- Loads the settings of the project in a directory.  Messages name the settings file as it is
    seen from the directory `here`. -/
def load (here dir : Path) (env : List (Text × Text)) : m (Except Failure Settings) := do
  match ← readProject here (dir.join ⟨fileName⟩) with
  | .error failure => return .error failure
  | .ok entries =>
    match ofLayers entries env with
    | .error misfit => return .error (.configuration misfit.message)
    | .ok s => return s.checked

end RouteLocalizer.Settings
