/-
  The FAILURES that the library reports, by their kind.

  A failure says what it is about in one line: the heading of its kind and a message.  Only an unmet
  precondition stops a pass; every other failure becomes a note of the step in which it arose.
-/
import RouteLocalizer.Text.Basic

namespace RouteLocalizer

/-- A failed operation. -/
inductive Failure where
  /-- A file could not be read or written. -/
  | io (message : Text)
  /-- A text is no JSON, or not the JSON that was asked for. -/
  | json (message : Text)
  /-- The project is not one that can be wired. -/
  | precondition (message : Text)
  /-- The settings cannot be used. -/
  | configuration (message : Text)
  /-- The example files cannot be found. -/
  | template (message : Text)
  /-- Something that the program rules out has happened. -/
  | internal (message : Text)
deriving DecidableEq, Repr

namespace Failure

/-- What a failure says. -/
def message : Failure → Text
  | .io m => "IO error: " ++ m
  | .json m => "Manifest JSON error: " ++ m
  | .precondition m => "Precondition failed: " ++ m
  | .configuration m => "Configuration error: " ++ m
  | .template m => "Template error: " ++ m
  | .internal m => "Internal error: " ++ m

/-- Whether the failure stops a whole pass. -/
def isFatal : Failure → Bool
  | .precondition _ => true
  | _ => false

end Failure

end RouteLocalizer
