/-
  What a pass needs of the FILES of a project.

  A pass runs in any monad that offers these operations.  It never sees more of a file than
  its whole text, and it writes a file as a whole; only the bytes of a file that may be no text can
  be had as well.  A failed operation is an answer like any other:
  a `FileFault` says whether the file was not there, and what to tell the user.

  Two stores implement the operations on plain values: `Memory`, a list of files with planned
  faults, and `Disk`, a tree of directories.
-/
import RouteLocalizer.Failure
import RouteLocalizer.Path
import RouteLocalizer.Text.Bytes

namespace RouteLocalizer

/-- Why a file operation failed. -/
structure FileFault where
  /-- Whether there is nothing of that name. -/
  isMissing : Bool
  /-- What the system says about it. -/
  message : Text
deriving DecidableEq, Repr

/-- A fault of a file operation, as a failure of its own. -/
def FileFault.toFailure (fault : FileFault) : Failure := .io fault.message

/-- The operations on files that a pass uses. -/
class Files (m : Type → Type) where
  /-- The text of a file. -/
  read : Path → m (Except FileFault Text)
  /-- The bytes of a file. -/
  readBytes : Path → m (Except FileFault (List UInt8))
  /-- Writes a file, whether it is there or not. -/
  write : Path → Text → m (Except FileFault Unit)
  /-- Whether something of that name is there. -/
  isPresent : Path → m Bool
  /-- Whether a directory of that name is there. -/
  isDirectory : Path → m Bool
  /-- Makes a directory and all directories above it that are missing. -/
  makeDirs : Path → m (Except FileFault Unit)
  /-- The files below a directory with their texts, as seen from there and each directory's in the
      order of their names; nothing when it is no directory. -/
  textsBelow : Path → m (Option (Except FileFault (List (Path × Text))))

/-- Writes a file, and makes the directories above it first. -/
def Files.place {m : Type → Type} [Monad m] [Files m] (file : Path) (text : Text) :
    m (Except FileFault Unit) := do
  match file.parent? with
  | none => Files.write file text
  | some above =>
    match ← Files.makeDirs above with
    | .error fault => pure (.error fault)
    | .ok () => Files.write file text

end RouteLocalizer
