/-
  Files on a DISK: a tree of directories, and the place in it that relative paths start from.

  A path is followed from directory to directory.  What cannot be followed has one of a handful of
  causes (`DiskFault`), and the order in which they are noticed is the order of the path: a file in
  the place of a directory is noticed where it stands, a missing name where it is missing.  A path
  that no disk can take, because of a zero character in it or because of its length, is not
  followed at all.  A path with noise at its end asks for a directory.

  A file holds a text, or bytes that are no text; the latter exists and can be written over, but
  not read as a text.
-/
import RouteLocalizer.Store.Files

namespace RouteLocalizer

/-- Why an operation on the disk failed. -/
inductive DiskFault where
  | missing
  | notDirectory
  | isDirectory
  | alreadyExists
  | nameTooLong
  | notText
  /-- A path with a zero character, which would end it for the system. -/
  | zeroInPath
deriving DecidableEq, Repr

/-- What the system says about a fault. -/
def DiskFault.message : DiskFault → Text
  | .missing => "No such file or directory (os error 2)"
  | .notDirectory => "Not a directory (os error 20)"
  | .isDirectory => "Is a directory (os error 21)"
  | .alreadyExists => "File exists (os error 17)"
  | .nameTooLong => "File name too long (os error 36)"
  | .notText => "stream did not contain valid UTF-8"
  | .zeroInPath => "file name contained an unexpected NUL byte"

/-- A fault of the disk, as every store reports it. -/
def DiskFault.toFileFault (fault : DiskFault) : FileFault :=
  ⟨fault = .missing, fault.message⟩

/-- What stands at a place of the disk. -/
inductive Node where
  | directory
  /-- A file that holds a text. -/
  | text (content : Text)
  /-- A file whose bytes are no text. -/
  | bytes (content : List UInt8)
deriving DecidableEq, Repr

/-- A place on the disk: the names on the way down from the root. -/
abbrev Place := List Text

/-- A tree of directories and files. -/
structure Disk where
  /-- What stands at which place; the root is always a directory. -/
  nodes : List (Place × Node) := []
  /-- The place that relative paths start from. -/
  here : Place := []
deriving DecidableEq, Repr

namespace Disk

variable (d : Disk)

/-- What stands at a place. -/
def at? (place : Place) : Option Node :=
  if place = [] then some .directory
  else (d.nodes.find? fun n => n.1 = place).map Prod.snd

/-- Whether a directory stands at a place. -/
def isDirectoryAt (place : Place) : Bool := d.at? place = some .directory

/-- Puts a node at a place. -/
def put (place : Place) (node : Node) : Disk :=
  { d with nodes := (d.nodes.filter fun n => n.1 ≠ place) ++ [(place, node)] }

/-- The longest name that a directory can hold, in bytes. -/
def longestName : Nat := 255

/-- The longest path that can be followed, in bytes. -/
def longestPath : Nat := 4095

/-- Why a place that is no directory cannot be walked through. -/
def whyNot (place : Place) : DiskFault :=
  if (d.at? place).isSome then .notDirectory else .missing

/-- One step of a path, from a place that must be a directory. -/
def step (place : Place) : Component → Except DiskFault Place
  | .root => .ok []
  | .current => if d.isDirectoryAt place then .ok place else .error (d.whyNot place)
  | .parent => if d.isDirectoryAt place then .ok place.dropLast else .error (d.whyNot place)
  | .name n =>
    if !d.isDirectoryAt place then .error (d.whyNot place)
    else if longestName < n.byteSize then .error .nameTooLong
    else .ok (place ++ [n])

/-- Where a path leads to; the last place need not hold anything. -/
def follow (place : Place) : List Component → Except DiskFault Place
  | [] => .ok place
  | c :: cs =>
    match d.step place c with
    | .ok next => follow next cs
    | .error fault => .error fault

/-- Whether the end of a path says that it means a directory. -/
def asksDirectory (path : Path) : Bool := path.layout.pieces.getLast?.any Path.isNoise

/-- Whether a path ends with a dot, and so walks through the directory in front of it. -/
def endsInDot (path : Path) : Bool :=
  (path.layout.pieces.reverse.dropWhile List.isEmpty).head? = some ['.']

/-- Where a path leads to. -/
def locate (path : Path) : Except DiskFault Place :=
  if path.spelling.elem '\x00' then .error .zeroInPath
  else if path.spelling = [] then .error .missing
  else if longestPath < path.spelling.byteSize then .error .nameTooLong
  else d.follow d.here path.components

/-- What stands at the end of a path. -/
def lookup (path : Path) : Except DiskFault Node :=
  match d.locate path with
  | .error fault => .error fault
  | .ok place =>
    match d.at? place with
    | none => .error .missing
    | some node =>
      if asksDirectory path && node ≠ .directory then .error .notDirectory else .ok node

/-- What reading a path answers. -/
def read (path : Path) : Except DiskFault Text :=
  match d.lookup path with
  | .error fault => .error fault
  | .ok .directory => .error .isDirectory
  | .ok (.text content) => .ok content
  | .ok (.bytes _) => .error .notText

/-- What reading the bytes of a path answers. -/
def readBytes (path : Path) : Except DiskFault (List UInt8) :=
  match d.lookup path with
  | .error fault => .error fault
  | .ok .directory => .error .isDirectory
  | .ok (.text content) => .ok (Text.encode content)
  | .ok (.bytes content) => .ok content

/-- What writing a path answers, and the disk afterwards. -/
def write (path : Path) (content : Text) : Except DiskFault Unit × Disk :=
  match d.locate path with
  | .error fault => (.error fault, d)
  | .ok place =>
    match d.at? place with
    | some .directory => (.error .isDirectory, d)
    | some _ =>
      if endsInDot path then (.error .notDirectory, d)
      else if asksDirectory path then (.error .isDirectory, d)
      else (.ok (), d.put place (.text content))
    | none =>
      if endsInDot path then (.error .missing, d)
      else if asksDirectory path then (.error .isDirectory, d)
      else (.ok (), d.put place (.text content))

/-- Removes a file. -/
def remove (path : Path) : Except DiskFault Unit × Disk :=
  match d.lookup path, d.locate path with
  | .error fault, _ => (.error fault, d)
  | .ok .directory, _ => (.error .isDirectory, d)
  | .ok _, .error fault => (.error fault, d)
  | .ok _, .ok place => (.ok (), { d with nodes := d.nodes.filter fun n => n.1 ≠ place })

/-- Whether a path leads to something. -/
def isPresent (path : Path) : Bool := (d.lookup path).isOk

/-- Whether a path leads to a directory. -/
def isDirectory (path : Path) : Bool :=
  match d.lookup path with
  | .ok .directory => true
  | _ => false

/-- Makes one directory. -/
def makeDir (path : Path) : Except DiskFault Unit × Disk :=
  match d.locate path with
  | .error fault => (.error fault, d)
  | .ok place =>
    if (d.at? place).isSome then (.error .alreadyExists, d) else (.ok (), d.put place .directory)

/-- Makes a directory where there may be one already. -/
def ensureDir (path : Path) : Except DiskFault Unit × Disk :=
  match d.makeDir path with
  | (.ok (), d) => (.ok (), d)
  | (.error fault, d) => if d.isDirectory path then (.ok (), d) else (.error fault, d)

/-- Makes a directory and those above it that are missing, `levels` of them at most. -/
def makeDirsUpTo : (levels : Nat) → Disk → Path → Except DiskFault Unit × Disk
  | 0, d, _ => (.ok (), d)
  | levels + 1, d, path =>
    if path.spelling = [] then (.ok (), d)
    else match d.ensureDir path with
      | (.error .missing, d) =>
        match path.parent? with
        | none => (.error .missing, d)
        | some above =>
          match makeDirsUpTo levels d above with
          | (.error fault, d) => (.error fault, d)
          | (.ok (), d) => d.ensureDir path
      | answer => answer

/-- Makes a directory and those above it that are missing. -/
def makeDirs (path : Path) : Except DiskFault Unit × Disk :=
  makeDirsUpTo (path.components.length + 1) d path

/-! ## Walking a directory -/

/-- Whether one place comes before another: at the first name in which they differ. -/
def placeBefore : Place → Place → Bool
  | [], [] => false
  | [], _ :: _ => true
  | _ :: _, [] => false
  | m :: p, n :: q => Text.isBefore m n || (m == n && placeBefore p q)

/-- The files of the disk with their places, each directory's in the order of their names. -/
def fileNodes : List (Place × Node) :=
  (d.nodes.filter fun n => n.2 ≠ .directory).mergeSort fun m n => !placeBefore n.1 m.1

/-- What remains of a place as seen from one above it. -/
def below (above place : Place) : Option Place :=
  if above.isPrefixOf place then some (place.drop above.length) else none

/-- The files below a directory, as seen from there. -/
def filesBelow (path : Path) : Option (List Path) :=
  match d.locate path with
  | .error _ => none
  | .ok place =>
    if d.isDirectory path then
      some ((d.fileNodes.filterMap fun n => below place n.1).map fun names =>
        ⟨Text.joinWith ['/'] names⟩)
    else none

/-- The files below a directory with their texts; the first fault ends the reading. -/
def textsBelow (path : Path) : Option (Except DiskFault (List (Path × Text))) :=
  (d.filesBelow path).map fun files =>
    files.mapM fun file => (d.read (path.join file)).map fun text => (file, text)

/-- An operation on the disk, with its fault as every store reports it. -/
def reported {α : Type} (answer : Except DiskFault α) : Except FileFault α :=
  answer.mapError DiskFault.toFileFault

instance : Files (StateM Disk) where
  read path := fun d => pure (reported (d.read path), d)
  readBytes path := fun d => pure (reported (d.readBytes path), d)
  write path text := fun d => let (answer, d) := d.write path text; pure (reported answer, d)
  isPresent path := fun d => pure (d.isPresent path, d)
  isDirectory path := fun d => pure (d.isDirectory path, d)
  makeDirs path := fun d => let (answer, d) := d.makeDirs path; pure (reported answer, d)
  textsBelow path := fun d => pure ((d.textsBelow path).map reported, d)

end Disk

end RouteLocalizer
