/-
  A project's files IN MEMORY, with faults that can be planned and a log of what was written.

  A file is found by the components of its path, and keeps the spelling under which it was first
  stored.  There are no directories: making one is logged and otherwise does nothing.  A planned
  fault makes one kind of call on one path fail, always; of two that apply the first one counts.

  Directories that are read as a whole, for the templates in them, lie outside: no file of the store
  is in one, and nothing that is written changes them.
-/
import RouteLocalizer.Store.Files

namespace RouteLocalizer

/-- The calls that a fault can be planned for. -/
inductive FileCall where
  | read
  | write
  | makeDirs
deriving DecidableEq, Repr

/-- A call that fails. -/
structure PlannedFault where
  call : FileCall
  path : Path
  fault : FileFault
deriving DecidableEq, Repr

/-- An entry of the log: a call that was tried, and the path it was tried on. -/
structure LogEntry where
  call : FileCall
  path : Path
deriving DecidableEq, Repr

/-- A directory outside the store. -/
structure OutsideDirectory where
  path : Path
  /-- The files below it with their texts, as seen from there. -/
  files : List (Path × Text)
  /-- Why one of the files cannot be read, if so. -/
  fault : Option FileFault := none
deriving DecidableEq, Repr

/-- Files in memory. -/
structure Memory where
  /-- The files with their texts, in the order in which they were stored. -/
  files : List (Path × Text) := []
  /-- The calls that fail. -/
  faults : List PlannedFault := []
  /-- The writing calls that were tried, from first to last. -/
  log : List LogEntry := []
  /-- The directories outside the store that can be read as a whole. -/
  outside : List OutsideDirectory := []
deriving DecidableEq, Repr

namespace Memory

variable (s : Memory)

/-- The fault that is planned for a call. -/
def faultFor (call : FileCall) (path : Path) : Option FileFault :=
  (s.faults.find? fun f => f.call = call && f.path.same path).map PlannedFault.fault

/-- The text stored under a path. -/
def get? (path : Path) : Option Text :=
  (s.files.find? fun f => f.1.same path).map Prod.snd

/-- Stores a text under a path, in the place of the text that is there. -/
def setIn (path : Path) (text : Text) : List (Path × Text) → List (Path × Text)
  | [] => [(path, text)]
  | f :: rest => if f.1.same path then (f.1, text) :: rest else f :: setIn path text rest

/-- The store with a text under a path. -/
def set (path : Path) (text : Text) : Memory := { s with files := setIn path text s.files }

/-- The store without the file of a path. -/
def erase (path : Path) : Memory :=
  { s with files := s.files.filter fun f => !f.1.same path }

/-- The store with one more entry in its log. -/
def logged (call : FileCall) (path : Path) : Memory :=
  { s with log := s.log ++ [⟨call, path⟩] }

/-- What reading a path answers. -/
def read (path : Path) : Except FileFault Text :=
  match s.faultFor .read path with
  | some fault => .error fault
  | none =>
    match s.get? path with
    | some text => .ok text
    | none => .error ⟨true, "no such file"⟩

/-- What writing a path answers, and the store afterwards. -/
def write (path : Path) (text : Text) : Except FileFault Unit × Memory :=
  match s.faultFor .write path with
  | some fault => (.error fault, s.logged .write path)
  | none => (.ok (), (s.logged .write path).set path text)

/-- What making a directory answers, and the store afterwards. -/
def makeDirs (path : Path) : Except FileFault Unit × Memory :=
  match s.faultFor .makeDirs path with
  | some fault => (.error fault, s.logged .makeDirs path)
  | none => (.ok (), s.logged .makeDirs path)

/-- The texts of a directory outside the store. -/
def textsBelow (path : Path) : Option (Except FileFault (List (Path × Text))) :=
  (s.outside.find? fun d => d.path.same path).map fun d =>
    match d.fault with
    | some fault => .error fault
    | none => .ok d.files

instance : Files (StateM Memory) where
  read path := fun s => pure (s.read path, s)
  readBytes path := fun s => pure ((s.read path).map Text.encode, s)
  write path text := fun s => pure (s.write path text)
  isPresent path := fun s => pure ((s.get? path).isSome, s)
  isDirectory _ := pure false
  makeDirs path := fun s => pure (s.makeDirs path)
  textsBelow path := fun s => pure (s.textsBelow path, s)

end Memory

end RouteLocalizer
