/-
  The PROGRAM: the files of the machine it runs on as a store, the questions at a terminal, and the
  start of a run.
-/
import RouteLocalizer.Command.Prompt
import RouteLocalizer.Command.Run
import RouteLocalizer.Store.Disk
import Std.Time.DateTime

namespace RouteLocalizer.Program

/-- A path as the system takes it, seen from the working directory. -/
def located (path : Path) := do
  let here ← IO.currentDir
  pure (here / String.ofList path.spelling : _)

/-- What a fault of the system is to a store. -/
def faultOf (e : IO.Error) : FileFault :=
  let known : Option DiskFault := match e with
    | .noFileOrDirectory _ _ _ => some .missing
    | .noSuchThing _ _ _ => some .missing
    | .alreadyExists _ _ _ => some .alreadyExists
    | .inappropriateType _ code _ => some (if code = 21 then .isDirectory else .notDirectory)
    | .userError _ => some .notText
    | _ => none
  match known with
  | some fault => fault.toFileFault
  | none => ⟨false, (toString e).toList⟩

/-- Whether the system can be asked about a path. -/
def isUsable (path : Path) : Bool := !path.spelling.elem '\x00'

/-- What an operation of the system on a path answers. -/
def attempt {α : Type} (path : Path) (action : IO α) : IO (Except FileFault α) := do
  if !isUsable path then return .error DiskFault.zeroInPath.toFileFault
  match ← action.toBaseIO with
  | .ok value => return .ok value
  | .error e => return .error (faultOf e)

/-- Makes a directory and those above it that are missing. -/
partial def makeDirs (path : Path) : IO Unit := do
  if path.spelling.isEmpty then return
  let dir ← located path
  match ← (IO.FS.createDir dir).toBaseIO with
  | .ok () => return
  | .error e =>
    match (faultOf e).isMissing, path.parent? with
    | true, some above =>
      makeDirs above
      IO.FS.createDir dir
    | _, _ => if !(← dir.isDir) then throw e

/-- The files below a directory, each directory's in the order of their names. -/
partial def walk (dir : Path) (above : Text) : IO (List Path) := do
  let entries := (← (← located dir).readDir).toList.map fun e => e.fileName.toList
  let names := entries.mergeSort fun a b => !Text.isBefore b a
  let below ← names.mapM fun name => do
    let path := dir.join ⟨name⟩
    if ← (← located path).isDir then walk path (above ++ name ++ ['/'])
    else return [(⟨above ++ name⟩ : Path)]
  return below.flatten

/-- Reads files of a directory, up to the first one that cannot be read. -/
def readAll (dir : Path) : List Path → IO (Except FileFault (List (Path × Text)))
  | [] => return .ok []
  | file :: rest => do
    let path := dir.join file
    match ← attempt path (do return (← IO.FS.readFile (← located path)).toList) with
    | .error fault => return .error fault
    | .ok text => return (← readAll dir rest).map ((file, text) :: ·)

instance : Files IO where
  read path := attempt path (do return (← IO.FS.readFile (← located path)).toList)
  readBytes path := attempt path (do return (← IO.FS.readBinFile (← located path)).toList)
  write path text := attempt path (do IO.FS.writeFile (← located path) (String.ofList text))
  isPresent path := do if isUsable path then (← located path).pathExists else return false
  isDirectory path := do if isUsable path then (← located path).isDir else return false
  makeDirs path := attempt path (makeDirs path)
  textsBelow path := do
    if !isUsable path then return none
    if ← (← located path).isDir then return some (← readAll path (← walk path [])) else return none

/-! ## Questions -/

/-- Asks a question at the terminal until a line answers it. -/
partial def confirm (question : Text) (default : Bool) : IO Bool := do
  let out ← IO.getStdout
  out.putStr (String.ofList (Command.questionText question default))
  out.flush
  match Command.settle default (← (← IO.getStdin).getLine).toList with
  | .ok value => return value
  | .error note =>
    out.putStr (String.ofList note)
    confirm question default

/-- Asks for the switches, if there is a terminal to ask at. -/
def ask (o : Options) : IO Options := do
  if ← (← IO.getStdin).isTty then Command.askEach confirm o else return o

/-! ## The start of a run -/

/-- Where the system keeps the variables of a running program, each with a zero behind it. -/
def variablesFile : String := "/proc/self/environ"

/-- The variable that an entry of the system spells. -/
def variableOf (entry : Text) : Option (Text × Text) :=
  let name := entry.takeWhile (· != '=')
  match entry.drop name.length with
  | _ :: value => if name.isEmpty then none else some (name, value)
  | [] => none

/-- The variables that the program was started with. -/
def environment : IO Command.Environment := do
  match ← (IO.FS.readFile variablesFile).toBaseIO with
  | .ok text => return (Text.pieces '\x00' text.toList).filterMap variableOf
  | .error _ => return []

/-- The day of a moment, in universal time. -/
def dayOf (moment : Std.Time.Timestamp) : Day :=
  let seconds := moment.toSecondsSinceUnixEpoch.toInt
  let date := Std.Time.PlainDate.ofEpochDay ⟨seconds / 86400⟩
  Day.ofDate date.year.toInt.toNat date.month.val.toNat date.day.val.toNat

end RouteLocalizer.Program

open RouteLocalizer in
def main (args : List String) : IO UInt32 := do
  let moment ← Std.Time.Timestamp.now
  let here ← IO.currentDir
  let start : Command.Start :=
    { here := ⟨here.toString.toList⟩
      arguments := args.map String.toList
      environment := ← Program.environment
      stamp := moment.toNanosecondsSinceUnixEpoch.toInt.toNat
      day := Program.dayOf moment }
  let finish ← Command.run start Program.ask
  IO.print (String.ofList finish.printed)
  IO.eprint (String.ofList finish.complaint)
  return finish.exitCode.toUInt32
