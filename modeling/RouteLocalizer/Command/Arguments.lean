/-
  The ARGUMENTS of the program.

  The first argument names a command, or asks for the version or for help.  A command takes flags,
  in any order, and a directory.  A flag has a long name behind two dashes and perhaps a letter
  behind one; letters may stand together behind one dash.  A flag that takes a value takes it from
  the same argument, behind an equals sign or right behind its letter, or from the next one, which
  must not start with a dash unless it is nothing else.  Behind two dashes alone, everything is a
  directory.

  No flag may be given twice, and no second directory.  Arguments are read from left to right, and
  the first one that asks for help or cannot be taken decides.
-/
import RouteLocalizer.Text.Basic

namespace RouteLocalizer.Command

open Text

/-- A flag of a command. -/
structure Flag where
  long : Text
  short : Option Char := none
  /-- Which values the flag takes; a flag that takes none is a switch. -/
  accepts : Option (Text → Bool) := none

/-- What was given to a command. -/
structure Given where
  /-- The long names of the switches. -/
  switches : List Text := []
  /-- The values, with the long names of their flags. -/
  values : List (Text × Text) := []
  directory : Option Text := none
deriving DecidableEq, Repr

namespace Given

/-- Whether a switch was given. -/
def has (g : Given) (name : Text) : Bool := g.switches.elem name

/-- The value of a flag. -/
def value? (g : Given) (name : Text) : Option Text :=
  (g.values.find? fun v => v.1 = name).map Prod.snd

/-- Takes a switch, unless it was given before. -/
def addSwitch (g : Given) (f : Flag) : Option Given :=
  if g.has f.long then none else some { g with switches := g.switches ++ [f.long] }

/-- Takes a value, unless the flag was given before or does not take it. -/
def addValue (g : Given) (f : Flag) (value : Text) : Option Given :=
  if (g.value? f.long).isSome ∨ !f.accepts.any fun p => p value then none
  else some { g with values := g.values ++ [(f.long, value)] }

/-- Takes the directory, unless there is one already.  It has a name. -/
def addDirectory (g : Given) (name : Text) : Option Given :=
  if g.directory.isSome ∨ name = [] then none else some { g with directory := some name }

end Given

/-- How far the arguments of a command are read. -/
inductive Progress where
  /-- Everything so far is taken. -/
  | taken (given : Given)
  /-- The next argument is the value of a flag. -/
  | awaiting (flag : Flag) (given : Given)
  /-- Only directories follow. -/
  | escaped (given : Given)
  /-- Somebody asked for help. -/
  | help

/-- Splits an argument at its first equals sign. -/
def splitValue (text : Text) : Text × Option Text :=
  let name := text.takeWhile (· != '=')
  match text.drop name.length with
  | [] => (name, none)
  | _ :: value => (name, some value)

/-- Reads a flag by its long name. -/
def readLong (flags : List Flag) (g : Given) (text : Text) : Option Progress :=
  let (name, value) := splitValue text
  if name = "help".toList then (if value.isNone then some .help else none)
  else match flags.find? fun f => f.long = name with
    | none => none
    | some f =>
      match f.accepts, value with
      | none, none => (g.addSwitch f).map .taken
      | none, some _ => none
      | some _, none => some (.awaiting f g)
      | some _, some v => (g.addValue f v).map .taken

/-- Reads flags by their letters. -/
def readShort (flags : List Flag) (g : Given) : Text → Option Progress
  | [] => some (.taken g)
  | c :: rest =>
    if c = 'h' then some .help
    else match flags.find? fun f => f.short = some c with
      | none => none
      | some f =>
        if f.accepts.isNone then (g.addSwitch f).bind fun g => readShort flags g rest
        else match rest with
          | [] => some (.awaiting f g)
          | '=' :: value => (g.addValue f value).map .taken
          | value => (g.addValue f value).map .taken

/-- Whether an argument cannot be a value, because it looks like a flag. -/
def looksLikeFlag : Text → Bool
  | '-' :: _ :: _ => true
  | _ => false

/-- Reads one more argument. -/
def readNext (flags : List Flag) (progress : Progress) (arg : Text) : Option Progress :=
  match progress with
  | .help => some .help
  | .escaped g => (g.addDirectory arg).map .escaped
  | .awaiting f g => if looksLikeFlag arg then none else (g.addValue f arg).map .taken
  | .taken g =>
    match arg with
    | ['-', '-'] => some (.escaped g)
    | '-' :: '-' :: name => readLong flags g name
    | '-' :: c :: letters => readShort flags g (c :: letters)
    | _ => (g.addDirectory arg).map .taken

/-- What the arguments of a command come to: what was given, or nothing but a call for help. -/
def readAll (flags : List Flag) (args : List Text) : Option (Option Given) :=
  match args.foldlM (readNext flags) (.taken {}) with
  | some (.taken g) => some (some g)
  | some (.escaped g) => some (some g)
  | some .help => some none
  | _ => none

/-! ## The commands -/

/-- What the program is asked to do. -/
inductive Request where
  | version
  | help
  /-- Run a pass over a project. -/
  | apply (given : Given)
  /-- Look at a project. -/
  | status (given : Given)
deriving DecidableEq, Repr

/-- The flag for more log messages. -/
def verboseFlag : Flag := { long := "verbose", short := some 'v' }

/-- The flags of the command that runs a pass. -/
def applyFlags : List Flag :=
  [{ long := "no-template" }, { long := "no-link-rewrite" }, { long := "language-switcher" },
    { long := "default-language", accepts := some fun _ => true },
    { long := "yes", short := some 'y' }, { long := "dry-run" }, verboseFlag]

/-- The formats of a status. -/
def statusFormats : List Text := ["plain", "json"]

/-- The flags of the command that looks at a project. -/
def statusFlags : List Flag :=
  [{ long := "format", short := some 'f', accepts := some fun v => statusFormats.elem v },
    verboseFlag]

/-- The names of all commands. -/
def commandNames : List Text := ["apply", "status", "help"]

/-- Whether there is help on what is named: on everything, or on one command. -/
def hasHelp : List Text → Bool
  | [] => true
  | [name] => commandNames.elem name
  | _ => false

/-- What the program is asked to do; nothing when its arguments cannot be taken. -/
def Request.ofArguments : List Text → Option Request
  | [] => none
  | first :: args =>
    if first = "apply".toList then (readAll applyFlags args).map fun g => g.elim .help .apply
    else if first = "status".toList then
      (readAll statusFlags args).map fun g => g.elim .help .status
    else if first = "help".toList then (if hasHelp args then some .help else none)
    else if first = "--version".toList then some .version
    else if first = "--help".toList then some .help
    else match first with
      | '-' :: 'V' :: _ => some .version
      | '-' :: 'h' :: _ => some .help
      | _ => none

end RouteLocalizer.Command
