/-
  The ENVIRONMENT FILE: a file `.env` that sets variables before anything else happens.

  A line is a name, an equals sign and a value; the word `export` may stand in front, empty lines
  and lines that start with `#` mean nothing.  A value may be quoted, in part or as a whole: single
  quotes keep everything as it is, double quotes and bare text know escapes by a backslash.  Outside
  single quotes, a dollar sign and a name, in braces or not, stand for the value of a variable.
  White space ends a bare value, and behind it only a comment may follow.

  A variable that is set already keeps its value.  The first line that is none of this, or that is
  no text at all, ends the reading; what was set until then stays set.  No variable can hold a zero
  character: a line that sets one to such a value ends the program.
-/
import RouteLocalizer.Store.Files
import RouteLocalizer.Text.CharClass

namespace RouteLocalizer.Command

open Text

/-- Variables with their values. -/
abbrev Environment := List (Text × Text)

namespace Environment

/-- The value of a variable. -/
def get? (env : Environment) (name : Text) : Option Text :=
  (env.find? fun v => v.1 = name).map Prod.snd

/-- Whether a variable can hold a value. -/
def canHold (value : Text) : Bool := !value.elem '\x00'

/-- Sets a variable, unless it is set already; nothing when it cannot hold the value. -/
def setNew (env : Environment) (name value : Text) : Option Environment :=
  if (env.get? name).isSome then some env
  else if canHold value then some (env ++ [(name, value)])
  else none

end Environment

/-! ## Values -/

/-- Where in a value the next character stands. -/
inductive ValuePart where
  | bare
  | singleQuoted
  | doubleQuoted
  /-- Behind white space that ended a bare value. -/
  | ended
  /-- In a comment. -/
  | comment
deriving DecidableEq, Repr

/-- A reference to a variable that is being read. -/
inductive Reference where
  | none
  /-- A name without braces. -/
  | bare (name : Text)
  /-- A name in braces. -/
  | braced (name : Text)
deriving DecidableEq, Repr

/-- A value, as far as it is read. -/
structure ValueDraft where
  part : ValuePart := .bare
  /-- Whether a backslash stands in front of the next character. -/
  isEscaped : Bool := false
  reference : Reference := .none
  value : Text := []
deriving DecidableEq, Repr

namespace ValueDraft

/-- The draft with more of the value. -/
def add (d : ValueDraft) (text : Text) : ValueDraft := { d with value := d.value ++ text }

/-- The character that an escape stands for. -/
def unescaped (c : Char) : Option Char :=
  if c = '\\' ∨ c = '\'' ∨ c = '"' ∨ c = '$' ∨ c = ' ' then some c
  else if c = 'n' then some '\n'
  else none

/-- Reads a character of a bare value. -/
def readBare (d : ValueDraft) (c : Char) : ValueDraft :=
  if c = '\'' then { d with part := .singleQuoted }
  else if c = '"' then { d with part := .doubleQuoted }
  else if c = '\\' then { d with isEscaped := true }
  else if c = ' ' ∨ c = '\t' then { d with part := .ended }
  else d.add [c]

/-- Reads a character between double quotes. -/
def readDoubleQuoted (d : ValueDraft) (c : Char) : ValueDraft :=
  if c = '"' then { d with part := .bare }
  else if c = '\\' then { d with isEscaped := true }
  else d.add [c]

/-- Reads a character of a reference without braces.  A character that is no part of the name ends
    the reference and stands for itself, unless it starts another one. -/
def readName (lookup : Text → Text) (d : ValueDraft) (name : Text) (c : Char) : ValueDraft :=
  if isAlphabetic c ∨ isNumeric c then { d with reference := .bare (name ++ [c]) }
  else if c = '\x7b' ∧ name = [] then { d with reference := .braced [] }
  else if c = '$' then { d.add (lookup name) with reference := .bare [] }
  else { (d.add (lookup name)).add [c] with reference := .none }

/-- Reads one more character of a value. -/
def read (lookup : Text → Text) (d : ValueDraft) (c : Char) : Option ValueDraft :=
  match d.part with
  | .comment => some d
  | .ended =>
    if c = ' ' ∨ c = '\t' then some d
    else if c = '#' then some { d with part := .comment }
    else none
  | part =>
    if d.isEscaped then (unescaped c).map fun e => { d.add [e] with isEscaped := false }
    else if part = .singleQuoted then
      some (if c = '\'' then { d with part := .bare } else d.add [c])
    else match d.reference with
      | .bare name => some (readName lookup d name c)
      | .braced name =>
        if c = '\x7d' then some { d.add (lookup name) with reference := .none }
        else some { d with reference := .braced (name ++ [c]) }
      | .none =>
        if c = '$' then some { d with reference := .bare [] }
        else if part = .doubleQuoted then some (readDoubleQuoted d c)
        else some (readBare d c)

/-- The value, once all of it is read; quotes and braces have to be closed. -/
def finish (lookup : Text → Text) (d : ValueDraft) : Option Text :=
  if d.part = .singleQuoted ∨ d.part = .doubleQuoted then none
  else match d.reference with
    | .none => some d.value
    | .bare name => some (d.value ++ lookup name)
    | .braced _ => none

end ValueDraft

/-- The value that a text spells. -/
def readValue (lookup : Text → Text) (text : Text) : Option Text :=
  (text.foldlM (ValueDraft.read lookup) {}).bind (ValueDraft.finish lookup)

/-! ## Lines -/

/-- What a line says. -/
inductive EnvLine where
  | nothing
  | assignment (name value : Text)
deriving DecidableEq, Repr

/-- A name, and the text behind it and behind the white space that follows. -/
def readName (text : Text) : Option (Text × Text) :=
  if text.head?.any fun c => c.isAlpha || c == '_' then
    let name := text.takeWhile fun c => c.isAlphanum || c == '_' || c == '.'
    some (name, trimStart (text.drop name.length))
  else none

/-- The name that a line sets and the text behind the equals sign. -/
def readTarget (text : Text) : Option (Text × Text) := do
  let (name, rest) ← readName text
  match rest with
  | '=' :: rest => return (name, rest)
  | _ =>
    if name = "export".toList then
      match ← readName rest with
      | (name, '=' :: rest) => return (name, rest)
      | _ => none
    else none

/-- Whether nothing stands in a text but perhaps a comment. -/
def saysNothing (text : Text) : Bool := text.isEmpty || text.head? == some '#'

/-- Reads a line. -/
def readLine (lookup : Text → Text) (line : Text) : Option EnvLine :=
  let text := trim line
  if saysNothing text then some .nothing
  else (readTarget text).bind fun (name, rest) =>
    let text := trimStart rest
    if saysNothing text then some (.assignment name [])
    else (readValue lookup text).map fun value => .assignment name value

/-- Sets the variables of the lines of a file, up to the first one that is faulty; nothing when one
    of them sets a value that no variable can hold.  A reference to a variable that is not set
    stands for nothing. -/
def setLines (env : Environment) : List Text → Option Environment
  | [] => some env
  | line :: rest =>
    match readLine (fun name => (env.get? name).getD []) line with
    | none => some env
    | some .nothing => setLines env rest
    | some (.assignment name value) => (env.setNew name value).bind fun env => setLines env rest

variable {m : Type → Type} [Monad m] [Files m]

/-- The first file of the given paths. -/
def firstFile : List Path → m (Option Path)
  | [] => pure none
  | path :: rest => do
    if (← Files.isPresent path) && !(← Files.isDirectory path) then return some path
    firstFile rest

/-- A directory and the ones above it, `count` of them at most. -/
def above : (count : Nat) → Path → List Path
  | 0, _ => []
  | count + 1, path => path :: (path.parent?.elim [] (above count))

/-- The environment with the variables of the environment file of a directory, or of the nearest
    one above it that has one; nothing when they cannot be set. -/
def loadEnvFile (here : Path) (env : Environment) : m (Option Environment) := do
  let places := (above (here.components.length + 1) here).map fun p => p.join ⟨".env"⟩
  match ← firstFile places with
  | none => return some env
  | some file =>
    match ← Files.readBytes file with
    | .error _ => return some env
    | .ok bytes => return setLines env (soundLines bytes)

end RouteLocalizer.Command
