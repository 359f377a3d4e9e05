/-
  LAYERS of settings: the settings file, and above it the environment.

  Every source sets values under KEY PATHS, names with dots between them and perhaps the number of
  a list's item in brackets.  Names are compared in small letters.  What a later source sets stands
  in the place of what an earlier one has set; only tables are merged, name by name, and a value
  that is no table gives way where a path leads through it.

  A value that a message may be about remembers the source that it comes from.
-/
import RouteLocalizer.Decimal.Notation
import RouteLocalizer.Settings.Field
import RouteLocalizer.Text.Case
import RouteLocalizer.Text.Quoted
import RouteLocalizer.Text.Shape

namespace RouteLocalizer.Settings

open Text Decimal

/-- A value that a source sets. -/
inductive Layer where
  /-- Nothing: what a source sets to nothing, or an item of a list that was never set. -/
  | absent (source : Option Text)
  | boolean (value : Bool)
  | integer (value : Int)
  | double (value : Double)
  | text (source : Text) (value : Text)
  | list (source : Option Text) (items : List Layer)
  | table (source : Option Text) (entries : List (Text × Layer))

namespace Layer

/-- The entries of a table. -/
abbrev Entries := List (Text × Layer)

/-- What stands under a name. -/
def Entries.get? (name : Text) : Entries → Option Layer
  | [] => none
  | (n, v) :: rest => if n = name then some v else Entries.get? name rest

/-- Puts a value under a name: in its place when the name is there, at the end when it is not. -/
def Entries.set (name : Text) (value : Layer) : Entries → Entries
  | [] => [(name, value)]
  | (n, v) :: rest =>
    if n = name then (n, value) :: rest else (n, v) :: Entries.set name value rest

theorem Entries.get?_set_self (name : Text) (value : Layer) (entries : Entries) :
    Entries.get? name (Entries.set name value entries) = some value := by
  induction entries with
  | nil => simp [Entries.set, Entries.get?]
  | cons e rest ih =>
    by_cases h : e.1 = name
    · simp [Entries.set, Entries.get?, h]
    · simp [Entries.set, Entries.get?, h, ih]

/-- The entries of a value, of which there are none when it is no table. -/
def entries : Layer → Entries
  | .table _ entries => entries
  | _ => []

/-- The source of a table; a table that takes the place of something else has none. -/
def tableSource : Layer → Option Text
  | .table source _ => source
  | _ => none

/-- The items of a value, of which there are none when it is no list. -/
def items : Layer → List Layer
  | .list _ items => items
  | _ => []

/-- The source of a list. -/
def listSource : Layer → Option Text
  | .list source _ => source
  | _ => none

/-- The value with another one under a name; what is no table becomes one. -/
def set (v : Layer) (name : Text) (value : Layer) : Layer :=
  .table v.tableSource (Entries.set name value v.entries)

/-- The items of a list, filled up so that there is an item of the given number. -/
def filledUp (index : Nat) (items : List Layer) : List Layer :=
  items ++ List.replicate (index + 1 - items.length) (.absent none)

mutual

/-- A value over what stood in its place: tables are merged, all else is replaced. -/
def onTopOf (old : Layer) : Layer → Layer
  | .table _ entries => mergeInto old entries
  | v => v

/-- Sets the entries of a table one by one. -/
def mergeInto (target : Layer) : List (Text × Layer) → Layer
  | [] => target
  | (name, v) :: rest =>
    let key := toLower name
    let old := (target.entries.get? key).getD (.table none [])
    mergeInto (target.set key (onTopOf old v)) rest

end

/-! ## Key paths -/

/-- A step of a key path. -/
inductive Step where
  | name (name : Text)
  /-- The item of a number; a negative one is counted from the end. -/
  | item (index : Int)
deriving DecidableEq, Repr

/-- The number of the item that a step means in a list of the given length. -/
def itemIndex (length : Nat) (index : Int) : Nat :=
  if 0 ≤ index then index.toNat else length - index.natAbs

/-- Sets a value at the end of a path. -/
def setAt : List Step → Layer → Layer → Layer
  | [], value, _ => value
  | [.name n], value, v =>
    let key := toLower n
    v.set key (onTopOf ((v.entries.get? key).getD (.table none [])) value)
  | .name n :: path, value, v =>
    let key := toLower n
    v.set key (setAt path value ((v.entries.get? key).getD (.absent none)))
  | .item i :: path, value, v =>
    let index := itemIndex v.items.length i
    let items := filledUp index v.items
    .list v.listSource (items.set index (setAt path value (items[index]?.getD (.absent none))))

/-- A character of a name in a key path. -/
def isPathChar (c : Char) : Bool := c.isAlphanum || c == ' ' || c == '_' || c == '-'

/-- A name of a key path, and the text behind it. -/
def readName (text : Text) : Option (Text × Text) :=
  let name := text.takeWhile isPathChar
  if name.isEmpty then none else some (name, text.drop name.length)

/-- The number of an item, behind its bracket; spaces and tabs may stand around it. -/
def readItem (text : Text) : Option (Int × Text) :=
  let text := text.dropWhile isIndent
  let (sign, digits) : Text × Text := match text with
    | '-' :: rest => (['-'], rest)
    | _ => ([], text)
  let number := digits.takeWhile Char.isDigit
  match (digits.drop number.length).dropWhile isIndent with
  | ']' :: rest => (readInteger (sign ++ number)).map fun i => (i, rest)
  | _ => none

/-- The steps of a key path behind its first name; `count` bounds their number. -/
def readSteps : (count : Nat) → Text → Option (List Step)
  | _, [] => some []
  | 0, _ :: _ => none
  | count + 1, '.' :: rest =>
    (readName rest).bind fun (name, rest) => (readSteps count rest).map (.name name :: ·)
  | count + 1, '[' :: rest =>
    (readItem rest).bind fun (i, rest) => (readSteps count rest).map (.item i :: ·)
  | _ + 1, _ :: _ => none

/-- The path that a key spells; a key that spells none is a name as a whole. -/
def readPath (key : Text) : List Step :=
  let path := (readName key).bind fun (name, rest) =>
    (readSteps rest.length rest).map (.name name :: ·)
  path.getD [.name key]

/-- Sets values under their keys, one after another. -/
def setAll (values : Entries) (root : Layer) : Layer :=
  values.foldl (fun root v => setAt (readPath v.1) v.2 root) root

/-! ## The environment -/

/-- What messages call the environment. -/
def environmentSource : Text := "the environment"

/-- What the names of variables start with. -/
def variableStart : Text := "lang_router_"

/-- The value of a variable: a switch, a number, or else a text. -/
def ofVariable (value : Text) : Layer :=
  if toLower value = ['t', 'r', 'u', 'e'] then .boolean true
  else if toLower value = ['f', 'a', 'l', 's', 'e'] then .boolean false
  else match readInteger value with
    | some i => .integer i
    | none =>
      match readDouble value with
      | some d => .double d
      | none => .text environmentSource value

/-- The key that the name of a variable stands for; two underscores stand for a dot. -/
def variableKey (name : Text) : Option Text :=
  (afterWord variableStart (toLower name)).map (replaceAll ['_', '_'] ['.'])

/-- The values that the environment sets, with their keys. -/
def ofEnvironment (env : List (Text × Text)) : Entries :=
  env.filterMap fun v => (variableKey v.1).map fun key => (key, ofVariable v.2)

/-! ## What a value is -/

/-- What a message calls a value. -/
def shown : Layer → Text
  | .absent _ => "unit value"
  | .boolean b => "boolean \x60" ++ (if b then "true" else "false") ++ "\x60"
  | .integer i => "integer \x60" ++ ofInt i ++ "\x60"
  | .double d => "floating point \x60" ++ Notation.pointed.write d ++ "\x60"
  | .text _ t => "string " ++ quoted t
  | .list _ _ => "sequence"
  | .table _ _ => "map"

/-- The source of a value that has one. -/
def source? : Layer → Option Text
  | .absent source => source
  | .text source _ => some source
  | .list source _ => source
  | .table source _ => source
  | _ => none

/-- The misfit of a value that is none of the kind that was expected. -/
def misfit (expected : Text) (v : Layer) : Misfit := .setting v.shown expected none v.source?

/-- The words for a switch that is on. -/
def wordsForOn : List Text := ["1", "true", "on", "yes"]

/-- The words for a switch that is off. -/
def wordsForOff : List Text := ["0", "false", "off", "no"]

/-- The value of a switch. -/
def readBoolean : Layer → Except Misfit Bool
  | .boolean b => .ok b
  | .integer i => .ok (i ≠ 0)
  | .double d => .ok (!d.isZero)
  | .text source t =>
    let word := toLower t
    if wordsForOn.elem word then .ok true
    else if wordsForOff.elem word then .ok false
    else .error (misfit "a boolean" (.text source word))
  | v => .error (v.misfit "a boolean")

/-- The value of a text. -/
def readText : Layer → Except Misfit Text
  | .boolean b => .ok (if b then "true" else "false")
  | .integer i => .ok (ofInt i)
  | .double d => .ok (Notation.plain.write d)
  | .text _ t => .ok t
  | v => .error (v.misfit "a string")

/-- The value of a text that may be left out. -/
def readOptionalText : Layer → Except Misfit (Option Text)
  | .absent _ => .ok none
  | v => v.readText.map some

/-- The format of layers. -/
def format : Format Layer where
  entries? := fun v => match v with
    | .table _ entries => some entries
    | _ => none
  items? := fun v => match v with
    | .list _ items => some items
    | _ => none
  boolean := readBoolean
  text := readText
  optionalText := readOptionalText
  shown := shown
  allowsSurplus := true

end Layer

/-- The settings that a settings file and the environment make of the defaults. -/
def ofLayers (file : Layer.Entries) (env : List (Text × Text)) : Except Misfit Settings :=
  Layer.format.settings <|
    Layer.setAll (Layer.ofEnvironment env) <|
      Layer.setAll file (.table none [])

end RouteLocalizer.Settings
