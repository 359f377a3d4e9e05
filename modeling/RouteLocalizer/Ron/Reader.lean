/-
  READING RON.

  A file may start with attributes that switch extensions on.  Of these, one changes what values
  mean: with it a value may stand where something that is there is expected.

  Values nest up to a bound.  Lists, structures and maps take a level, and so does each of their
  parts, and what is wrapped as something that is there.  `valueWith` is given the readers of the
  two levels below its own, as far as there are any.
-/
import RouteLocalizer.Ron.Scalar

namespace RouteLocalizer.Ron.Reader

open Text

/-- A reader of values. -/
abbrev ValueReader := Cursor → Except Fault (Ron × Cursor)

/-! ## Attributes -/

/-- The cursor behind marks with white space behind each, and whether all of them are there; one
    that is not is passed over. -/
def marks : List Text → Cursor → Except Fault (Bool × Cursor)
  | [], c => .ok (true, c)
  | m :: rest, c => do
    match c.after? m with
    | some c => marks rest (← c.skip)
    | none =>
      let (_, c) ← marks rest c
      return (false, c)

/-- The extensions that there are. -/
def extensions : List Text := ["unwrap_newtypes", "implicit_some", "unwrap_variant_newtypes"]

/-- The names of extensions in an attribute; `steps` bounds their number. -/
def extensionNames : (steps : Nat) → Cursor → Except Fault Cursor
  | 0, c => .ok c
  | steps + 1, c => do
    let (name, c) ← c.name
    if !extensions.elem name then c.fault (.unknownExtension name)
    else
      let c := { c with impliesSome := c.impliesSome || name == "implicit_some" }
      let (isBehindComma, c) ← c.comma
      let ch ← c.next
      if !Cursor.startsName ch then return c
      else if isBehindComma then extensionNames steps c
      else c.fault .expectedComma

/-- The cursor behind the attributes in front of the text; `steps` bounds their number. -/
def attributes : (steps : Nat) → Cursor → Except Fault Cursor
  | 0, c => .ok c
  | steps + 1, c => do
    if c.rest.head? ≠ some '#' then return c
    let (isStart, c) ← marks ["#", "!", "[", "enable", "("] c
    if !isStart then c.fault .attributeStart
    else
      let c ← extensionNames (c.rest.length + 1) (← c.skip)
      let (isEnd, c) ← marks [")", "]"] (← c.skip)
      if isEnd then attributes steps (← c.skip) else c.fault .attributeEnd

/-! ## Lists, structures and maps -/

/-- What is read on a level below, if there is one. -/
def below (reader : Option ValueReader) (c : Cursor) : Except Fault (Ron × Cursor) :=
  match reader with
  | some read => read c
  | none => c.fault .tooDeep

/-- The parts of a list up to its closing mark; `steps` bounds their number.  Between two parts
    there is a comma, and there may be one behind the last. -/
def parts {α : Type} (close : Char) (part : Cursor → Except Fault (α × Cursor)) :
    (steps : Nat) → (isBehindComma : Bool) → Cursor → Except Fault (List α × Cursor)
  | 0, _, c => c.fault .endOfText
  | steps + 1, isBehindComma, c => do
    let c ← c.skip
    let ch ← c.next
    if ch = close then return ([], c.step)
    else if !isBehindComma then c.fault .expectedComma
    else
      let (first, c) ← part c
      let (isBehindComma, c) ← c.comma
      let (others, c) ← parts close part steps isBehindComma c
      return (first :: others, c)

/-- All parts of a list, behind its opening mark. -/
def allParts {α : Type} (close : Char) (part : Cursor → Except Fault (α × Cursor)) (c : Cursor) :
    Except Fault (List α × Cursor) :=
  parts close part (c.rest.length + 1) true c

/-- A key and a value, with a colon between them. -/
def entry (key value : ValueReader) (c : Cursor) : Except Fault ((Ron × Ron) × Cursor) := do
  let (k, c) ← key c
  let c ← c.skip
  match c.after? [':'] with
  | none => c.fault .expectedColon
  | some c =>
    let (v, c) ← value (← c.skip)
    return ((k, v), c)

/-- The name of a field, as a key. -/
def fieldName (c : Cursor) : Except Fault (Ron × Cursor) := do
  let (name, c) ← c.name
  return (.string name, c)

/-- A list behind its opening mark. -/
def listRest (close : Char) (part : Option ValueReader) (c : Cursor) :
    Except Fault (Ron × Cursor) := do
  let (items, c) ← allParts close (below part) c
  return (.list items, c)

/-- A map behind its opening brace. -/
def mapRest (part : Option ValueReader) (c : Cursor) : Except Fault (Ron × Cursor) := do
  let (entries, c) ← allParts '\x7d' (entry (below part) (below part)) c
  return (mapOf entries, c)

/-- A structure behind its opening parenthesis. -/
def structureRest (part : Option ValueReader) (c : Cursor) : Except Fault (Ron × Cursor) := do
  let key := below (part.map fun _ => fieldName)
  let (entries, c) ← allParts ')' (entry key (below part)) c
  return (mapOf entries, c)

/-- Whether a structure stands behind an opening parenthesis, and not a tuple: one does if a name
    with a colon comes first. -/
def startsField (c : Cursor) : Except Fault Bool := do
  let c ← c.skip
  match c.name with
  | .error _ => return false
  | .ok (_, c) =>
    let ch ← (← c.skip).next
    return ch = ':'

/-- A structure or a tuple.  What is wrong on the way to the first colon is told about where the
    parenthesis stands. -/
def structureOrTuple (content part : Option ValueReader) (c : Cursor) :
    Except Fault (Ron × Cursor) :=
  match startsField c.step with
  | .error f => c.fault f.reason
  | .ok true => below (content.map fun _ => structureRest part) c.step
  | .ok false => below (content.map fun _ => listRest ')' part) c.step

/-! ## Values -/

/-- The words that are values. -/
def wordValues : List (Text × Ron) :=
  [("true", .boolean true), ("false", .boolean false), ("None", .nothing),
   ("inf", .double (.infinite false)), ("-inf", .double (.infinite true)), ("NaN", .double .nan)]

/-- The value of a word in front of the text. -/
def wordValue (c : Cursor) : Option (Ron × Cursor) :=
  match c.after? "()" with
  | some c => some (.unit, c)
  | none => wordValues.findSome? fun w => (c.afterName? w.1).map fun c => (w.2, c)

/-- Something that is there, behind its word. -/
def optionRest (content : Option ValueReader) (c : Cursor) : Except Fault (Ron × Cursor) := do
  let c ← c.skip
  match c.after? ['('] with
  | some c =>
    let (v, c) ← below content (← c.skip)
    let (_, c) ← c.comma
    match c.after? [')'] with
    | some c => return (.something v, c)
    | none => c.fault .optionEnd
  | none =>
    if c.impliesSome then
      let (v, c) ← below content c
      return (.something v, c)
    else c.fault .expectedOption

/-- A value that starts with a mark, a digit or a quote. -/
def markedValue (content part : Option ValueReader) (c : Cursor) :
    Except Fault (Ron × Cursor) := do
  let ch ← c.next
  if ch = '(' then structureOrTuple content part c
  else if ch = '[' then below (content.map fun _ => listRest ']' part) c.step
  else if ch = '\x7b' then below (content.map fun _ => mapRest part) c.step
  else if ch.isDigit ∨ ch = '+' ∨ ch = '-' then number c
  else if ch = '.' then fraction c
  else if ch = '"' ∨ ch = 'r' then
    let (t, c) ← string c
    return (.string t, c)
  else if ch = '\'' then
    let (v, c) ← characterRest c.step
    return (.character v, c)
  else c.fault (.unexpectedByte (Cursor.firstByte ch))

/-- Reads a value with the readers of what it wraps and of its parts. -/
def valueWith (content part : Option ValueReader) (c : Cursor) : Except Fault (Ron × Cursor) :=
  match wordValue c, c.afterName? "Some", c.name with
  | some answer, _, _ => .ok answer
  | none, some c, _ => optionRest content c
  | none, none, .error _ => markedValue content part c
  | none, none, .ok (_, c) => do
    let c ← c.skip
    if c.rest.head? = some '(' then markedValue content part c else return (.unit, c)

/-- Reads a value that takes at most so many levels. -/
def value : (levels : Nat) → ValueReader
  | 0 => valueWith none none
  | 1 => valueWith (some (value 0)) none
  | levels + 2 => valueWith (some (value (levels + 1))) (some (value levels))

/-- How many levels there are. -/
def mostLevels : Nat := 128

end RouteLocalizer.Ron.Reader

namespace RouteLocalizer.Ron

open Reader

/-- The value that a whole text spells. -/
def read (text : Text) : Except Fault Ron := do
  let c ← attributes (text.length + 1) (← Cursor.skip { rest := text })
  let (v, c) ← value mostLevels c
  let c ← c.skip
  if c.rest.isEmpty then return v else c.fault .trailing

end RouteLocalizer.Ron
