/-
  YAML VALUES, and what scalars mean.

  What a PLAIN scalar spells decides what it is: nothing, a truth value, a number, or else a string.
  A tag may say what it has to be, and then it may be no value at all.  All other scalars are
  strings.
-/
import RouteLocalizer.Decimal.Notation
import RouteLocalizer.Text.Hexadecimal
import RouteLocalizer.Text.Quoted

namespace RouteLocalizer

/-- A YAML value. -/
inductive Yaml where
  | null
  | boolean (value : Bool)
  | integer (value : Int)
  /-- A number that is no whole one, as it is spelled. -/
  | real (spelling : Text)
  | string (value : Text)
  | list (items : List Yaml)
  | mapping (entries : List (Yaml × Yaml))
  /-- What should be a value and is none. -/
  | invalid

namespace Yaml

open Text Decimal

mutual

/-- Whether two values are the same. -/
def isSame : Yaml → Yaml → Bool
  | .null, .null => true
  | .boolean a, .boolean b => a == b
  | .integer a, .integer b => a == b
  | .real a, .real b => a == b
  | .string a, .string b => a == b
  | .list a, .list b => areSame a b
  | .mapping a, .mapping b => haveSame a b
  | .invalid, .invalid => true
  | _, _ => false

/-- Whether two lists have the same items. -/
def areSame : List Yaml → List Yaml → Bool
  | [], [] => true
  | a :: s, b :: t => isSame a b && areSame s t
  | _, _ => false

/-- Whether two mappings have the same entries in the same order. -/
def haveSame : List (Yaml × Yaml) → List (Yaml × Yaml) → Bool
  | [], [] => true
  | (a, v) :: s, (b, w) :: t => isSame a b && isSame v w && haveSame s t
  | _, _ => false

end

mutual

/-- How a message shows a value. -/
def shown : Yaml → Text
  | .null => "Null"
  | .boolean b => "Boolean(" ++ (if b then "true" else "false") ++ ")"
  | .integer i => "Integer(" ++ ofInt i ++ ")"
  | .real t => "Real(" ++ quoted t ++ ")"
  | .string t => "String(" ++ quoted t ++ ")"
  | .list items => "Array([" ++ joinWith ", " (shownItems items) ++ "])"
  | .mapping entries => "Hash(\x7b" ++ joinWith ", " (shownEntries entries) ++ "\x7d)"
  | .invalid => "BadValue"

/-- How a message shows the items of a list. -/
def shownItems : List Yaml → List Text
  | [] => []
  | v :: rest => shown v :: shownItems rest

/-- How a message shows the entries of a mapping. -/
def shownEntries : List (Yaml × Yaml) → List Text
  | [] => []
  | (k, v) :: rest => (shown k ++ ": " ++ shown v) :: shownEntries rest

end

/-! ## Scalars -/

/-- A whole number in a base, with or without a sign. -/
def inBase (base : Nat) (text : Text) : Option Int :=
  let (negative, digits) := readSign text
  (digitsInBase base digits).bind fun n =>
    let i : Int := if negative then -(n : Int) else n
    if fitsWord i then some i else none

/-- A whole number behind a mark of its base or a plus sign. -/
def markedInteger : Text → Option Int
  | '0' :: 'x' :: digits => inBase 16 digits
  | '0' :: 'o' :: digits => inBase 8 digits
  | '+' :: digits => readInteger digits
  | _ => none

/-- The words for what is no finite number. -/
def boundless : List Text :=
  [".inf", ".Inf", ".INF", "+.inf", "+.Inf", "+.INF", "-.inf", "-.Inf", "-.INF", ".nan", ".NAN"]

/-- Whether a scalar spells a number. -/
def isReal (text : Text) : Bool := boundless.elem text || (readDouble text).isSome

/-- The value of a plain scalar. -/
def ofPlain (text : Text) : Yaml :=
  match (markedInteger text).or (readInteger text) with
  | some i => .integer i
  | none =>
    if text.isEmpty ∨ text = "~" ∨ text = "null" then .null
    else if text = "true" then .boolean true
    else if text = "false" then .boolean false
    else if isReal text then .real text
    else .string text

/-- A tag: what it starts with, and the rest of it. -/
structure Tag where
  start : Text
  suffix : Text
deriving DecidableEq, Repr

/-- What the tags of the kinds of scalars start with. -/
def coreStart : Text := "tag:yaml.org,2002:"

/-- The value of a plain scalar that has to be of a kind. -/
def ofKind (kind text : Text) : Yaml :=
  if kind = "bool" then
    if text = "true" then .boolean true else if text = "false" then .boolean false else .invalid
  else if kind = "int" then (readInteger text).elim .invalid .integer
  else if kind = "float" then (if isReal text then .real text else .invalid)
  else if kind = "null" then (if text = "~" ∨ text = "null" then .null else .invalid)
  else .string text

/-- The value of a scalar. -/
def ofScalar (isPlain : Bool) (tag : Option Tag) (text : Text) : Yaml :=
  if !isPlain then .string text
  else match tag with
    | none => ofPlain text
    | some tag => if tag.start = coreStart then ofKind tag.suffix text else .string text

end Yaml

end RouteLocalizer
