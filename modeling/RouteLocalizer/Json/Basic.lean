/-
  JSON VALUES, with the members of an object in the order in which they stand.

  A number is a whole number, or a number of the 64-bit floating-point format when it is written
  with a fraction or an exponent or lies outside the machine words.

  An object is a list of members without two of one name: `Members.set` writes a member in its own
  place when the name is there and behind all others when it is not.
-/
import RouteLocalizer.Text.Basic
import RouteLocalizer.Decimal.Double

namespace RouteLocalizer

/-- A JSON value. -/
inductive Json where
  | null
  | bool (value : Bool)
  | whole (value : Int)
  | double (value : Decimal.Double)
  | string (value : Text)
  | array (items : List Json)
  | object (members : List (Text × Json))

namespace Json

/-- The members of an object, from first to last. -/
abbrev Members := List (Text × Json)

namespace Members

/-- The value of the member with the given name. -/
def get? (name : Text) : Members → Option Json
  | [] => none
  | (n, v) :: rest => if n = name then some v else get? name rest

/-- Writes a member: in its place when the name is there, at the end when it is not. -/
def set (name : Text) (value : Json) : Members → Members
  | [] => [(name, value)]
  | (n, v) :: rest => if n = name then (n, value) :: rest else (n, v) :: set name value rest

@[simp] theorem get?_set_self (name : Text) (value : Json) (members : Members) :
    get? name (set name value members) = some value := by
  induction members with
  | nil => simp [set, get?]
  | cons m rest ih =>
    by_cases h : m.1 = name
    · simp [set, get?, h]
    · simp [set, get?, h, ih]

theorem get?_set_of_ne {name other : Text} (h : other ≠ name) (value : Json)
    (members : Members) : get? other (set name value members) = get? other members := by
  induction members with
  | nil => simp [set, get?, Ne.symm h]
  | cons m rest ih =>
    by_cases hm : m.1 = name
    · have : m.1 ≠ other := fun he => h (he ▸ hm)
      simp [set, get?, hm, Ne.symm h]
    · by_cases ho : m.1 = other
      · simp [set, get?, ho, h]
      · simp [set, get?, hm, ho, ih]

end Members

/-- The members of an object. -/
def members? : Json → Option Members
  | .object members => some members
  | _ => none

/-- The text of a string. -/
def string? : Json → Option Text
  | .string text => some text
  | _ => none

/-- The value of a member, if the value is an object that has it. -/
def member? (name : Text) (value : Json) : Option Json := value.members?.bind (Members.get? name)

end Json

end RouteLocalizer
