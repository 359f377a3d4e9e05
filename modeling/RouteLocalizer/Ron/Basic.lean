/-
  RON VALUES.

  RON is a notation of values with structures.  A structure is a map whose keys are the names of
  its fields, and a tuple is a list; what the names of structures are does not count.  What may be
  there or not is `something` of a value or `nothing`, and a name that stands alone is the unit.

  A map holds its entries in the ORDER of their keys, of which no two are alike.
-/
import RouteLocalizer.Decimal.Double
import RouteLocalizer.Text.Basic

namespace RouteLocalizer

/-- A RON value. -/
inductive Ron where
  | boolean (value : Bool)
  | character (value : Char)
  | map (entries : List (Ron × Ron))
  | integer (value : Int)
  | double (value : Decimal.Double)
  | nothing
  | something (value : Ron)
  | string (value : Text)
  | list (items : List Ron)
  | unit

namespace Ron

open Text Decimal

/-- The place of a kind of values among the others. -/
def rank : Ron → Nat
  | .boolean _ => 0
  | .character _ => 1
  | .map _ => 2
  | .integer _ => 3
  | .double _ => 4
  | .nothing => 5
  | .something _ => 6
  | .string _ => 7
  | .list _ => 8
  | .unit => 9

/-- The order of two texts. -/
def orderTexts (s t : Text) : Ordering :=
  if s = t then .eq else if isBefore s t then .lt else .gt

/-- A finite number as a ratio. -/
def signedRatio (negative : Bool) (mantissa : Nat) (exponent : Int) : Int × Int :=
  let r := Double.ratio mantissa exponent
  (if negative then -(r.1 : Int) else r.1, r.2)

/-- The order of two numbers; what is no number comes first. -/
def orderDoubles : Double → Double → Ordering
  | .nan, .nan => .eq
  | .nan, _ => .lt
  | _, .nan => .gt
  | .infinite a, .infinite b => compare b a
  | .infinite a, _ => if a then .lt else .gt
  | _, .infinite b => if b then .gt else .lt
  | .finite s m e, .finite t n f =>
    let a := signedRatio s m e
    let b := signedRatio t n f
    compare (a.1 * b.2) (b.1 * a.2)

mutual

/-- The order of two values: by their kinds, and then by what they hold. -/
def order : Ron → Ron → Ordering
  | .boolean a, .boolean b => compare a b
  | .character a, .character b => compare a.toNat b.toNat
  | .map a, .map b => orderEntries a b
  | .integer a, .integer b => compare a b
  | .double a, .double b => orderDoubles a b
  | .something a, .something b => order a b
  | .string a, .string b => orderTexts a b
  | .list a, .list b => orderItems a b
  | a, b => compare a.rank b.rank

/-- The order of two lists. -/
def orderItems : List Ron → List Ron → Ordering
  | [], [] => .eq
  | [], _ :: _ => .lt
  | _ :: _, [] => .gt
  | a :: s, b :: t => (order a b).then (orderItems s t)

/-- The order of the entries of two maps. -/
def orderEntries : List (Ron × Ron) → List (Ron × Ron) → Ordering
  | [], [] => .eq
  | [], _ :: _ => .lt
  | _ :: _, [] => .gt
  | (a, v) :: s, (b, w) :: t => ((order a b).then (order v w)).then (orderEntries s t)

end

/-- Puts a value under a key: in its place when the key is there, and else where the order of the
    keys puts it. -/
def insert (key value : Ron) : List (Ron × Ron) → List (Ron × Ron)
  | [] => [(key, value)]
  | (k, v) :: rest =>
    match order key k with
    | .lt => (key, value) :: (k, v) :: rest
    | .eq => (k, value) :: rest
    | .gt => (k, v) :: insert key value rest

/-- The map of entries; of two with one key the last value stands. -/
def mapOf (entries : List (Ron × Ron)) : Ron :=
  .map (entries.foldl (fun map e => insert e.1 e.2 map) [])

end Ron

end RouteLocalizer
