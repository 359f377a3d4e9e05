/-
  The RESERVED NAME of TOML tables.

  A table whose first entry has the reserved name is no table: it stands for the moment that the
  entry spells, and its other entries do not count.  If the entry is no string, or spells no moment,
  the document is faulty.  Behind another entry the name is like any other.
-/
import RouteLocalizer.Toml.Moment

namespace RouteLocalizer.Toml

/-- The name of the entry that makes a table stand for a moment. -/
def reservedName : Text := "$__toml_private_datetime"

/-- The moment that the value of the reserved name spells. -/
def ofReserved : Toml → Option Toml
  | .string text => Reader.spelledMoment text
  | _ => none

mutual

/-- The value with a moment in the place of each table that stands for one; nothing when one of
    them cannot. -/
def settle : Toml → Option Toml
  | .array items => (settleItems items).map .array
  | .table [] => some (.table [])
  | .table ((name, v) :: rest) =>
    if name = reservedName then ofReserved v
    else
      match settle v, settleEntries rest with
      | some v, some rest => some (.table ((name, v) :: rest))
      | _, _ => none
  | v => some v

/-- The items of an array, settled one by one. -/
def settleItems : List Toml → Option (List Toml)
  | [] => some []
  | v :: rest =>
    match settle v, settleItems rest with
    | some v, some rest => some (v :: rest)
    | _, _ => none

/-- The entries of a table, settled one by one. -/
def settleEntries : List (Text × Toml) → Option (List (Text × Toml))
  | [] => some []
  | (name, v) :: rest =>
    match settle v, settleEntries rest with
    | some v, some rest => some ((name, v) :: rest)
    | _, _ => none

end

end RouteLocalizer.Toml
