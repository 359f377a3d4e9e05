/-
  TABLES WHILE THEY ARE DEFINED, and what may be defined twice.

  The statements of a document define its tables bit by bit.  What a later statement may add to a
  table depends on how the table came to be:

    * by a HEADER of its own: no second header, and no dotted key may reach into it;
    * IMPLIED by the header of a table in it: it may still get a header of its own;
    * by a DOTTED key: further dotted keys of the same table may add to it, a header may not.

  A name that has a value is never defined again.  Each function answers nothing when it meets a
  definition that is not allowed.
-/
import RouteLocalizer.Toml.Basic

namespace RouteLocalizer.Toml

/-- The parts of a key, between its dots. -/
abbrev Key := List Text

/-- How a table came to be. -/
inductive Origin where
  | header
  | implied
  | dotted
deriving DecidableEq, Repr

/-- What stands under a name. -/
inductive Entry where
  | value (value : Toml)
  | table (origin : Origin) (entries : List (Text × Entry))
  /-- An array of tables: those before the last one, and the last one, which is the one that
      later statements mean. -/
  | tables (before : List (List (Text × Entry))) (last : List (Text × Entry))

/-- The entries of a table, in the order in which they were defined. -/
abbrev Entries := List (Text × Entry)

namespace Entries

/-- What stands under a name. -/
def get? (name : Text) : Entries → Option Entry
  | [] => none
  | (n, e) :: rest => if n = name then some e else get? name rest

/-- The entries without the one under a name. -/
def erase (name : Text) (entries : Entries) : Entries := entries.filter fun e => e.1 ≠ name

/-- Puts an entry under a name: in its place when the name is there, at the end when it is not. -/
def set (name : Text) (entry : Entry) : Entries → Entries
  | [] => [(name, entry)]
  | (n, e) :: rest => if n = name then (n, entry) :: rest else (n, e) :: set name entry rest

/-- The way to the tables of a key: by the parts of headers, or by a dotted key. -/
inductive Way where
  | byHeader
  | byDots
deriving DecidableEq, Repr

/-- How a table came to be that a way made. -/
def Way.made : Way → Origin
  | .byHeader => .implied
  | .byDots => .dotted

/-- Edits the table of a key, and makes the tables on the way there that are missing.  The edit
    sees how the table came to be. -/
def within (way : Way) : Key → (Origin → Entries → Option Entries) → Origin → Entries →
    Option Entries
  | [], edit, origin, entries => edit origin entries
  | name :: key, edit, _, entries =>
    match get? name entries with
    | none =>
      (within way key edit way.made []).map fun sub => set name (.table way.made sub) entries
    | some (.value _) => none
    | some (.table origin sub) =>
      if way = .byDots ∧ origin = .header then none
      else (within way key edit origin sub).map fun sub => set name (.table origin sub) entries
    | some (.tables before last) =>
      (within way key edit .header last).map fun last => set name (.tables before last) entries

/-- Defines a value in a table, under a dotted key. -/
def define (key : Key) (value : Toml) (entries : Entries) : Option Entries :=
  match key.getLast? with
  | none => none
  | some name =>
    let put := fun (origin : Origin) (entries : Entries) =>
      if 1 < key.length ∧ origin ≠ .dotted then none
      else if (get? name entries).isSome then none
      else some (set name (.value value) entries)
    within .byDots key.dropLast put .header entries

/-- Defines a value in the table of a header. -/
def defineIn (here : Key) (key : Key) (value : Toml) (root : Entries) : Option Entries :=
  within .byHeader here (fun _ entries => define key value entries) .header root

/-- Starts the table of a header.  A table that was implied so far goes behind the others. -/
def openTable (key : Key) (root : Entries) : Option Entries :=
  match key.getLast? with
  | none => none
  | some name =>
    let start := fun (_ : Origin) (entries : Entries) =>
      match get? name entries with
      | none => some (set name (.table .header []) entries)
      | some (.table .implied sub) => some (set name (.table .header sub) (erase name entries))
      | some _ => none
    within .byHeader key.dropLast start .header root

/-- Starts one more table of an array. -/
def openItem (key : Key) (root : Entries) : Option Entries :=
  match key.getLast? with
  | none => none
  | some name =>
    let start := fun (_ : Origin) (entries : Entries) =>
      match get? name entries with
      | none => some (set name (.tables [] []) entries)
      | some (.tables before last) => some (set name (.tables (before ++ [last]) []) entries)
      | some _ => none
    within .byHeader key.dropLast start .header root

end Entries

mutual

/-- The value of an entry, once everything is defined. -/
def Entry.toValue : Entry → Toml
  | .value value => value
  | .table _ entries => .table (Entries.toValues entries)
  | .tables before last => .array (Entries.toTables before ++ [.table (Entries.toValues last)])

/-- The values of the entries of a table. -/
def Entries.toValues : List (Text × Entry) → List (Text × Toml)
  | [] => []
  | (name, entry) :: rest => (name, entry.toValue) :: Entries.toValues rest

/-- The values of tables. -/
def Entries.toTables : List (List (Text × Entry)) → List Toml
  | [] => []
  | entries :: rest => .table (Entries.toValues entries) :: Entries.toTables rest

end

end RouteLocalizer.Toml
