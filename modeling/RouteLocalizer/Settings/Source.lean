/-
  The FORMATS of settings files, and what a file of each format sets.

  The end of a file's name says which format the file has.  Whatever the format, a file holds one
  value, which has to be a table, and the entries of that table are what the file sets.  A file that
  cannot be read in its format, or whose value is no table, is faulty; the fault names the file.

  The names of a table are texts.  A format whose keys can be other values allows characters or
  whole numbers besides, and a file with another key is faulty.
-/
import RouteLocalizer.Ini.Reader
import RouteLocalizer.Json5.Meaning
import RouteLocalizer.Ron.Reader
import RouteLocalizer.Settings.Layer
import RouteLocalizer.Toml.Reader
import RouteLocalizer.Yaml.Reader

namespace RouteLocalizer.Settings

open Text Decimal

namespace Layer

mutual

/-- A value of a TOML file. -/
def ofToml (source : Text) : Toml → Layer
  | .boolean b => .boolean b
  | .integer i => .integer i
  | .double d => .double d
  | .string t => .text source t
  | .moment t => .text source t
  | .array items => .list (some source) (ofTomlItems source items)
  | .table entries => .table (some source) (ofTomlEntries source entries)

/-- The items of an array of a TOML file. -/
def ofTomlItems (source : Text) : List Toml → List Layer
  | [] => []
  | v :: rest => ofToml source v :: ofTomlItems source rest

/-- The entries of a table of a TOML file. -/
def ofTomlEntries (source : Text) : List (Text × Toml) → Entries
  | [] => []
  | (name, v) :: rest => (name, ofToml source v) :: ofTomlEntries source rest

end

/-- The entries over which a section of an INI file sets its texts one by one. -/
def withTexts (source : Text) (entries : Entries) (part : Ini.Section) : Entries :=
  part.entries.foldl (fun entries (key, t) => Entries.set key (.text source t) entries) entries

/-- The entries that a section of an INI file sets: its table, or its texts when it has no name. -/
def withSection (source : Text) (entries : Entries) (part : Ini.Section) : Entries :=
  match part.name with
  | none => withTexts source entries part
  | some name => Entries.set name (.table (some source) (withTexts source [] part)) entries

/-- The table that the sections of an INI file make. -/
def ofIni (source : Text) (parts : List Ini.Section) : Layer :=
  .table (some source) (parts.foldl (withSection source) [])

/-- A whole number of a JSON file: a machine word with a sign, or else the nearest number of the
    floating-point format. -/
def ofWhole (i : Int) : Layer :=
  if fitsWord i then .integer i else .double (Double.nearest (i < 0) i.natAbs 1)

mutual

/-- A value of a JSON file. -/
def ofJson (source : Text) : Json → Layer
  | .null => .absent (some source)
  | .bool b => .boolean b
  | .whole i => ofWhole i
  | .double d => .double d
  | .string t => .text source t
  | .array items => .list (some source) (ofJsonItems source items)
  | .object members => .table (some source) (ofJsonMembers source members)

/-- The items of an array of a JSON file. -/
def ofJsonItems (source : Text) : List Json → List Layer
  | [] => []
  | v :: rest => ofJson source v :: ofJsonItems source rest

/-- The members of an object of a JSON file. -/
def ofJsonMembers (source : Text) : List (Text × Json) → Entries
  | [] => []
  | (name, v) :: rest => (name, ofJson source v) :: ofJsonMembers source rest

end

/-- What a message calls a value that should be a key. -/
def shownKey : Ron → Text
  | .boolean b => "the boolean \x60" ++ (if b then "true" else "false") ++ "\x60"
  | .character c => "the UTF-8 character \x60" ++ [c] ++ "\x60"
  | .map _ => "a map"
  | .integer i => "the signed integer \x60" ++ ofInt i ++ "\x60"
  | .double d => "the floating point number \x60" ++ Notation.plain.write d ++ "\x60"
  | .nothing => "an optional value"
  | .something _ => "an optional value"
  | .string t => "the string " ++ quoted t
  | .list _ => "a sequence"
  | .unit => "a unit value"

/-- The name that a key of a RON file is. -/
def keyOfRon : Ron → Except Text Text
  | .string t => .ok t
  | .character c => .ok [c]
  | v => .error ("Expected a string but found " ++ shownKey v ++ " instead")

mutual

/-- A value of a RON file; what is wrapped as something that is there counts as itself. -/
def ofRon (source : Text) : Ron → Except Text Layer
  | .boolean b => .ok (.boolean b)
  | .character c => .ok (.text source [c])
  | .map entries => (ofRonEntries source [] entries).map (.table (some source))
  | .integer i => .ok (.integer i)
  | .double d => .ok (.double d)
  | .nothing => .ok (.absent (some source))
  | .something v => ofRon source v
  | .string t => .ok (.text source t)
  | .list items => (ofRonItems source items).map (.list (some source))
  | .unit => .ok (.absent (some source))

/-- The items of a list of a RON file. -/
def ofRonItems (source : Text) : List Ron → Except Text (List Layer)
  | [] => .ok []
  | v :: rest =>
    match ofRon source v with
    | .error message => .error message
    | .ok v => (ofRonItems source rest).map (v :: ·)

/-- The entries of a table, to which those of a map of a RON file are added. -/
def ofRonEntries (source : Text) (table : Entries) : List (Ron × Ron) → Except Text Entries
  | [] => .ok table
  | (key, v) :: rest =>
    match keyOfRon key with
    | .error message => .error message
    | .ok name =>
      match ofRon source v with
      | .error message => .error message
      | .ok v => ofRonEntries source (Entries.set name v table) rest

end

/-- The name that a key of a YAML file is. -/
def keyOfYaml : Yaml → Option Text
  | .string t => some t
  | .integer i => some (ofInt i)
  | _ => none

mutual

/-- A value of a YAML file. -/
def ofYaml (source : Text) : Yaml → Except Text Layer
  | .null => .ok (.absent (some source))
  | .boolean b => .ok (.boolean b)
  | .integer i => .ok (.integer i)
  | .real t =>
    match readDouble t with
    | some d => .ok (.double d)
    | none => .error ("Parsing " ++ t ++ " as floating point number failed")
  | .string t => .ok (.text source t)
  | .list items => (ofYamlItems source items).map (.list (some source))
  | .mapping entries => (ofYamlEntries source [] entries).map (.table (some source))
  | .invalid => .ok (.absent (some source))

/-- The items of a sequence of a YAML file. -/
def ofYamlItems (source : Text) : List Yaml → Except Text (List Layer)
  | [] => .ok []
  | v :: rest =>
    match ofYaml source v with
    | .error message => .error message
    | .ok v => (ofYamlItems source rest).map (v :: ·)

/-- The entries of a table, to which those of a mapping of a YAML file are added. -/
def ofYamlEntries (source : Text) (table : Entries) : List (Yaml × Yaml) → Except Text Entries
  | [] => .ok table
  | (key, v) :: rest =>
    match keyOfYaml key with
    | none => .error ("no name: " ++ key.shown)
    | some name =>
      match ofYaml source v with
      | .error message => .error message
      | .ok v => ofYamlEntries source (Entries.set name v table) rest

end

/-- What a message calls the value of a whole file. -/
def shownRoot : Layer → Text
  | .integer i => "64-bit integer \x60" ++ ofInt i ++ "\x60"
  | .double d => "floating point \x60" ++ Notation.plain.write d ++ "\x60"
  | v => v.shown

/-- The entries of the value of a file, which must be a table. -/
def rootEntries (source : Text) : Layer → Except Text Entries
  | .table _ entries => .ok entries
  | v =>
    .error (Misfit.kindMessage v.shownRoot "a map" ++ Misfit.sourceMessage (some source))

end Layer

/-- A format of settings files. -/
inductive FileFormat where
  | toml
  | json
  | yaml
  | ini
  | ron
  | json5
deriving DecidableEq, Repr

namespace FileFormat

/-- The formats, in the order in which their files are looked for. -/
def all : List FileFormat := [.toml, .json, .yaml, .ini, .ron, .json5]

/-- What the name of a file of the format may end with, behind a dot. -/
def endings : FileFormat → List Text
  | .toml => ["toml"]
  | .json => ["json"]
  | .yaml => ["yaml", "yml"]
  | .ini => ["ini"]
  | .ron => ["ron"]
  | .json5 => ["json5"]

/-- The value of a file, or what is wrong with it. -/
def value (source text : Text) : FileFormat → Except Text Layer
  | .toml =>
    match Toml.read text with
    | some v => .ok (Layer.ofToml source v)
    | none => .error "TOML parse error"
  | .json => ((Json.read text).mapError fun f => f.message text).map (Layer.ofJson source)
  | .yaml => ((Yaml.read text).mapError Yaml.FileFault.message).bind (Layer.ofYaml source)
  | .ini => ((Ini.read text).mapError Ini.Fault.message).map (Layer.ofIni source)
  | .ron => ((Ron.read text).mapError Ron.Fault.message).bind (Layer.ofRon source)
  | .json5 => ((Json5.read text).mapError fun f => f.message text).map (Layer.ofJson source)

/-- What a file sets.  Messages name the file by its source. -/
def entries (source text : Text) (format : FileFormat) : Except Text Layer.Entries :=
  match (format.value source text).bind (Layer.rootEntries source) with
  | .ok entries => .ok entries
  | .error message => .error (message ++ Misfit.sourceMessage (some source))

end FileFormat

end RouteLocalizer.Settings
