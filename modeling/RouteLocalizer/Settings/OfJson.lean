/-
  SETTINGS AS JSON.  A value is taken only for what it is: a switch is `true` or `false`, a text a
  string, and the directory of templates a string or `null`.
-/
import RouteLocalizer.Decimal.Notation
import RouteLocalizer.Failure
import RouteLocalizer.Json.Basic
import RouteLocalizer.Settings.Field
import RouteLocalizer.Text.Quoted

namespace RouteLocalizer.Settings

open Text Decimal

/-- What a message calls a JSON value. -/
def jsonShown : Json → Text
  | .null => "null"
  | .bool b => "boolean \x60" ++ (if b then "true" else "false") ++ "\x60"
  | .whole i => "integer \x60" ++ ofInt i ++ "\x60"
  | .double d => "floating point \x60" ++ Notation.manifest.write d ++ "\x60"
  | .string t => "string " ++ quoted t
  | .array _ => "sequence"
  | .object _ => "map"

/-- A string. -/
def jsonText (expected : Text) : Json → Except Misfit Text
  | .string t => .ok t
  | v => .error (.kind (jsonShown v) expected)

/-- The format of JSON values. -/
def jsonFormat : Format Json where
  entries? := Json.members?
  items? := fun v => match v with
    | .array items => some items
    | _ => none
  boolean := fun v => match v with
    | .bool b => .ok b
    | _ => .error (.kind (jsonShown v) "a boolean")
  text := jsonText "a string"
  optionalText := fun v => match v with
    | .null => .ok none
    | _ => (jsonText "path string" v).map some
  shown := jsonShown
  allowsSurplus := false

/-- The settings that a JSON value spells. -/
def ofJson (v : Json) : Except Failure Settings :=
  (jsonFormat.settings v).mapError fun m => .json m.message

end RouteLocalizer.Settings
