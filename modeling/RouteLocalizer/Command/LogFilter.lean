/-
  LOG FILTERS: which log messages are shown.

  A filter is a list of directives with commas between them.  A directive names a target, a span
  with fields in brackets, and behind an equals sign a level; any of these may be left out, and a
  name that stands alone is a level or a target.  A field may be compared with a value, which is a
  switch, a number, or else a pattern.  Nothing is filtered here: all that matters is whether a
  filter can be used, and what is wrong with one that cannot.

  White space around a directive is no part of it.  Where its parts start and end is nevertheless
  counted in bytes from the start of the directive without that white space, and cut out of the one
  with it.  A part that would start or end within a character cannot be cut out at all.
-/
import RouteLocalizer.Decimal.Notation
import RouteLocalizer.Pattern.Check

namespace RouteLocalizer.Command

open Text

/-- What is wrong with a filter. -/
inductive FilterFault where
  /-- A directive is not put together as one. -/
  | directive
  /-- What stands behind an equals sign is no level. -/
  | level
  /-- The value of a field is a pattern that cannot be used. -/
  | field (value : Text) (flaw : Pattern.Flaw)
  /-- A part of a directive cannot be cut out. -/
  | cut
deriving DecidableEq, Repr

/-- What is said of a pattern that asks for Unicode words. -/
def wordsMessage : Text :=
  "unsupported regex feature for DFAs: cannot build DFAs for regexes with Unicode word " ++
    "boundaries; switch to ASCII word boundaries, or heuristically enable Unicode word " ++
    "boundaries or use a different regex engine"

/-- What is said of a fault, and of what it comes from, from one cause to the next. -/
def FilterFault.messages : FilterFault → List Text
  | .directive => ["invalid filter directive"]
  | .level =>
    let message : Text := "error parsing level filter: expected one of \"off\", \"error\", " ++
      "\"warn\", \"info\", \"debug\", \"trace\", or a number 0-5"
    [message, message]
  | .field value (.faulty fault) =>
    ["invalid field filter: error building NFA", "error building NFA", "error parsing regex",
      fault.message value]
  | .field _ .asksWords => ["invalid field filter: " ++ wordsMessage, wordsMessage]
  | .cut => []

/-- What is said of a fault and of all that it comes from. -/
def FilterFault.chain (fault : FilterFault) : Text := joinWith [':', ' '] fault.messages

/-! ## Parts of directives -/

/-- The names of levels. -/
def levelNames : List Text := ["off", "error", "warn", "info", "debug", "trace"]

/-- Whether a text is a level: a name in any case, or a number. -/
def isLevel (text : Text) : Bool :=
  levelNames.elem (toLowerAscii text) || (partNumber text).any (· ≤ 5)

/-- Whether a value is a switch or a number. -/
def isPlainValue (text : Text) : Bool :=
  text == "true".toList || text == "false".toList || (Decimal.readDouble text).isSome

/-- Looks at a field: a name, and perhaps a value between two equals signs. -/
def checkField (text : Text) : Except FilterFault Unit :=
  match pieces '=' text with
  | _ :: value :: _ =>
    if isPlainValue value then .ok () else (Pattern.check value).mapError (.field value)
  | _ => .ok ()

/-- The first bytes of a text, and the rest behind them, unless that cuts a character. -/
def splitBytes (count : Nat) : Text → Option (Text × Text)
  | [] => if count = 0 then some ([], []) else none
  | c :: rest =>
    if count = 0 then some ([], c :: rest)
    else if count < c.utf8Size then none
    else (splitBytes (count - c.utf8Size) rest).map fun (first, rest) => (c :: first, rest)

/-- The part of a text behind its first bytes. -/
def partFrom (start : Nat) (text : Text) : Except FilterFault Text :=
  match splitBytes start text with
  | some (_, rest) => .ok rest
  | none => .error .cut

/-- The part of a text between two offsets. -/
def partBetween (start stop : Nat) (text : Text) : Except FilterFault Text :=
  match (splitBytes stop text).bind fun (first, _) => splitBytes start first with
  | some (_, part) => .ok part
  | none => .error .cut

/-! ## Directives -/

/-- How far a directive is read; a part knows the offset at which it starts. -/
inductive DirectivePart where
  | start
  | name
  | span (first : Nat)
  | field (first : Nat)
  | behindFields
  | behindSpan
  | level (first : Nat)
deriving DecidableEq, Repr

/-- Reads one more character of a directive, which stands at an offset. -/
def DirectivePart.next (text : Text) (offset : Nat) (c : Char) : DirectivePart →
    Except FilterFault DirectivePart
  | .start =>
    if c = '[' then .ok (.span (offset + 1))
    else if c = '-' ∨ c = ':' ∨ c = '_' ∨ isAlphabetic c ∨ isNumeric c then .ok .name
    else .error .directive
  | .name =>
    if c = '=' then (partBetween 0 offset text).map fun _ => .level (offset + 1)
    else if c = '[' then (partBetween 0 offset text).map fun _ => .span (offset + 1)
    else .ok .name
  | .span first =>
    if c = ']' then (partBetween first offset text).map fun _ => .behindSpan
    else if c = '\x7b' then (partBetween first offset text).map fun _ => .field (offset + 1)
    else .ok (.span first)
  | .field first =>
    if c = '\x7d' then do
      let field ← partBetween first offset text
      if field.isEmpty then throw .directive
      checkField field
      return .behindFields
    else .ok (.field first)
  | .behindFields => if c = ']' then .ok .behindSpan else .error .directive
  | .behindSpan => if c = '=' then .ok (.level (offset + 1)) else .error .directive
  | .level first => .ok (.level first)

/-- Reads the rest of a directive from an offset on. -/
def DirectivePart.behind (text : Text) (offset : Nat) (part : DirectivePart) : Text →
    Except FilterFault DirectivePart
  | [] => .ok part
  | c :: rest =>
    match part.next text offset c with
    | .error fault => .error fault
    | .ok part => DirectivePart.behind text (offset + c.utf8Size) part rest

/-- Whether a directive may end where it ends. -/
def DirectivePart.finish (text : Text) : DirectivePart → Except FilterFault Unit
  | .name => .ok ()
  | .behindSpan => .ok ()
  | .level first => do
    let level ← partFrom first text
    if level.isEmpty || isLevel level then .ok () else throw .level
  | _ => .error .directive

/-- Looks at a directive. -/
def checkDirective (text : Text) : Except FilterFault Unit := do
  (← DirectivePart.start.behind text 0 (trim text)).finish text

/-- Looks at a filter; of two faults the first one counts. -/
def checkFilter (filter : Text) : Except FilterFault Unit :=
  ((pieces ',' filter).filter fun d => !d.isEmpty).forM checkDirective

end RouteLocalizer.Command
