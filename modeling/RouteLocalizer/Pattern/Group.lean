/-
  GROUPS of patterns, and FLAGS.

  What stands behind an opening parenthesis and a question mark says what the parenthesis is: a
  group with a name, a group with flags of its own, or flags for all that follows.  Conditions on
  what stands before or behind a place start in the same way, and cannot be had.
-/
import RouteLocalizer.Pattern.Cursor

namespace RouteLocalizer.Pattern

open Cursor

/-- What an opening parenthesis starts. -/
inductive Opening where
  /-- Nothing: it is a list of flags, closed already. -/
  | flags (items : List FlagItem) (span : Span)
  /-- A group with flags of its own and perhaps a name. -/
  | group (items : List FlagItem) (name : Option (Text × Span))

/-! ## Names -/

/-- A character that the name of a group may start with, or go on with. -/
def isNameChar (isFirst : Bool) (c : Char) : Bool :=
  c == '_' || Text.isAlphabetic c ||
    (!isFirst && (c == '.' || c == '[' || c == ']' || Text.isNumeric c))

/-- The rest of the name of a group, up to the angle bracket behind it; `steps` bounds its
    length. -/
def nameRest (isFirst : Bool) : (steps : Nat) → Cursor → Reading Text
  | 0, c => fault .nameUnclosed c.place.span
  | steps + 1, c =>
    match c.head? with
    | none => fault .nameUnclosed c.place.span
    | some ch =>
      if ch = '>' then .ok ([], c)
      else if isNameChar isFirst ch then
        (nameRest false steps c.step).map fun (name, behind) => (ch :: name, behind)
      else fault .nameInvalid c.charSpan

/-- The name of a group, unless it is one of the names that groups have already. -/
def readName (names : List (Text × Span)) (c : Cursor) :
    Except Fault ((Text × Span) × Cursor) := do
  let (name, bracket) ← nameRest true (c.rest.length + 1) c
  let span := bracket.spanFrom c.place
  if name.isEmpty then fault .nameEmpty c.place.span
  else match names.find? fun n => n.1 = name with
    | some (_, first) => .error ⟨.nameRepeated, span, some first⟩
    | none => return ((name, span), bracket.step)

/-! ## Flags -/

/-- The letters of the flags. -/
def flagLetters : List Char := ['i', 'm', 's', 'U', 'u', 'R', 'x']

/-- What is wrong with one more item of a list of flags. -/
def flagFault (items : List FlagItem) (item : FlagItem) : Option Fault :=
  let first := (items.find? fun i => i.letter = item.letter).map FlagItem.span
  if item.letter = '-' then first.map fun s => ⟨.flagNegationRepeated, item.span, some s⟩
  else if !flagLetters.elem item.letter then some ⟨.flagUnknown, item.span, none⟩
  else first.map fun s => ⟨.flagRepeated, item.span, some s⟩

/-- The rest of a list of flags, up to the colon or the parenthesis behind it; `steps` bounds its
    length. -/
def readFlags : (steps : Nat) → (items : List FlagItem) → Cursor → Reading (List FlagItem)
  | 0, _, c => fault .flagAtEnd c.place.span
  | steps + 1, items, c =>
    match c.head? with
    | none => fault .flagAtEnd c.place.span
    | some ch =>
      if ch = ':' ∨ ch = ')' then
        match items.getLast? with
        | some ⟨span, '-'⟩ => fault .flagNegationDangling span
        | _ => .ok (items, c)
      else
        match flagFault items ⟨c.charSpan, ch⟩ with
        | some f => .error f
        | none => readFlags steps (items ++ [⟨c.charSpan, ch⟩]) c.step

/-! ## Parentheses -/

/-- What starts a condition on what stands before or behind a place. -/
def lookArounds : List Text := ["?=", "?!", "?<=", "?<!"]

/-- What starts the name of a group. -/
def nameStarts : List Text := ["?P<", "?<"]

/-- The cursor behind the first of the given words that stands here. -/
def behindWord (words : List Text) (c : Cursor) : Option Cursor :=
  (words.find? fun w => w.isPrefixOf c.rest).map fun w => c.drop w.length

/-- Flags, or a group with flags; the cursor stands behind the question mark, which itself stands
    at `mark`. -/
def readFlagged (paren : Span) (mark : Position) (c : Cursor) : Reading Opening :=
  if c.isAtEnd then fault .groupUnclosed paren
  else
    match readFlags (c.rest.length + 1) [] c with
    | .error f => .error f
    | .ok (items, c) =>
      if c.head? = some ':' then .ok (.group items none, c.step)
      else if items.isEmpty then fault .repetitionMissing mark.span
      else .ok (.flags items (c.step.spanFrom paren.start), c.step)

/-- What an opening parenthesis starts; the cursor stands at it. -/
def readOpening (names : List (Text × Span)) (c : Cursor) : Reading Opening :=
  let paren := c.charSpan
  let c := c.next
  match behindWord lookArounds c with
  | some behind => fault .lookAround (behind.spanFrom paren.start)
  | none =>
    match behindWord nameStarts c with
    | some behind =>
      (readName names behind).map fun (name, behind) => (.group [] (some name), behind)
    | none =>
      if c.head? = some '?' then readFlagged paren c.place c.step
      else .ok (.group [] none, c)

end RouteLocalizer.Pattern
