/-
  Which patterns can be USED in a log filter.

  A pattern that can be read may still nest too deep, or ask for what it has switched off: without
  the flag `u` it speaks of bytes, where there are no Unicode properties, no classes of characters
  outside ASCII, and nothing that matches a byte of a longer character.  Of several faults the first
  one in the order of the text counts.

  A pattern without faults can be used unless it asks for Unicode words.
-/
import RouteLocalizer.Pattern.Reader

namespace RouteLocalizer.Pattern

open Cursor

/-- Goes one level down, if there is one left. -/
def oneDown (levels : Nat) (span : Span) : Except Fault Nat :=
  match levels with
  | 0 => fault .tooDeep span
  | levels + 1 => .ok levels

mutual

/-- Whether what stands in brackets nests at most `levels` deep. -/
def ClassItem.checkDepth (levels : Nat) : ClassItem → Except Fault Unit
  | .bracketed span _ inner => do inner.checkDepth (← oneDown levels span)
  | .union span items => do checkItemsDepth (← oneDown levels span) items
  | .operation span left right => do
    let levels ← oneDown levels span
    left.checkDepth levels
    right.checkDepth levels
  | _ => .ok ()

/-- Whether all items nest at most `levels` deep. -/
def checkItemsDepth (levels : Nat) : List ClassItem → Except Fault Unit
  | [] => .ok ()
  | item :: rest => do
    item.checkDepth levels
    checkItemsDepth levels rest

end

mutual

/-- Whether a pattern nests at most `levels` deep. -/
def checkDepth (levels : Nat) : Pattern → Except Fault Unit
  | .bracketed span _ inner => do inner.checkDepth (← oneDown levels span)
  | .repetition span inner => do checkDepth (← oneDown levels span) inner
  | .group span _ inner => do checkDepth (← oneDown levels span) inner
  | .alternation span branches => do checkPartsDepth (← oneDown levels span) branches
  | .concatenation span parts => do checkPartsDepth (← oneDown levels span) parts
  | _ => .ok ()

/-- Whether all parts nest at most `levels` deep. -/
def checkPartsDepth (levels : Nat) : List Pattern → Except Fault Unit
  | [] => .ok ()
  | part :: rest => do
    checkDepth levels part
    checkPartsDepth levels rest

end

/-! ## Bytes and characters -/

/-- Whether a condition holds, and the fault if not. -/
def require (holds : Bool) (cause : Cause) (span : Span) : Except Fault Unit :=
  if holds then .ok () else fault cause span

/-- The letters of the Unicode properties that have one letter. -/
def propertyLetters : List Char := ['c', 'l', 'm', 'n', 'p', 's', 'z']

/-- Whether a Unicode property may stand where it stands, and is one. -/
def checkProperty (unicode : Bool) (span : Span) (letter : Char) : Except Fault Unit := do
  require unicode .unicodeNotAllowed span
  require (propertyLetters.elem letter.toLower) .propertyUnknown span

/-- Whether a character may stand where it stands. -/
def checkLiteral (unicode : Bool) (l : Literal) : Except Fault Unit :=
  require (unicode || !l.isByte || l.char.toNat < 0x80) .notText l.span

/-- Whether a character may stand in a class. -/
def checkClassChar (unicode : Bool) (l : Literal) : Except Fault Unit := do
  checkLiteral unicode l
  require (unicode || l.char.toNat < 0x80) .unicodeNotAllowed l.span

mutual

/-- Whether what stands in brackets may stand there. -/
def ClassItem.checkMode (unicode : Bool) : ClassItem → Except Fault Unit
  | .empty _ => .ok ()
  | .literal l => checkClassChar unicode l
  | .range first last => do
    checkClassChar unicode first
    checkClassChar unicode last
  | .named span negated => require (unicode || !negated) .notText span
  | .shorthand span negated => require (unicode || !negated) .notText span
  | .property span letter => checkProperty unicode span letter
  | .bracketed span negated inner => do
    inner.checkMode unicode
    require (unicode || !negated) .notText span
  | .union _ items => checkItemsMode unicode items
  | .operation _ left right => do
    left.checkMode unicode
    right.checkMode unicode

/-- Whether all items may stand where they stand. -/
def checkItemsMode (unicode : Bool) : List ClassItem → Except Fault Unit
  | [] => .ok ()
  | item :: rest => do
    item.checkMode unicode
    checkItemsMode unicode rest

end

/-- What holds at a place of a pattern. -/
structure Mode where
  /-- Whether the pattern speaks of characters, and not of bytes. -/
  unicode : Bool := true
  /-- Whether Unicode words were asked for in front of the place. -/
  asksWords : Bool := false

/-- The mode behind flags. -/
def Mode.withFlags (m : Mode) (items : List FlagItem) : Mode :=
  { m with unicode := (flagState 'u' items).getD m.unicode }

mutual

/-- Whether a pattern may stand where it stands, and what holds behind it. -/
def checkMode (m : Mode) : Pattern → Except Fault Mode
  | .empty _ => .ok m
  | .flags _ items => .ok (m.withFlags items)
  | .literal l => (checkLiteral m.unicode l).map fun _ => m
  | .dot span => (require m.unicode .notText span).map fun _ => m
  | .assertion _ isOnWords =>
    .ok { m with asksWords := m.asksWords || (isOnWords && m.unicode) }
  | .shorthand span negated => (require (m.unicode || !negated) .notText span).map fun _ => m
  | .property span letter => (checkProperty m.unicode span letter).map fun _ => m
  | .bracketed span negated inner => do
    inner.checkMode m.unicode
    require (m.unicode || !negated) .notText span
    return m
  | .repetition _ inner => checkMode m inner
  | .group _ items inner =>
    (checkMode (m.withFlags items) inner).map fun inside => { inside with unicode := m.unicode }
  | .alternation _ branches => checkPartsMode m branches
  | .concatenation _ parts => checkPartsMode m parts

/-- Whether parts may stand where they stand, and what holds behind them. -/
def checkPartsMode (m : Mode) : List Pattern → Except Fault Mode
  | [] => .ok m
  | part :: rest =>
    match checkMode m part with
    | .error f => .error f
    | .ok m => checkPartsMode m rest

end

/-! ## The whole check -/

/-- Why a pattern cannot be used. -/
inductive Flaw where
  | faulty (fault : Fault)
  /-- It asks for Unicode words. -/
  | asksWords
deriving DecidableEq, Repr

/-- Whether the pattern that a text spells can be used. -/
def check (text : Text) : Except Flaw Unit :=
  let mode : Except Fault Mode := do
    let pattern ← read text
    checkDepth mostLevels pattern
    checkMode {} pattern
  match mode with
  | .error f => .error (.faulty f)
  | .ok m => if m.asksWords then .error .asksWords else .ok ()

end RouteLocalizer.Pattern
