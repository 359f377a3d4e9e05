/-
  CLASSES of characters in brackets.

  Brackets hold characters, ranges, escapes, ASCII classes by their names and further brackets; two
  ampersands, dashes or tildes combine what stands before them with what follows.  A dash or a
  closing bracket at the start stands for itself, so no brackets are empty.
-/
import RouteLocalizer.Pattern.Escape

namespace RouteLocalizer.Pattern

open Cursor

/-- Items that stand side by side. -/
structure ItemList where
  /-- Where the first of them starts or would start. -/
  start : Position
  /-- The items, from last to first. -/
  items : List ClassItem := []

/-- The items as one. -/
def ItemList.toItem (l : ItemList) : ClassItem :=
  match l.items with
  | [] => .empty l.start.span
  | [item] => item
  | last :: items =>
    let first := (items.getLast?.getD last).span
    .union ⟨first.start, last.span.stop⟩ (last :: items).reverse

/-- Brackets that are not closed yet. -/
structure Brackets where
  /-- The stretch of the opening bracket and of what belongs to it. -/
  span : Span
  negated : Bool
  /-- What stands in front of the last operation. -/
  left : Option ClassItem := none
  items : ItemList

namespace Brackets

variable (b : Brackets)

/-- The brackets with one more item. -/
def push (item : ClassItem) : Brackets :=
  { b with items := { b.items with items := item :: b.items.items } }

/-- What the brackets hold so far. -/
def value : ClassItem :=
  let right := b.items.toItem
  match b.left with
  | none => right
  | some left => .operation ⟨left.span.start, right.span.stop⟩ left right

/-- The brackets with an operation behind what they hold so far; more items start at a place. -/
def combine (place : Position) : Brackets :=
  { b with left := some b.value, items := ⟨place, []⟩ }

/-- The fault of brackets that are never closed. -/
def unclosed {α : Type} : Except Fault α := fault .classUnclosed b.span

end Brackets

/-- Dashes at the start of brackets; `steps` bounds their number. -/
def readDashes : (steps : Nat) → Cursor → List ClassItem × Cursor
  | 0, c => ([], c)
  | steps + 1, c =>
    if c.head? = some '-' then
      let (items, behind) := readDashes steps c.next
      (items ++ [.literal ⟨c.charSpan, '-', false⟩], behind)
    else ([], c)

/-- Opens brackets; the cursor stands at the opening one. -/
def openBrackets (c : Cursor) : Reading Brackets :=
  let start := c.place
  let inside := c.next
  let negated := inside.head? == some '^'
  let body := if negated then inside.next else inside
  if body.isAtEnd then fault .classUnclosed (body.spanFrom start)
  else
    let (dashes, behind) := readDashes body.rest.length body
    if behind.isAtEnd then fault .classUnclosed start.span
    else if dashes.isEmpty ∧ behind.head? = some ']' then
      let rest := behind.next
      if rest.isAtEnd then fault .classUnclosed (rest.spanFrom start)
      else
        let item := ClassItem.literal ⟨behind.charSpan, ']', false⟩
        .ok (⟨rest.spanFrom start, negated, none, ⟨body.place, [item]⟩⟩, rest)
    else
      .ok ({ span := behind.spanFrom start, negated := negated, items := ⟨body.place, dashes⟩ },
        behind)

/-- The names of the ASCII classes. -/
def classNames : List Text :=
  ["alnum", "alpha", "ascii", "blank", "cntrl", "digit", "graph", "lower", "print", "punct",
    "space", "upper", "word", "xdigit"]

/-- An ASCII class by its name, in brackets of its own and between two colons. -/
def namedClass? (c : Cursor) : Option (ClassItem × Cursor) :=
  match c.rest with
  | '[' :: ':' :: rest =>
    let negated := rest.head? == some '^'
    let body := if negated then rest.drop 1 else rest
    let name := body.takeWhile (· != ':')
    match body.drop name.length with
    | ':' :: ']' :: _ =>
      let behind := c.drop (name.length + if negated then 5 else 4)
      if classNames.elem name then some (.named (behind.spanFrom c.place) negated, behind) else none
    | _ => none
  | _ => none

/-- A character or an escape of a class. -/
def readClassChar (c : Cursor) : Reading Pattern :=
  match c.head? with
  | some '\\' => readEscape c
  | some ch => .ok (.literal ⟨c.charSpan, ch, false⟩, c.step)
  | none => fault .classUnclosed c.place.span

/-- What a character or an escape is as an item of a class. -/
def toClassItem : Pattern → Except Fault ClassItem
  | .literal l => .ok (.literal l)
  | .shorthand span negated => .ok (.shorthand span negated)
  | .property span letter => .ok (.property span letter)
  | p => fault .classEscapeInvalid p.span

/-- What a character or an escape is as an end of a range. -/
def toRangeEnd : Pattern → Except Fault Literal
  | .literal l => .ok l
  | p => fault .classRangeLiteral p.span

/-- The range between two characters. -/
def readRange (first last : Pattern) : Except Fault ClassItem := do
  let first ← toRangeEnd first
  let last ← toRangeEnd last
  if first.char ≤ last.char then return .range first last
  else fault .classRangeInvalid ⟨first.span.start, last.span.stop⟩

/-- An item of brackets that is no brackets itself: a character, an escape or a range. -/
def readItem (b : Brackets) (c : Cursor) : Except Fault (ClassItem × Cursor) := do
  let (first, behind) ← readClassChar c
  let dash := behind.skip
  if dash.isAtEnd then b.unclosed
  else if dash.head? ≠ some '-' ∨ dash.second? = some ']' ∨ dash.second? = some '-' then
    return (← toClassItem first, dash)
  else if dash.next.isAtEnd then b.unclosed
  else
    let (last, behind) ← readClassChar dash.next
    return (← readRange first last, behind)

/-- Whether an operation of classes starts here. -/
def startsOperation (c : Cursor) : Bool :=
  match c.rest with
  | '&' :: '&' :: _ => true
  | '-' :: '-' :: _ => true
  | '~' :: '~' :: _ => true
  | _ => false

/-- The rest of brackets that stand in others, from the inner to the outer ones; `steps` bounds the
    number of items. -/
def readInside : (steps : Nat) → (inner : Brackets) → (outer : List Brackets) → Cursor →
    Reading Pattern
  | 0, inner, _, _ => inner.unclosed
  | steps + 1, inner, outer, c =>
    let c := c.skip
    match c.head? with
    | none => inner.unclosed
    | some '[' =>
      match namedClass? c with
      | some (item, behind) => readInside steps (inner.push item) outer behind
      | none =>
        match openBrackets c with
        | .error f => .error f
        | .ok (more, behind) => readInside steps more (inner :: outer) behind
    | some ']' =>
      let behind := c.step
      let span := behind.spanFrom inner.span.start
      match outer with
      | [] => .ok (.bracketed span inner.negated inner.value, behind)
      | b :: outer =>
        readInside steps (b.push (.bracketed span inner.negated inner.value)) outer behind
    | some _ =>
      if startsOperation c then
        let behind := c.drop 2
        readInside steps (inner.combine behind.place) outer behind
      else
        match readItem inner c with
        | .error f => .error f
        | .ok (item, behind) => readInside steps (inner.push item) outer behind

/-- A class in brackets; the cursor stands at the opening one. -/
def readClass (c : Cursor) : Reading Pattern :=
  match openBrackets c with
  | .error f => .error f
  | .ok (b, behind) => readInside (c.rest.length + 1) b [] behind

end RouteLocalizer.Pattern
