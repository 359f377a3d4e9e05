/-
  INDENTATION and KEYS.

  A block starts where something of it stands deeper than the block around it, and it ends where
  something stands less deep.  The value of an entry has to stand one column deeper than its key;
  such an indentation belongs to no block of its own, and gives way to a block that starts there.

  A candidate for a key is dropped when its line is over or when it is too long.  One that has to be
  a key must not be dropped.
-/
import RouteLocalizer.Yaml.Token.Cursor

namespace RouteLocalizer.Yaml.Scan

/-! ## Indentation -/

/-- Puts back the indentation that the innermost one has taken the place of. -/
def restoreIndent (column : Int) : Scan Unit :=
  modify fun c => { c with indent := column, outer := c.outer.tail }

/-- Ends the blocks that stand deeper than a column; `steps` bounds their number. -/
def endBlocksUpTo (column : Int) : (steps : Nat) → Scan Unit
  | 0 => return
  | steps + 1 => do
    let c ← get
    match c.outer with
    | [] => return
    | o :: _ =>
      if column < c.indent then
        restoreIndent o.column
        if o.isBlock then put c.place .blockEnd
        endBlocksUpTo column steps

/-- Ends the blocks that stand deeper than a column. -/
def endBlocks (column : Int) : Scan Unit := do
  if ← isInBlock then endBlocksUpTo column (← get).outer.length

/-- Takes back the innermost indentation when it belongs to no block of its own. -/
def dropLooseIndent : Scan Unit := do
  match (← get).outer with
  | [] => return
  | o :: _ => if !o.isBlock then restoreIndent o.column

/-- Takes back the indentations that belong to no block of their own; `steps` bounds them. -/
def dropLooseIndentsUpTo : (steps : Nat) → Scan Unit
  | 0 => return
  | steps + 1 => do
    if (← get).outer.head?.any fun o => !o.isBlock then
      dropLooseIndent
      dropLooseIndentsUpTo steps

/-- Takes back the indentations that belong to no block of their own. -/
def dropLooseIndents : Scan Unit := do dropLooseIndentsUpTo (← get).outer.length

/-- Starts a block in a column, unless there is one; its token goes in front of the token with a
    number, or behind all others. -/
def startBlock (column : Nat) (number : Option Nat) (token : Token) (place : Place) :
    Scan Unit := do
  if ← isInBlock then
    if (← get).indent ≤ column then dropLooseIndent
    let c ← get
    if c.indent < column then
      set { c with outer := ⟨c.indent, true⟩ :: c.outer, indent := column }
      match number with
      | some n => putBefore n place token
      | none => put place token

/-- Asks for one column more than the innermost block has. -/
def indentLoosely : Scan Unit :=
  modify fun c =>
    if c.depth = 0 && c.outer.head?.any (·.isBlock) then
      { c with outer := ⟨c.indent, false⟩ :: c.outer, indent := c.indent + 1 }
    else c

/-! ## Keys -/

/-- The innermost candidate. -/
def candidate : Scan Candidate := return (← get).candidates.headD .none

/-- Puts another candidate in the place of the innermost one. -/
def setCandidate (k : Candidate) : Scan Unit :=
  modify fun c => { c with candidates := k :: c.candidates.tail }

def allowKey : Scan Unit := modify fun c => { c with allowsKey := true }

def forbidKey : Scan Unit := modify fun c => { c with allowsKey := false }

/-- The next token may turn out to be a key, if one is allowed here. -/
def noteCandidate : Scan Unit := do
  let c ← get
  if c.allowsKey then
    let isRequired := c.depth = 0 && c.indent == (c.place.column : Int) &&
      c.outer.head?.any (·.isBlock)
    setCandidate ⟨c.place, c.given + c.found.length, true, isRequired⟩

/-- Drops the innermost candidate. -/
def dropCandidate : Scan Unit := do
  let k ← candidate
  if k.isPossible && k.isRequired then failHere .missingKeyToken
  setCandidate { k with isPossible := false }

/-- How far behind its start a key may end. -/
def mostKeyLength : Nat := 1024

/-- Whether a candidate can be a key no longer, here in blocks. -/
def isStale (here : Place) (k : Candidate) : Bool :=
  k.isPossible && (k.place.line < here.line || k.place.index + mostKeyLength < here.index)

/-- Drops the candidates that can be keys no longer. -/
def dropStale : Scan Unit := do
  if ← isInBlock then
    let c ← get
    if c.candidates.any fun k => isStale c.place k && k.isRequired then
      failHere .keyWithoutColon
    let keep (k : Candidate) : Candidate :=
      if isStale c.place k then { k with isPossible := false } else k
    set { c with candidates := c.candidates.map keep }

/-- Drops all candidates, at the end of the text. -/
def dropCandidates : Scan Unit := do
  let c ← get
  if c.candidates.any fun k => k.isPossible && k.isRequired then failHere .missingKeyToken
  let drop (k : Candidate) : Candidate := { k with isPossible := false }
  set { c with candidates := c.candidates.map drop }

/-- Whether the first token that is not given away may turn out to be a key. -/
def awaitsKey : Scan Bool := do
  let c ← get
  return c.candidates.any fun k => k.isPossible && k.number = c.given

end RouteLocalizer.Yaml.Scan
