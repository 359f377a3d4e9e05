/-
  The tokens of a whole YAML text, in order.

  `putNext` finds what the next character starts: a mark, a scalar or the end.  A token is given
  away when it can turn out to be a key no longer.  `Tokens` has all that are given away and, where
  they do not go on to the end, what is wrong behind them.
-/
import RouteLocalizer.Yaml.Token.Block
import RouteLocalizer.Yaml.Token.Plain
import RouteLocalizer.Yaml.Token.Tag

namespace RouteLocalizer.Yaml

open Text

namespace Scan

/-! ## Brackets -/

/-- How many brackets may be open. -/
def mostDepth : Nat := 255

/-- Finds an opening bracket, behind which a key may stand and which may start one itself. -/
def putOpening (token : Token) : Scan Unit := do
  noteCandidate
  indentLoosely
  let c ← get
  if c.depth = mostDepth then failHere .tooDeep
  set { c with depth := c.depth + 1, candidates := .none :: c.candidates, allowsKey := true }
  skip
  modify fun c =>
    if token = .mappingStart then { c with opensMapping := true }
    else { c with pairs := false :: c.pairs }
  let _ ← skipGap true
  put c.place token

/-- Ends the pair without braces that is an item between the innermost square brackets. -/
def endPair : Scan Unit := do
  let c ← get
  if c.pairs.head? = some true then
    set { c with opensMapping := false, pairs := false :: c.pairs.tail }
    put c.place .mappingEnd

/-- Finds a closing bracket.  A colon right behind it needs no white space. -/
def putClosing (token : Token) : Scan Unit := do
  dropCandidate
  modify fun c =>
    if c.depth = 0 then c else { c with depth := c.depth - 1, candidates := c.candidates.tail }
  forbidKey
  if token = .sequenceEnd then
    endPair
    modify fun c => { c with pairs := c.pairs.tail }
  let start ← here
  skip
  let _ ← skipGap true
  if !(← isInBlock) then modify fun c => { c with adjacentAt := c.place.index }
  put start token

/-- Finds a comma between brackets. -/
def putEntry : Scan Unit := do
  dropCandidate
  allowKey
  endPair
  let start ← here
  skip
  let _ ← skipGap true
  put start .entry

/-! ## Items, keys and values -/

/-- The last token that is found. -/
def last? : Scan (Option Placed) := return (← get).found.getLast?

/-- Whether a token says something about the value behind it. -/
def isProperty : Token → Bool
  | .anchor _ => true
  | .tag _ _ => true
  | _ => false

/-- Finds the dash of an item. -/
def putBlockEntry : Scan Unit := do
  let c ← get
  if 0 < c.depth then failHere .dashInBrackets
  if !c.allowsKey then failHere .dash
  match ← last? with
  | some last =>
    if isProperty last.token && c.place.column = 0 && last.place.column = 0 && -1 < c.indent then
      fail last.place .anchorIndentation
  | none => pure ()
  skip
  startBlock c.place.column none .blockSequenceStart c.place
  let gap ← skipGap true
  if gap.hasTab && (← peek) == '-' && endsWord (← peekAt 1) then failHere .dashSpace
  let _ ← skipGap false
  let ch ← peek
  if isLineEnd ch || isListMark ch then indentLoosely
  dropCandidate
  allowKey
  put (← here) .blockEntry

/-- Allows a key to stand next in blocks, and forbids it between brackets. -/
def allowKeyInBlock : Scan Unit := do if ← isInBlock then allowKey else forbidKey

/-- Finds the question mark of a key. -/
def putKey : Scan Unit := do
  let c ← get
  if c.depth = 0 then
    if !c.allowsKey then failHere .key
    startBlock c.place.column none .blockMappingStart c.place
  else set { c with opensMapping := true }
  dropCandidate
  allowKeyInBlock
  skip
  skipSpaces
  if (← peek) = '\t' then failHere .tab
  put c.place .key

/-- Finds that a candidate is a key, by the colon behind it. -/
def putCandidate (k : Candidate) (isPair : Bool) (start : Place) : Scan Unit := do
  putBefore k.number k.place .key
  if isPair then
    if k.place.line < start.line then fail start .colonLine
    putBefore k.number (← here) .mappingStart
  startBlock k.place.column (some k.number) .blockMappingStart start
  indentLoosely
  setCandidate { (← candidate) with isPossible := false }
  forbidKey

/-- Finds a value whose key is not in front of it on its line, by its colon. -/
def putLoneValue (isPair : Bool) (start : Place) : Scan Unit := do
  if isPair then put (← here) .mappingStart
  if ← isInBlock then
    if !(← get).allowsKey then fail start .value
    startBlock start.column none .blockMappingStart start
  indentLoosely
  allowKeyInBlock

/-- Finds the colon of a value. -/
def putValue : Scan Unit := do
  let k ← candidate
  let c ← get
  let isPair := !c.pairs.isEmpty && !c.opensMapping
  if isPair then set { c with pairs := true :: c.pairs.tail }
  skip
  if (← peek) = '\t' then
    let gap ← skipGap true
    let ch ← peek
    if !gap.hasSpace && isNameChar ch then failHere .colonSpace
  if k.isPossible then putCandidate k isPair c.place else putLoneValue isPair c.place
  put c.place .value

/-- Finds the colon of a value between brackets, with no white space behind it. -/
def putAdjacentValue : Scan Unit := do
  let c ← get
  let d ← peekAt 1
  if c.place.index ≠ c.adjacentAt ∧ (d = '[' ∨ d = '\x7b') then failHere .colonBracket
  putValue

/-! ## Documents -/

/-- Finds the mark of a document. -/
def putDocumentMark (token : Token) : Scan Unit := do
  endBlocks (-1)
  dropCandidate
  forbidKey
  let start ← here
  skipMany 3
  put start token

/-- Finds the mark at the end of a document, which ends its line. -/
def putDocumentEnd : Scan Unit := do
  putDocumentMark .documentEnd
  let _ ← skipGap true
  if !endsLine (← peek) then failHere .behindDocument

/-- Finds the end of the text, which ends the last line. -/
def putStreamEnd : Scan Unit := do
  modify fun c =>
    if c.place.column = 0 then c
    else { c with place := { c.place with line := c.place.line + 1, column := 0 } }
  dropCandidates
  endBlocks (-1)
  dropCandidate
  forbidKey
  put (← here) .streamEnd

/-! ## Everything -/

/-- Finds what a character starts, with the character behind it. -/
def putMark (c d : Char) : Scan Unit := do
  let inBlock ← isInBlock
  let place ← here
  if c = '[' then putOpening .sequenceStart
  else if c = '\x7b' then putOpening .mappingStart
  else if c = ']' then putClosing .sequenceEnd
  else if c = '\x7d' then putClosing .mappingEnd
  else if c = ',' then putEntry
  else if c = '-' ∧ endsWord d then putBlockEntry
  else if c = '?' ∧ endsWord d then putKey
  else if c = ':' ∧ endsWord d then putValue
  else if c = ':' ∧ !inBlock ∧ (isListMark d ∨ place.index = (← get).adjacentAt) then
    putAdjacentValue
  else if c = '*' then putAnchor .alias
  else if c = '&' then putAnchor .anchor
  else if c = '!' then putTag
  else if c = '|' ∧ inBlock then putBlock false
  else if c = '>' ∧ inBlock then putBlock true
  else if c = '\'' then putQuoted true
  else if c = '"' then putQuoted false
  else if c = '%' ∨ c = '@' ∨ c = '\x60' then fail place (.unexpectedChar c)
  else putPlain

/-- Finds what stands next. -/
def putNext : Scan Unit := do
  skipToToken
  dropStale
  endBlocks (← here).column
  modify fun c => c.look 4
  let cursor ← get
  let c ← peek
  let isLineStart := cursor.place.column = 0
  if isEnd c then putStreamEnd
  else if isLineStart && c == '%' then putDirective
  else if isLineStart && startsMark "---" cursor.rest then putDocumentMark .documentStart
  else if isLineStart && startsMark "..." cursor.rest then putDocumentEnd
  else if (cursor.place.column : Int) < cursor.indent then failHere .indentation
  else putMark c (← peekAt 1)

/-- Finds tokens until the first one can be given away; `steps` bounds their number. -/
def findUpTo : (steps : Nat) → Scan Unit
  | 0 => return
  | steps + 1 => do
    if (← get).found.isEmpty then
      putNext
      findUpTo steps
    else
      dropStale
      if ← awaitsKey then
        putNext
        findUpTo steps

/-- Gives the next token away. -/
def giveNext : Scan Placed := do
  findUpTo (2 * (← bound))
  let c ← get
  match c.found with
  | [] => failHere .endOfTokens
  | t :: rest =>
    set { c with found := rest, given := c.given + 1 }
    return t

end Scan

/-- The tokens of a text, and what is wrong behind them when they do not reach its end. -/
structure Tokens where
  tokens : List Placed
  fault : Option Fault
deriving Repr

namespace Tokens

/-- The tokens that are given away from a cursor on; `steps` bounds their number. -/
def fromCursor : (steps : Nat) → Cursor → Tokens
  | 0, _ => ⟨[], none⟩
  | steps + 1, c =>
    match Scan.giveNext.run c with
    | .error f => ⟨[], some f⟩
    | .ok (t, c) =>
      if t.token = .streamEnd then ⟨[t], none⟩
      else
        let others := fromCursor steps c
        { others with tokens := t :: others.tokens }

/-- The tokens of a text.  A character zero ends it. -/
def ofText (text : Text) : Tokens :=
  let text := text.takeWhile fun c => !isEnd c
  fromCursor (8 * text.length + 8) { rest := text, given := 1 }

end Tokens

end RouteLocalizer.Yaml
