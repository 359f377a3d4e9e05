/-
  The VALUES that the tokens of YAML make.

  A value in blocks may be any, and one between brackets is a scalar or stands between brackets
  itself.  Where no value stands, it is nothing at all.  An alias is the value that its anchor
  names; an anchor names its value only when the value is complete.

  A mapping is filled by values that are keys and values in turn.  What is no value is no key
  either, and what comes next takes its place.  A key that a mapping has for the second time is a
  fault, but one that stands back behind every fault of the tokens.
-/
import RouteLocalizer.Yaml.Basic
import RouteLocalizer.Yaml.Token.Stream

namespace RouteLocalizer.Yaml

/-- How far the tokens are read. -/
structure Draft where
  tokens : List Placed
  /-- What is wrong behind the tokens. -/
  ending : Fault
  /-- The starts of tags that the handles of a document stand for. -/
  starts : List (Text × Text) := []
  /-- The numbers of the anchors of a document, the last one first. -/
  anchors : List (Text × Nat) := []
  /-- The values that anchors name, by the numbers of the anchors. -/
  named : List (Nat × Yaml) := []
  /-- How many anchors there are. -/
  anchorCount : Nat := 0
  /-- The first key that a mapping has for the second time. -/
  secondKey : Option Fault := none

/-- An action on a draft that may find a fault. -/
abbrev Build := StateT Draft (Except Fault)

namespace Build

/-- Finds a fault. -/
def fail {α : Type} (place : Place) (reason : Reason) : Build α := throw ⟨reason, place⟩

/-- The next token. -/
def peek : Build Placed := do
  let d ← get
  match d.tokens with
  | t :: _ => return t
  | [] => throw d.ending

/-- Goes on behind the next token. -/
def skip : Build Unit := modify fun d => { d with tokens := d.tokens.tail }

/-- A bound for the steps that the tokens can take. -/
def bound : Build Nat := return 4 * (← get).tokens.length + 16

/-! ## Mappings -/

/-- A mapping as far as it is filled. -/
structure Filling where
  entries : List (Yaml × Yaml) := []
  /-- The key whose value comes next; there is none if it is invalid. -/
  key : Yaml := .invalid

/-- Fills a value in that is complete at a place. -/
def fill (f : Filling) (v : Yaml) (place : Place) : Build Filling :=
  match f.key with
  | .invalid => return { f with key := v }
  | key => do
    if f.entries.any fun e => e.1.isSame key then
      let fault : Fault := ⟨.secondKey key.shown, place⟩
      modify fun d => { d with secondKey := d.secondKey.or (some fault) }
    return { entries := f.entries ++ [(key, v)] }

/-- Fills a value in that may be nothing at all. -/
def fillWith (f : Filling) (v : Yaml × Place) : Build Filling := fill f v.1 v.2

/-- The mapping that is filled. -/
def Filling.value (f : Filling) : Yaml := .mapping f.entries

/-! ## Tags and anchors -/

/-- What a handle stands for. -/
def startOf (handle : Text) (place : Place) : Build Text := do
  match (← get).starts.lookup handle with
  | some start => return start
  | none =>
    if handle = "!!" then return coreStart
    else if 2 ≤ handle.length && handle.getLast? == some '!' then fail place .unknownHandle
    else return handle

/-- What is said about a value in front of it. -/
structure Properties where
  /-- The number of the anchor, or zero. -/
  anchor : Nat := 0
  tag : Option Tag := none

/-- Gives an anchor a number. -/
def register (name : Text) : Build Nat := do
  modify fun d =>
    let number := d.anchorCount + 1
    { d with anchors := (name, number) :: d.anchors, anchorCount := number }
  return (← get).anchorCount

/-- Reads what is said about a value: an anchor and a tag in either order. -/
def properties : Build Properties := do
  let first ← peek
  match first.token with
  | .anchor name =>
    skip
    let anchor ← register name
    match (← peek).token with
    | .tag handle suffix =>
      skip
      return { anchor := anchor, tag := some ⟨← startOf handle first.place, suffix⟩ }
    | _ => return { anchor := anchor }
  | .tag handle suffix =>
    skip
    let tag : Tag := ⟨← startOf handle first.place, suffix⟩
    match (← peek).token with
    | .anchor name =>
      skip
      return { anchor := ← register name, tag := some tag }
    | _ => return { tag := some tag }
  | _ => return {}

/-- Completes a value, which its anchor names from here on. -/
def complete (p : Properties) (v : Yaml) (place : Place) : Build (Yaml × Place) := do
  if p.anchor ≠ 0 then modify fun d => { d with named := (p.anchor, v) :: d.named }
  return (v, place)

/-- The value of an alias. -/
def aliasValue (name : Text) (place : Place) : Build (Yaml × Place) := do
  let d ← get
  match d.anchors.lookup name with
  | none => fail place .unknownAnchor
  | some number => return ((d.named.lookup number).getD .invalid, place)

/-! ## Values -/

/-- Whether a token ends the place of a key or a value in blocks. -/
def endsInBlock : Token → Bool
  | .key => true
  | .value => true
  | .blockEnd => true
  | _ => false

/-- Whether a token ends the place of a value in braces. -/
def endsInBraces : Token → Bool
  | .entry => true
  | .mappingEnd => true
  | _ => false

/-- Whether a token ends the place of a value in square brackets. -/
def endsInSquares : Token → Bool
  | .entry => true
  | .sequenceEnd => true
  | _ => false

/-- Nothing at all, or else a value, according to the next token. -/
def nothingOr (ends : Token → Bool) (place : Option Place) (value : Build (Yaml × Place)) :
    Build (Yaml × Place) := do
  let t ← peek
  if ends t.token then return (.null, place.getD t.place) else value

mutual

/-- A value; in blocks it may be any, and where `isLoose` holds also a sequence that stands no
    deeper than its key. -/
def node : (steps : Nat) → (inBlock isLoose : Bool) → Build (Yaml × Place)
  | 0, _, _ => fail {} .endOfTokens
  | steps + 1, inBlock, isLoose => do
    let first ← peek
    match first.token with
    | .alias name =>
      skip
      aliasValue name first.place
    | _ => do
      let p ← properties
      let t ← peek
      match t.token with
      | .scalar isPlain text =>
        skip
        complete p (.ofScalar isPlain p.tag text) t.place
      | .sequenceStart =>
        skip
        let (items, place) ← squareItems steps true
        complete p (.list items) place
      | .mappingStart =>
        skip
        let (f, place) ← bracePairs steps true {}
        complete p f.value place
      | other =>
        if isLoose && other = .blockEntry then
          let (items, place) ← looseItems steps
          complete p (.list items) place
        else if inBlock && other = .blockSequenceStart then
          skip
          let (items, place) ← blockItems steps
          complete p (.list items) place
        else if inBlock && other = .blockMappingStart then
          skip
          let (f, place) ← blockPairs steps {}
          complete p f.value place
        else if p.tag.isSome || p.anchor ≠ 0 then complete p (.ofScalar true p.tag []) t.place
        else fail t.place .missingNode

/-- The items of a sequence in blocks. -/
def blockItems : (steps : Nat) → Build (List Yaml × Place)
  | 0 => fail {} .endOfTokens
  | steps + 1 => do
    let t ← peek
    match t.token with
    | .blockEnd =>
      skip
      return ([], t.place)
    | .blockEntry =>
      skip
      let ends (t : Token) : Bool := t = .blockEntry || t = .blockEnd
      let (v, _) ← nothingOr ends none (node steps true false)
      let (others, place) ← blockItems steps
      return (v :: others, place)
    | _ => fail t.place .missingDash

/-- The items of a sequence that stands no deeper than its key, and ends with no token. -/
def looseItems : (steps : Nat) → Build (List Yaml × Place)
  | 0 => fail {} .endOfTokens
  | steps + 1 => do
    let t ← peek
    if t.token ≠ .blockEntry then return ([], t.place)
    skip
    let ends (t : Token) : Bool := t = .blockEntry || endsInBlock t
    let (v, _) ← nothingOr ends none (node steps true false)
    let (others, place) ← looseItems steps
    return (v :: others, place)

/-- The keys and values of a mapping in blocks. -/
def blockPairs : (steps : Nat) → Filling → Build (Filling × Place)
  | 0, _ => fail {} .endOfTokens
  | steps + 1, f => do
    let t ← peek
    match t.token with
    | .blockEnd =>
      skip
      return (f, t.place)
    | .key =>
      skip
      let f ← fillWith f (← nothingOr endsInBlock none (node steps true true))
      let f ← fillWith f (← blockValue steps)
      blockPairs steps f
    | .value =>
      let f ← fill f .null t.place
      let f ← fillWith f (← blockValue steps)
      blockPairs steps f
    | _ => fail t.place .missingKey

/-- The value of a key in blocks. -/
def blockValue : (steps : Nat) → Build (Yaml × Place)
  | 0 => fail {} .endOfTokens
  | steps + 1 => do
    let t ← peek
    if t.token = .value then
      skip
      nothingOr endsInBlock (some t.place) (node steps true true)
    else return (.null, t.place)

/-- The keys and values of a mapping in braces. -/
def bracePairs : (steps : Nat) → (isFirst : Bool) → Filling → Build (Filling × Place)
  | 0, _, _ => fail {} .endOfTokens
  | steps + 1, isFirst, f => do
    let t ← peek
    if t.token = .mappingEnd then
      skip
      return (f, t.place)
    if !isFirst then
      if t.token = .entry then skip else fail t.place .missingBrace
    let u ← peek
    match u.token with
    | .mappingEnd =>
      skip
      return (f, t.place)
    | .key =>
      skip
      let ends (t : Token) : Bool := t = .value || endsInBraces t
      let f ← fillWith f (← nothingOr ends none (node steps false false))
      let f ← fillWith f (← braceValue steps)
      bracePairs steps false f
    | .value =>
      let f ← fill f .null u.place
      let f ← fillWith f (← braceValue steps)
      bracePairs steps false f
    | _ =>
      let f ← fillWith f (← node steps false false)
      let f ← fill f .null (← peek).place
      bracePairs steps false f

/-- The value of a key in braces. -/
def braceValue : (steps : Nat) → Build (Yaml × Place)
  | 0 => fail {} .endOfTokens
  | steps + 1 => do
    let t ← peek
    if t.token = .value then
      skip
      nothingOr endsInBraces (some t.place) (node steps false false)
    else return (.null, t.place)

/-- The items of a sequence in square brackets. -/
def squareItems : (steps : Nat) → (isFirst : Bool) → Build (List Yaml × Place)
  | 0, _ => fail {} .endOfTokens
  | steps + 1, isFirst => do
    let t ← peek
    if t.token = .sequenceEnd then
      skip
      return ([], t.place)
    if !isFirst then
      if t.token = .entry then skip else fail t.place .missingBracket
    let u ← peek
    match u.token with
    | .sequenceEnd =>
      skip
      return ([], u.place)
    | .key =>
      skip
      let v ← squarePair steps
      let (others, place) ← squareItems steps false
      return (v :: others, place)
    | _ =>
      let (v, _) ← node steps false false
      let (others, place) ← squareItems steps false
      return (v :: others, place)

/-- A mapping of one pair that is an item in square brackets.  Where its key is missing, the token
    in the place of the key goes with it. -/
def squarePair : (steps : Nat) → Build Yaml
  | 0 => fail {} .endOfTokens
  | steps + 1 => do
    let t ← peek
    let f ←
      if t.token = .value || endsInSquares t.token then
        skip
        fill {} .null t.place
      else fillWith {} (← node steps false false)
    let u ← peek
    let f ←
      if u.token = .value then
        skip
        fillWith f (← nothingOr endsInSquares none (node steps false false))
      else fill f .null u.place
    return f.value

end

/-! ## Documents -/

/-- Whether a token is a directive. -/
def isDirective : Token → Bool
  | .versionDirective => true
  | .tagDirective _ _ => true
  | _ => false

/-- Reads the directives of a document; `steps` bounds their number.  Of those about handles only
    the last directive counts. -/
def directives : (steps : Nat) → (hasVersion : Bool) → Build Unit
  | 0, _ => return
  | steps + 1, hasVersion => do
    let t ← peek
    match t.token with
    | .versionDirective =>
      if hasVersion then fail t.place .secondVersion
      modify fun d => { d with starts := [] }
      skip
      directives steps true
    | .tagDirective handle start =>
      modify fun d => { d with starts := [(handle, start)] }
      skip
      directives steps hasVersion
    | _ => return

/-- The value of a document that starts with its mark, behind the directives. -/
def markedDocument : Build Yaml := do
  directives (← bound) false
  let t ← peek
  if t.token ≠ .documentStart then fail t.place .documentStart
  skip
  let isOver (t : Token) : Bool :=
    isDirective t || t = .documentStart || t = .documentEnd || t = .streamEnd
  let (v, _) ← nothingOr isOver none (node (← bound) true false)
  return v

/-- The documents from here on; `steps` bounds their number.  A document needs a mark at its start,
    except for the first one and for one behind a mark at the end of another. -/
def documents : (steps : Nat) → (needsMark : Bool) → Build (List Yaml)
  | 0, _ => return []
  | steps + 1, needsMark => do
    let t ← peek
    if t.token = .documentEnd then
      skip
      documents steps needsMark
    else if t.token = .streamEnd then return []
    else
      modify fun d => { d with anchors := [] }
      let v ←
        if needsMark || isDirective t.token || t.token = .documentStart then markedDocument
        else do
          let (v, _) ← node (← bound) true false
          pure v
      modify fun d => { d with starts := [] }
      let u ← peek
      if isDirective u.token then fail u.place .documentEnd
      if u.token = .documentEnd then skip
      return v :: (← documents steps (u.token ≠ .documentEnd))

end Build

end RouteLocalizer.Yaml
