/-
  PLAIN scalars of YAML, which have no marks around them.

  A plain scalar ends at a comment and at a colon with white space behind it; between brackets it
  also ends at the marks of the list around it, and in blocks at a line that is not indented deep
  enough.  The ends of its lines are folded as in quotes.
-/
import RouteLocalizer.Yaml.Token.Quoted

namespace RouteLocalizer.Yaml.Scan

open Text

/-- Whether the next character can belong to a plain scalar. -/
def canBePlain : Scan Bool := do
  let c ← peek
  let d ← peekAt 1
  if ← isInBlock then return !(c == ':' && endsWord d)
  else return !(isListMark c || (c == ':' && (endsWord d || isListMark d)))

/-- A word of a plain scalar; `steps` bounds its characters. -/
def plainWord : (steps : Nat) → Scan Text
  | 0 => return []
  | steps + 1 => do
    let c ← peek
    if endsWord c || !(← canBePlain) then return []
    else
      skip
      return c :: (← plainWord steps)

/-- Skips white space behind a word of a plain scalar; `steps` bounds the characters.  A tab may
    stand in the indentation only on a line on which nothing else stands. -/
def plainFold (start : Place) (indent : Int) : (steps : Nat) → Fold → Scan Fold
  | 0, f => return f
  | steps + 1, f => do
    let c ← peek
    let cursor ← get
    if isIndent c then
      if !cursor.isIndenting then
        skipBlank
        plainFold start indent steps { f with blank := f.blank ++ [c] }
      else if c = '\t' ∧ (cursor.place.column : Int) < indent then
        let _ ← skipGap true
        if !endsLine (← peek) then fail start .plainTab
        plainFold start indent steps f
      else
        skipBlank
        plainFold start indent steps f
    else if isLineEnd c then
      skipLineEnd
      if cursor.isIndenting then plainFold start indent steps { f with more := f.more + 1 }
      else plainFold start indent steps { f with blank := [], isBroken := true }
    else return f

/-- What stands between two words of a plain scalar. -/
def between (f : Fold) (isBehindEnd : Bool) : Text := if isBehindEnd then f.broken else f.blank

/-- The text of a plain scalar behind white space, which is kept where a word follows; `steps`
    bounds the words. -/
def plainRest (start : Place) (indent : Int) : (steps : Nat) → Fold → Scan Text
  | 0, _ => return []
  | steps + 1, f => do
    let c ← peek
    if (← isAtDocumentMark) || c == '#' then return []
    if !(← isInBlock) && c == '-' && isListMark (← peekAt 1) then failHere .plainDash
    let gap := between f (← get).isIndenting
    let word ← plainWord (← bound)
    let text := if word.isEmpty then [] else gap ++ word
    let d ← peek
    if !(isIndent d || isLineEnd d) then return text
    let f ← plainFold start indent (← bound) {}
    if (← isInBlock) && ((← here).column : Int) < indent then return text
    return text ++ (← plainRest start indent steps f)

/-- Finds a plain scalar. -/
def putPlain : Scan Unit := do
  noteCandidate
  forbidKey
  dropLooseIndents
  let indent := (← get).indent + 1
  let start ← here
  if !(← isInBlock) && (start.column : Int) < indent then fail start .bracketIndentation
  let text ← plainRest start indent (← bound) {}
  if (← get).isIndenting then allowKey
  if text.isEmpty then fail start .plainEnd
  put start (.scalar true text)

end RouteLocalizer.Yaml.Scan
