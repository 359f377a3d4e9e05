/-
  Which import declaration BINDS A SYMBOL, and which part of it does.

  An import declaration on one line has a CLAUSE: what stands between the keyword and the first
  word `from`, as long as no quote and no line end comes in between.  A symbol is bound by the
  clause in one of two ways.  Either the whole line imports the symbol and nothing else
  (`ImportSite.standalone`), or the symbol is one of several bindings (`ImportSite.grouped`), and
  then the site holds the symbol together with one comma beside it, so that cutting the site out
  leaves a well-formed list.

  Names that the clause renames, namespace imports and other shapes are no binding of the symbol
  and are left alone.
-/
import RouteLocalizer.Text.Identifier
import RouteLocalizer.Import.Line

namespace RouteLocalizer.Import

open Text

/-- Where a text imports a symbol. -/
inductive ImportSite where
  /-- The line imports exactly the symbol. -/
  | standalone (line : Passage)
  /-- The symbol is one of several bindings of the line: `binding` is a passage of the line's
      body, the symbol and one separator. -/
  | grouped (line binding : Passage)
deriving DecidableEq, Repr

/-- A line that imports `symbol` alone, in braces or not. -/
def standaloneLine (symbol : Text) : Shape :=
  Shape.lineStart <| Shape.run isIndent <| Shape.literal keyword <|
    Shape.runOne (fun c => isIndent c || c == '\x7b') <| Shape.literal symbol <|
    Shape.runOne (fun c => isIndent c || c == '\x7d') <| Shape.literal fromWord <|
    Shape.boundary Shape.lineRest

/-- The leftmost line that imports `symbol` alone. -/
def findStandalone (symbol text : Text) : Option ImportSite :=
  (Shape.firstOf (standaloneLine symbol) text).map .standalone

/-! ## Clauses -/

/-- The word `from`, as a word of its own. -/
def fromShape : Shape :=
  Shape.boundary <| Shape.literal fromWord <| Shape.boundary Shape.finish

/-- Splits the text behind the keyword into the clause and what starts with the word `from`. -/
def splitClause (last : Option Char) : Text → Option (Text × Text)
  | [] => none
  | c :: cs =>
    if (fromShape last (c :: cs)).isSome then some ([], c :: cs)
    else if c == '\'' || c == '"' || isLineEnd c then none
    else (splitClause (some c) cs).map fun (clause, rest) => (c :: clause, rest)

/-- The clause of an import line, as a passage of the line. -/
def clauseOf (line : Text) : Option Passage :=
  let indent := line.takeWhile isIndent
  match afterWord keyword (line.dropWhile isIndent) with
  | some rest =>
    if isBoundary (some 't') rest then
      (splitClause (some 't') rest).map fun (clause, rest) => ⟨indent ++ keyword, clause, rest⟩
    else none
  | none => none

/-! ## The binding in the clause -/

/-- What one site of the symbol in a clause turns out to be. -/
inductive SiteKind where
  /-- A binding of the symbol; the passage takes in one comma beside it. -/
  | binding (site : Passage)
  /-- A name that the clause renames, or renames something to. -/
  | renamed
  /-- Anything else: a type modifier, a name outside a list. -/
  | other

/-- Tells what the symbol at a site of the clause is, by what stands around it. -/
def siteKind (site : Passage) : SiteKind :=
  let before := trimEnd site.before
  let gapBefore := site.before.drop before.length
  let after := trimStart site.after
  let gapAfter := upTo site.after after
  if endsWith [' ', 'a', 's'] before || List.isPrefixOf ['a', 's', ' '] after then .renamed
  else match after with
    | ',' :: rest =>
      .binding ⟨site.before, site.body ++ gapAfter ++ [','] ++ rest.takeWhile isIndent,
        rest.dropWhile isIndent⟩
    | _ =>
      if endsWith [','] before then
        .binding ⟨before.dropLast, [','] ++ gapBefore ++ site.body, site.after⟩
      else if endsWith ['\x7b'] before && after.head? == some '\x7d' then .binding site
      else .other

/-- The first site that is no renaming decides. -/
def firstBinding : List Passage → Option Passage
  | [] => none
  | site :: later =>
    match siteKind site with
    | .binding p => some p
    | .renamed => firstBinding later
    | .other => none

/-- The binding of `symbol` in a clause.  A clause with a star binds a namespace and nothing that
    could be cut out. -/
def bindingInClause (symbol clause : Text) : Option Passage :=
  if clause.elem '*' then none else firstBinding (identifierSites symbol clause)

/-- The binding of `symbol` on an import line, as a passage of the line. -/
def bindingOnLine (symbol line : Text) : Option Passage :=
  match clauseOf line with
  | some clause => (bindingInClause symbol clause.body).map clause.inBody
  | none => none

/-- A line whose clause binds `symbol` among others. -/
def groupedLine (symbol : Text) : Shape :=
  Shape.lineStart fun _ text =>
    if (bindingOnLine symbol (text.takeWhile (!isLineEnd ·))).isSome then
      some (text.dropWhile (!isLineEnd ·))
    else none

/-- The leftmost line whose clause binds `symbol` among others. -/
def findGrouped (symbol text : Text) : Option ImportSite :=
  match Shape.firstOf (groupedLine symbol) text with
  | some line => (bindingOnLine symbol line.body).map (.grouped line)
  | none => none

/-- Where a text imports `symbol`: a line of its own wins over a list of bindings. -/
def find (symbol text : Text) : Option ImportSite :=
  (findStandalone symbol text).or (findGrouped symbol text)

end RouteLocalizer.Import
