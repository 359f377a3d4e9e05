/-
  Where a NAME stands in a text as an identifier of its own.

  The occurrences of the name are counted off from the left without overlap, and one of them is a
  SITE of the name when neither of its two neighbours is an identifier character.  So `Router` has
  no site in `VueRouter`, and one in `(Router)`.
-/
import RouteLocalizer.Text.CharClass

namespace RouteLocalizer.Text

/-- Whether an occurrence between these two neighbours is an identifier of its own. -/
def isBounded (last next : Option Char) : Bool :=
  !last.any isIdentifierChar && !next.any isIdentifierChar

/-- The sites of `name` in a text that `passed`, read backwards, stands in front of.  `skip`
    counts the characters that still belong to the occurrence before. -/
def identifierSitesFrom (name : Text) (skip : Nat) (passed : Text) : Text → List Passage
  | [] =>
    if skip = 0 ∧ name = [] ∧ isBounded passed.head? none then [⟨passed.reverse, [], []⟩] else []
  | c :: cs =>
    match skip with
    | k + 1 => identifierSitesFrom name k (c :: passed) cs
    | 0 =>
      match afterWord name (c :: cs) with
      | some rest =>
        let later := identifierSitesFrom name (name.length - 1) (c :: passed) cs
        if isBounded passed.head? rest.head? then ⟨passed.reverse, name, rest⟩ :: later
        else later
      | none => identifierSitesFrom name 0 (c :: passed) cs

/-- The sites of `name` in a text, from left to right. -/
def identifierSites (name text : Text) : List Passage := identifierSitesFrom name 0 [] text

/-- Whether `name` stands in a text as an identifier of its own. -/
def hasIdentifier (name text : Text) : Bool := !(identifierSites name text).isEmpty

end RouteLocalizer.Text
