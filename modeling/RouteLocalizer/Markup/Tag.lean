/-
  The TAGS of a component's markup.

  An opening tag is the bracket, the name, and one character that ends the name: white space, a
  slash or the closing bracket.  Its attributes are not looked at, so `<link` opens a tag and
  `<linked` does not.  A closing tag may have white space in front of its bracket.

  `rename` gives all tags of one name another one.  The new name is part of a replacement pattern,
  in which the first part of a find is what ended the old name.
-/
import RouteLocalizer.Text.Shape
import RouteLocalizer.Text.Replacement

namespace RouteLocalizer.Markup

open Text

/-- What may end the name of an opening tag. -/
def endsTagName (c : Char) : Bool := isBlank c || c == '/' || c == '>'

/-- The start of an opening tag: bracket, name, and the character that ends the name. -/
def openingTag (tag : Text) : Shape :=
  Shape.literal ('<' :: tag) <| Shape.one endsTagName Shape.finish

/-- A closing tag. -/
def closingTag (tag : Text) : Shape :=
  Shape.literal ('<' :: '/' :: tag) <| Shape.run isBlank <| Shape.literal ['>'] Shape.finish

theorem openingTag_reads (tag : Text) : (openingTag tag).Reads :=
  .literal _ (.one _ .finish)

theorem closingTag_reads (tag : Text) : (closingTag tag).Reads :=
  .literal _ (.run _ (.literal _ .finish))

/-- Whether a text has an opening tag of the given name. -/
def hasOpeningTag (tag text : Text) : Bool := Shape.occursIn (openingTag tag) text

/-- The parts of a find that a pattern can refer to: the find, and what follows `start` in it. -/
def partsOf (found tail : Text) : Nat → Text
  | 0 => found
  | 1 => tail
  | _ => []

/-- Gives the opening tags of a name another name. -/
def renameOpening (fromTag toTag text : Text) : Text :=
  Shape.replaceEach (openingTag fromTag)
    (fun found => fillPattern (partsOf found (found.drop (fromTag.length + 1)))
      (('<' :: toTag) ++ ['$', '\x7b', '1', '\x7d'])) text

/-- Gives the closing tags of a name another name. -/
def renameClosing (fromTag toTag text : Text) : Text :=
  Shape.replaceEach (closingTag fromTag)
    (fun found => fillPattern (partsOf found (found.drop (fromTag.length + 2)).dropLast)
      (('<' :: '/' :: toTag) ++ ['$', '\x7b', '1', '\x7d', '>'])) text

/-- Gives all tags of a name another name, the opening ones first. -/
def rename (fromTag toTag text : Text) : Text :=
  renameClosing fromTag toTag (renameOpening fromTag toTag text)

/-- Splits a text that starts with a tag behind the bracket that closes the tag.  A bracket inside
    a quoted attribute value does not count. -/
def splitTag (quote : Option Char) : Text → Option (Text × Text)
  | [] => none
  | c :: cs =>
    let more := fun q => (splitTag q cs).map fun (tag, rest) => (c :: tag, rest)
    match quote with
    | some q => if c = q then more none else more (some q)
    | none =>
      if c = '"' ∨ c = '\'' then more (some c)
      else if c = '>' then some ([c], cs)
      else more none

theorem append_of_splitTag {quote : Option Char} {text tag rest : Text}
    (h : splitTag quote text = some (tag, rest)) : tag ++ rest = text := by
  induction text generalizing quote tag with
  | nil => cases h
  | cons c cs ih =>
    have more : ∀ {q}, (splitTag q cs).map (fun (p : Text × Text) => (c :: p.1, p.2))
        = some (tag, rest) → tag ++ rest = c :: cs := by
      intro q hq
      obtain ⟨⟨t, r⟩, ht, heq⟩ := Option.map_eq_some_iff.mp hq
      simp only [Prod.mk.injEq] at heq
      obtain ⟨rfl, rfl⟩ := heq
      rw [List.cons_append, ih ht]
    simp only [splitTag] at h
    split at h
    · split at h <;> exact more h
    · split at h
      · exact more h
      · split at h
        · simp only [Option.some.injEq, Prod.mk.injEq] at h
          obtain ⟨rfl, rfl⟩ := h
          rfl
        · exact more h

end RouteLocalizer.Markup
