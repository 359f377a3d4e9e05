/-
  SHAPES: what a search looks for.

  A shape is asked at one place of a text.  It sees the character in front of that place and the
  text from there on, and answers what remains of the text behind the shape, or nothing.  Shapes
  are written front to back, each step taking the shape of what follows it, so that

      boundary <| literal "new" <| runOne isBlank <| literal symbol <| boundary <| finish

  reads as it stands: a word boundary, the word, white space, the symbol, a word boundary.

  A run of a class is GREEDY AND GIVES BACK: it takes as many characters as it can, and when what
  follows does not fit there, one character less, and so on.  Where the class and what follows
  exclude each other nothing is ever given back, and a run is `List.dropWhile`.

  `firstOf` looks for the leftmost place of a shape, `lastOf` for the rightmost, and `replaceEach`
  replaces the finds from left to right, each search going on behind the find before.
-/
import RouteLocalizer.Text.CharClass

namespace RouteLocalizer

/-- What remains behind a shape, given the character in front and the text from there on. -/
abbrev Shape := Option Char → Text → Option Text

namespace Shape

open Text

/-! ## Steps -/

/-- The empty shape, which ends every longer one. -/
def finish : Shape := fun _ text => some text

/-- The given characters, one by one. -/
def literal (word : Text) (next : Shape) : Shape := fun last text =>
  match afterWord word text with
  | some rest => next (word.getLast?.or last) rest
  | none => none

/-- One character of a class. -/
def one (p : Char → Bool) (next : Shape) : Shape
  | _, [] => none
  | _, c :: rest => if p c then next (some c) rest else none

/-- As many characters of a class as leave a text that fits what follows. -/
def run (p : Char → Bool) (next : Shape) : Shape
  | last, [] => next last []
  | last, c :: rest =>
    if p c then (run p next (some c) rest).or (next last (c :: rest))
    else next last (c :: rest)

/-- At least one character of a class, and otherwise like `run`. -/
def runOne (p : Char → Bool) (next : Shape) : Shape := one p (run p next)

/-- The given character, if it is there. -/
def optional (c : Char) (next : Shape) : Shape := fun last text =>
  (literal [c] next last text).or (next last text)

/-- A word boundary; takes nothing. -/
def boundary (next : Shape) : Shape := fun last text =>
  if isBoundary last text then next last text else none

/-- The start of a line; takes nothing. -/
def lineStart (next : Shape) : Shape := fun last text =>
  if isLineStart last text then next last text else none

/-- The start of the text; takes nothing. -/
def textStart (next : Shape) : Shape := fun last text =>
  match last with
  | none => next none text
  | some _ => none

/-- All the rest of the line. -/
def lineRest : Shape := fun _ text => some (text.dropWhile (!isLineEnd ·))

/-! ## Searches -/

/-- The leftmost place of a shape in a text that `last` stands in front of. -/
def firstFrom (shape : Shape) (last : Option Char) : Text → Option Passage
  | [] => (shape last []).map fun rest => ⟨[], [], rest⟩
  | c :: cs =>
    match shape last (c :: cs) with
    | some rest => some ⟨[], upTo (c :: cs) rest, rest⟩
    | none => (firstFrom shape (some c) cs).map (·.behind [c])

/-- The leftmost place of a shape. -/
def firstOf (shape : Shape) (text : Text) : Option Passage := firstFrom shape none text

/-- The rightmost place of a shape in a text that `last` stands in front of. -/
def lastFrom (shape : Shape) (last : Option Char) : Text → Option Passage
  | [] => (shape last []).map fun rest => ⟨[], [], rest⟩
  | c :: cs =>
    match lastFrom shape (some c) cs with
    | some p => some (p.behind [c])
    | none => (shape last (c :: cs)).map fun rest => ⟨[], upTo (c :: cs) rest, rest⟩

/-- The rightmost place of a shape. -/
def lastOf (shape : Shape) (text : Text) : Option Passage := lastFrom shape none text

/-- Whether a text has the shape somewhere. -/
def occursIn (shape : Shape) (text : Text) : Bool := (firstOf shape text).isSome

/-- Replaces every find from left to right.  `skip` counts the characters that still belong to
    the find before. -/
def replaceEachFrom (shape : Shape) (write : Text → Text) (skip : Nat) (last : Option Char) :
    Text → Text
  | [] => []
  | c :: cs =>
    match skip with
    | k + 1 => replaceEachFrom shape write k (some c) cs
    | 0 =>
      match shape last (c :: cs) with
      | some rest =>
        let found := upTo (c :: cs) rest
        write found ++ replaceEachFrom shape write (found.length - 1) (some c) cs
      | none => c :: replaceEachFrom shape write 0 (some c) cs

/-- Replaces every find of a shape that takes at least one character. -/
def replaceEach (shape : Shape) (write : Text → Text) (text : Text) : Text :=
  replaceEachFrom shape write 0 none text

end Shape

/-! ## A find is a part of its text

  A shape READS when what it leaves is a tail of what it was given.  Every step keeps this, so the
  passage that a search answers, put back together, is the text that was searched. -/

/-- What the shape leaves is a tail of the text it was given. -/
def Shape.Reads (shape : Shape) : Prop :=
  ∀ ⦃last text rest⦄, shape last text = some rest → rest <:+ text

namespace Shape.Reads

open Shape

variable {next : Shape}

theorem finish : Reads finish := by
  rintro last text rest h
  simp only [Shape.finish, Option.some.injEq] at h
  exact h ▸ List.suffix_refl text

theorem literal (word : Text) (h : Reads next) : Reads (literal word next) := by
  intro last text rest eq
  unfold Shape.literal at eq
  split at eq
  · rename_i tail hword
    obtain rfl := Text.afterWord_eq_some_iff.mp hword
    exact (h eq).trans (List.suffix_append _ _)
  · cases eq

theorem one (p : Char → Bool) (h : Reads next) : Reads (one p next) := by
  intro last text rest eq
  cases text with
  | nil => cases eq
  | cons c cs =>
    simp only [Shape.one] at eq
    split at eq
    · exact (h eq).trans (List.suffix_cons c cs)
    · cases eq

theorem run (p : Char → Bool) (h : Reads next) : Reads (run p next) := by
  intro last text
  induction text generalizing last with
  | nil => intro rest eq; exact h eq
  | cons c cs ih =>
    intro rest eq
    simp only [Shape.run] at eq
    split at eq
    · rcases Option.or_eq_some_iff.mp eq with eq | ⟨_, eq⟩
      · exact (ih eq).trans (List.suffix_cons c cs)
      · exact h eq
    · exact h eq

theorem runOne (p : Char → Bool) (h : Reads next) : Reads (runOne p next) := one p (run p h)

theorem optional (c : Char) (h : Reads next) : Reads (optional c next) := by
  intro last text rest eq
  rcases Option.or_eq_some_iff.mp eq with eq | ⟨_, eq⟩
  · exact literal _ h eq
  · exact h eq

theorem boundary (h : Reads next) : Reads (boundary next) := by
  intro last text rest eq
  unfold Shape.boundary at eq
  split at eq
  · exact h eq
  · cases eq

theorem lineStart (h : Reads next) : Reads (lineStart next) := by
  intro last text rest eq
  unfold Shape.lineStart at eq
  split at eq
  · exact h eq
  · cases eq

theorem textStart (h : Reads next) : Reads (textStart next) := by
  intro last text rest eq
  unfold Shape.textStart at eq
  split at eq
  · exact h eq
  · cases eq

theorem lineRest : Reads lineRest := by
  intro last text rest eq
  simp only [Shape.lineRest, Option.some.injEq] at eq
  exact eq ▸ List.dropWhile_suffix _

end Shape.Reads

namespace Shape

theorem upTo_append_of_suffix {text rest : Text} (h : rest <:+ text) :
    Text.upTo text rest ++ rest = text := by
  obtain ⟨m, rfl⟩ := h
  rw [Text.upTo_append]

theorem whole_of_firstFrom {shape : Shape} (h : shape.Reads) {last : Option Char} {text : Text}
    {p : Passage} (eq : firstFrom shape last text = some p) : p.whole = text := by
  induction text generalizing last p with
  | nil =>
    obtain ⟨rest, hrest, rfl⟩ := Option.map_eq_some_iff.mp eq
    simpa [Passage.whole] using h hrest
  | cons c cs ih =>
    simp only [firstFrom] at eq
    split at eq
    · rename_i rest hrest
      cases eq
      simpa [Passage.whole] using upTo_append_of_suffix (h hrest)
    · obtain ⟨q, hq, rfl⟩ := Option.map_eq_some_iff.mp eq
      rw [Passage.whole_behind, ih hq]; rfl

/-- The passage found, put back together, is the text that was searched. -/
theorem whole_of_firstOf {shape : Shape} (h : shape.Reads) {text : Text} {p : Passage}
    (eq : firstOf shape text = some p) : p.whole = text :=
  whole_of_firstFrom h eq

end Shape

/-! ## Plain substrings -/

namespace Text

/-- Whether `part` stands somewhere in a text. -/
def contains (part : Text) : Text → Bool
  | [] => part.isEmpty
  | c :: cs => part.isPrefixOf (c :: cs) || contains part cs

theorem contains_iff {part text : Text} : contains part text = true ↔ part <:+: text := by
  induction text with
  | nil => simp [contains]
  | cons c cs ih =>
    rw [contains, Bool.or_eq_true_iff, ih, List.isPrefixOf_iff_prefix, List.infix_cons_iff]

/-- The leftmost place of `part` in a text. -/
def findFirst (part : Text) (text : Text) : Option Passage :=
  Shape.firstOf (Shape.literal part Shape.finish) text

/-- The text with the leftmost `part` replaced. -/
def replaceFirst (part new text : Text) : Text :=
  match findFirst part text with
  | some p => p.replaceWith new
  | none => text

/-- The text with every `part` replaced, from left to right; `part` is not empty. -/
def replaceAll (part new text : Text) : Text :=
  Shape.replaceEach (Shape.literal part Shape.finish) (fun _ => new) text

end Text

end RouteLocalizer
