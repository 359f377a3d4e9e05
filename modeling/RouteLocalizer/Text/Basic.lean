/-
  Texts, and the passages found in them.

  Every edit of this library works on a TEXT, a list of characters, and never on an offset
  into one.  What a search answers is a `Passage`: the text before the find, the find itself and
  the text after it.  Cutting the find out, replacing it or writing something behind it are then
  appends of three lists, and nothing can point outside the text.

  Offsets are counted only where a report shows them, and there they are counted in BYTES of the
  UTF-8 form: `byteSize` is the measure and `Passage.span` the pair of offsets.  `replaceWith_body`
  says that a passage put back in its own place gives the text it was found in.
-/

namespace RouteLocalizer

/-- A text is the list of its characters. -/
abbrev Text := List Char

namespace Text

/-- A string literal stands for the text it spells. -/
instance : Coe String Text := ⟨String.toList⟩

/-- What is asked of all characters of a text is asked of one after another, and not of all
    characters that there are. -/
instance (priority := 2000) decidableForallMem {p : Char → Prop} [DecidablePred p]
    (text : Text) : Decidable (∀ c ∈ text, p c) := List.decidableBAll p text

/-- The number of bytes that the UTF-8 form of a text takes. -/
def byteSize (text : Text) : Nat :=
  text.foldr (fun c size => c.utf8Size + size) 0

@[simp] theorem byteSize_nil : byteSize [] = 0 := rfl

@[simp] theorem byteSize_cons (c : Char) (text : Text) :
    byteSize (c :: text) = c.utf8Size + byteSize text := rfl

@[simp] theorem byteSize_append (s t : Text) : byteSize (s ++ t) = byteSize s + byteSize t := by
  induction s with
  | nil => simp
  | cons c s ih => simp [ih, Nat.add_assoc]

theorem byteSize_pos {text : Text} (h : text ≠ []) : 0 < byteSize text := by
  obtain ⟨c, cs, rfl⟩ := List.exists_cons_of_ne_nil h
  have := c.utf8Size_pos
  rw [byteSize_cons]
  omega

/-- The part of `text` that stands before its tail `rest`. -/
def upTo (text rest : Text) : Text :=
  text.take (text.length - rest.length)

@[simp] theorem upTo_append (s rest : Text) : upTo (s ++ rest) rest = s := by
  simp [upTo]

/-- What remains of a text behind the word that it starts with. -/
def afterWord : Text → Text → Option Text
  | [], text => some text
  | _ :: _, [] => none
  | w :: word, c :: text => if w = c then afterWord word text else none

theorem afterWord_eq_some_iff {word text rest : Text} :
    afterWord word text = some rest ↔ text = word ++ rest := by
  induction word generalizing text with
  | nil => simp [afterWord]
  | cons w word ih =>
    cases text with
    | nil => simp [afterWord]
    | cons c text =>
      by_cases h : w = c
      · simp [afterWord, h, ih]
      · simp [afterWord, h, Ne.symm h]

/-- Whether `text` ends with `ending`. -/
def endsWith (ending text : Text) : Bool :=
  ending.reverse.isPrefixOf text.reverse

/-- The texts, one after another, with `separator` between two neighbours. -/
def joinWith (separator : Text) : List Text → Text
  | [] => []
  | [t] => t
  | t :: u :: rest => t ++ separator ++ joinWith separator (u :: rest)

/-- The pieces of a text between the characters `separator`; one more than there are of them. -/
def pieces (separator : Char) : Text → List Text
  | [] => [[]]
  | c :: cs =>
    if c = separator then [] :: pieces separator cs
    else match pieces separator cs with
      | [] => [[c]]
      | p :: ps => (c :: p) :: ps

/-- The first number that is too large for a 64-bit word. -/
def wordLimit : Nat := 0x10000000000000000

/-- The decimal digits of a number. -/
def ofNat (n : Nat) : Text := Nat.toDigits 10 n

theorem isDigit_of_mem_ofNat {n : Nat} {c : Char} (h : c ∈ ofNat n) : c.isDigit = true :=
  Nat.isDigit_of_mem_toDigits (by decide) (by decide) h

/-- The decimal digits of an integer, with a minus sign in front of a negative one. -/
def ofInt (i : Int) : Text :=
  if i < 0 then '-' :: ofNat i.natAbs else ofNat i.natAbs

/-- The text, filled up with blanks on the right to the given width. -/
def padRight (width : Nat) (text : Text) : Text :=
  text ++ List.replicate (width - text.length) ' '

/-- The text, filled up with blanks on the left to the given width. -/
def padLeft (width : Nat) (text : Text) : Text :=
  List.replicate (width - text.length) ' ' ++ text

/-- Whether one text comes before another by their characters' code points, which is also the
    order of their UTF-8 bytes. -/
def isBefore : Text → Text → Bool
  | [], [] => false
  | [], _ :: _ => true
  | _ :: _, [] => false
  | c :: s, d :: t => c < d || (c == d && isBefore s t)

end Text

/-! ## Passages -/

/-- A find in a text, with the text around it. -/
structure Passage where
  /-- The text in front of the find. -/
  before : Text
  /-- The find. -/
  body : Text
  /-- The text behind the find. -/
  after : Text
deriving DecidableEq, Repr

namespace Passage

variable (p : Passage)

/-- The text that the passage was found in. -/
def whole : Text := p.before ++ p.body ++ p.after

/-- The text with the passage replaced. -/
def replaceWith (text : Text) : Text := p.before ++ text ++ p.after

/-- The text with something written right behind the passage. -/
def insertBehind (text : Text) : Text := p.before ++ p.body ++ text ++ p.after

/-- The byte offsets at which the passage starts and ends. -/
def span : Nat × Nat :=
  (p.before.byteSize, p.before.byteSize + p.body.byteSize)

/-- The same passage, found in a text that has more in front. -/
def behind (text : Text) : Passage := { p with before := text ++ p.before }

/-- A passage of another passage's body, seen as a passage of the whole text. -/
def inBody (inner : Passage) : Passage :=
  ⟨p.before ++ inner.before, inner.body, inner.after ++ p.after⟩

@[simp] theorem replaceWith_body : p.replaceWith p.body = p.whole := rfl

@[simp] theorem whole_behind (text : Text) : (p.behind text).whole = text ++ p.whole := by
  simp [whole, behind]

theorem whole_inBody (inner : Passage) (h : inner.whole = p.body) :
    (p.inBody inner).whole = p.whole := by
  simp only [whole, inBody, ← h, List.append_assoc]

end Passage

end RouteLocalizer
