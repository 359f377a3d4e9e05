/-
  EXCLUSION REGIONS, and the placeholders that hide them.

  A region runs from an opening tag of the excluded name to the first closing tag behind it, or
  ends with the opening tag when that one closes itself.  `cutRegions` cuts a text from the left
  into gaps and regions; regions pair in order and do not nest, and an opening tag without an end
  ends the cutting.

  A change that must not touch the regions works on the MASKED text, in which each region is a
  placeholder, and `restore` puts the regions back.  A placeholder is made of a running number and
  a time stamp; numbers whose placeholder occurs in the text are passed over, so a placeholder
  never stands for text that was there before.
-/
import RouteLocalizer.Markup.Tag

namespace RouteLocalizer.Markup

open Text

/-! ## Cutting a text into gaps and regions -/

/-- The leftmost exclusion region of a text. -/
def nextRegion (tag text : Text) : Option Passage :=
  match Shape.firstOf (openingTag tag) text with
  | none => none
  | some opening =>
    match splitTag none (opening.body ++ opening.after) with
    | none => none
    | some (whole, rest) =>
      if endsWith ['/', '>'] whole then some ⟨opening.before, whole, rest⟩
      else match Shape.firstOf (closingTag tag) rest with
        | none => none
        | some closing =>
          some ⟨opening.before, whole ++ closing.before ++ closing.body, closing.after⟩

theorem whole_of_nextRegion {tag text : Text} {p : Passage} (h : nextRegion tag text = some p) :
    p.whole = text := by
  unfold nextRegion at h
  split at h
  · cases h
  rename_i opening hopen
  have h1 := Shape.whole_of_firstOf (openingTag_reads tag) hopen
  split at h
  · cases h
  rename_i whole rest hsplit
  have h2 := append_of_splitTag hsplit
  split at h
  · cases h
    simpa [Passage.whole, h2] using h1
  · split at h
    · cases h
    rename_i closing hclose
    have h3 := Shape.whole_of_firstOf (closingTag_reads tag) hclose
    cases h
    simp only [Passage.whole, List.append_assoc] at h1 h3 ⊢
    rw [h3, h2, h1]

theorem splitTag_ne_nil {quote : Option Char} {text rest : Text} :
    splitTag quote text ≠ some ([], rest) := by
  intro h
  cases text with
  | nil => cases h
  | cons c cs =>
    simp only [splitTag] at h
    repeat' split at h
    all_goals simp at h

/-- A region is not empty, so what stands behind it is shorter than the text. -/
theorem length_after_nextRegion {tag text : Text} {p : Passage}
    (h : nextRegion tag text = some p) : p.after.length < text.length := by
  have hw := whole_of_nextRegion h
  have hne : p.body ≠ [] := by
    unfold nextRegion at h
    split at h
    · cases h
    split at h
    · cases h
    rename_i whole rest hsplit
    have hwhole : whole ≠ [] := by
      rintro rfl
      exact splitTag_ne_nil hsplit
    split at h
    · cases h
      exact hwhole
    · split at h
      · cases h
      · cases h
        simp [hwhole]
  have hlen := congrArg List.length hw
  have hpos := List.length_pos_iff.mpr hne
  simp only [Passage.whole, List.length_append] at hlen
  omega

/-- A text cut into regions, each with the gap in front of it, and the tail behind the last. -/
structure Regions where
  /-- The gaps and the regions behind them, from left to right. -/
  cuts : List (Text × Text)
  /-- What stands behind the last region. -/
  tail : Text
deriving DecidableEq, Repr

/-- Cuts a text into gaps and exclusion regions. -/
def cutRegions (tag text : Text) : Regions :=
  match _eq : nextRegion tag text with
  | none => ⟨[], text⟩
  | some p =>
    let later := cutRegions tag p.after
    ⟨(p.before, p.body) :: later.cuts, later.tail⟩
termination_by text.length
decreasing_by exact length_after_nextRegion _eq

/-! ## Placeholders -/

/-- The placeholder of a running number. -/
def placeholder (stamp index : Nat) : Text :=
  "__lang_router_excluded_" ++ ofNat index ++ "_" ++ ofNat stamp ++ "__"

/-- The first number from `index` on whose placeholder does not occur in the text, looking at no
    more than `tries` numbers. -/
def freshIndex (text : Text) (stamp : Nat) : (tries index : Nat) → Nat
  | 0, index => index
  | tries + 1, index =>
    if contains (placeholder stamp index) text then freshIndex text stamp tries (index + 1)
    else index

/-- A number for each region.  A placeholder starts at some character of the text or does not
    occur, so one try more than the text has characters is enough for each number. -/
def freshIndices (text : Text) (stamp : Nat) : (regions index : Nat) → List Nat
  | 0, _ => []
  | n + 1, index =>
    let i := freshIndex text stamp (text.length + 1) index
    i :: freshIndices text stamp n (i + 1)

/-- A region behind its placeholder. -/
structure Masked where
  placeholder : Text
  region : Text
deriving DecidableEq, Repr

/-- The masked text of gaps and placeholders. -/
def maskedText : List (Text × Text) → Text → Text
  | [], tail => tail
  | (gap, hidden) :: rest, tail => gap ++ hidden ++ maskedText rest tail

/-- Hides the exclusion regions of a text. -/
def mask (stamp : Nat) (tag text : Text) : Text × List Masked :=
  let regions := cutRegions tag text
  let names := (freshIndices text stamp regions.cuts.length 0).map (placeholder stamp)
  (maskedText ((regions.cuts.map Prod.fst).zip names) regions.tail,
    (names.zip (regions.cuts.map Prod.snd)).map fun (name, region) => ⟨name, region⟩)

/-- Puts the regions back, each for the first occurrence of its placeholder. -/
def restore (text : Text) (hidden : List Masked) : Text :=
  hidden.foldl (fun text m => replaceFirst m.placeholder m.region text) text

/-! ## Renaming around the regions -/

/-- Gives all tags of a name another name, except inside the exclusion regions. -/
def renameOutside (stamp : Nat) (fromTag toTag exclusion text : Text) : Text :=
  let (masked, hidden) := mask stamp exclusion text
  restore (rename fromTag toTag masked) hidden

/-- Whether a tag still opens outside the exclusion regions. -/
def hasTagOutside (stamp : Nat) (tag exclusion text : Text) : Bool :=
  hasOpeningTag tag (mask stamp exclusion text).1

end RouteLocalizer.Markup
