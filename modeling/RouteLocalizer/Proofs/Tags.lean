/-
  RENAMING the tags of one name, and what it leaves as it was.

  Opening and closing tags differ in what ends the name: one character of a class, or white space up
  to a bracket.  `TagEnd` is what the two have in common, and all of this is proved for it: no tag
  runs over a bracket `<`, so what is a tag is decided between one bracket and the next.

  PROGRAM: `rename` replaces the opening tags of one name in a text, and then the closing ones; each
  replacement goes from find to find and writes a template with the new name in it.
  SPECIFICATION:
  (1) `Swapped` — a relation that follows a text from tag to tag and gives each tag of a name
      another name; `renamed_rename` says that `rename` is two of these, one behind the other;
  (2) `Renamed.unique` — the relation leaves no choice, so it says all about `rename`;
  (3) `untagged_rename`, `free_rename` — the result is free of the old name, and of every third name
      that the text is free of;
  (4) `rename_around`, `infix_of_rename` — parts that are no tags are renamed apart and stay.

  The crux is that such a text and its result have the same characters up to the next bracket; hence
  they agree on the tags of every third name, and the result is free of the old one.
-/
import Mathlib.Data.List.TakeWhile
import RouteLocalizer.Markup.Tag
import RouteLocalizer.Proofs.Characters
import RouteLocalizer.Proofs.Runs
import RouteLocalizer.Proofs.Shapes

namespace RouteLocalizer.Markup

open Text

/-! ## What ends the name of a tag -/

/-- How the name of a tag ends: characters that are passed over, and the one that decides. -/
structure TagEnd where
  gap : Char → Bool
  stop : Char → Bool
  apart : ∀ c, gap c = true → stop c = false
  bracket : gap '<' = false ∧ stop '<' = false
  underscore : gap '_' = false ∧ stop '_' = false
  closes : gap '>' = false

/-- The end of an opening tag's name. -/
def openingEnd : TagEnd where
  gap _ := false
  stop := endsTagName
  apart := by simp
  bracket := by decide
  underscore := by decide
  closes := rfl

/-- The end of a closing tag's name. -/
def closingEnd : TagEnd where
  gap := isBlank
  stop c := c == '>'
  apart := by
    intro c hc
    by_contra h
    obtain rfl : c = '>' := by simpa using h
    exact absurd hc (by decide)
  bracket := by decide
  underscore := by decide
  closes := by decide

namespace TagEnd

variable (e : TagEnd)

theorem gap_of_stop {c : Char} (h : e.stop c = true) : e.gap c = false := by
  by_contra hgap
  rw [e.apart c (by simpa using hgap)] at h
  cases h

/-- Whether a text starts with the end of a name. -/
def fits (text : Text) : Bool := (text.dropWhile e.gap).head?.any e.stop

variable {e}

/-- A character that is not passed over decides at once. -/
theorem fits_cons {c : Char} (hc : e.gap c = false) (text : Text) :
    e.fits (c :: text) = e.stop c := by
  simp [fits, hc]

/-- Those that are passed over decide nothing. -/
theorem fits_gap {gap : Text} (hgap : ∀ c ∈ gap, e.gap c = true) (text : Text) :
    e.fits (gap ++ text) = e.fits text := by
  rw [fits, List.dropWhile_append_of_pos hgap, fits]

/-- Behind a character that is not passed over nothing matters. -/
theorem fits_append {z : Text} (h : ∃ c ∈ z, e.gap c = false) (text : Text) :
    e.fits (z ++ text) = e.fits z := by
  induction z with
  | nil => simp at h
  | cons c z ih =>
    by_cases hc : e.gap c = true
    · have hz : ∃ c ∈ z, e.gap c = false := by
        obtain ⟨d, hd, hgap⟩ := h
        rcases List.mem_cons.mp hd with rfl | hd
        · rw [hc] at hgap
          cases hgap
        · exact ⟨d, hd, hgap⟩
      have hone : ∀ c' ∈ [c], e.gap c' = true := by simpa using hc
      have hcons : ∀ text : Text, e.fits (c :: text) = e.fits text := fits_gap hone
      rw [List.cons_append, hcons, hcons, ih hz]
    · have hc : e.gap c = false := by simpa using hc
      rw [List.cons_append, fits_cons hc, fits_cons hc]

/-- What fits is a gap and the character that decides. -/
theorem fits_iff {text : Text} : e.fits text = true ↔
    ∃ gap c rest, text = gap ++ c :: rest ∧ (∀ d ∈ gap, e.gap d = true) ∧ e.stop c = true := by
  constructor
  · intro h
    cases hrest : text.dropWhile e.gap with
    | nil => simp [fits, hrest] at h
    | cons c rest =>
      refine ⟨text.takeWhile e.gap, c, rest, ?_, fun d hd => List.mem_takeWhile_imp hd,
        by simpa [fits, hrest] using h⟩
      rw [← hrest, List.takeWhile_append_dropWhile]
  · rintro ⟨gap, c, rest, rfl, hgap, hc⟩
    rw [fits_gap hgap, fits_cons (e.gap_of_stop hc), hc]

/-- What decides is in front, so more text behind it changes nothing. -/
theorem fits_append_of_fits {z : Text} (h : e.fits z = true) (text : Text) :
    e.fits (z ++ text) = true := by
  obtain ⟨gap, c, rest, rfl, hgap, hc⟩ := fits_iff.mp h
  exact fits_iff.mpr ⟨gap, c, rest ++ text, by simp, hgap, hc⟩

/-- A character that can neither be passed over nor decide is the end of the matter. -/
theorem fits_append_cons {c : Char} (hc : e.gap c = false ∧ e.stop c = false) (z text : Text) :
    e.fits (z ++ c :: text) = e.fits z := by
  by_cases h : ∃ d ∈ z, e.gap d = false
  · exact fits_append h _
  · have hgap : ∀ d ∈ z, e.gap d = true := fun d hd => by simpa using fun hd' => h ⟨d, hd, hd'⟩
    have hnil : e.fits z = false := by
      have := fits_gap hgap []
      rw [List.append_nil] at this
      rw [this]
      rfl
    rw [fits_gap hgap, fits_cons hc.1, hc.2, hnil]

/-- The shape of a tag: bracket, name, and the end of the name. -/
def shape (e : TagEnd) (name : Text) : Shape :=
  Shape.literal ('<' :: name) <| Shape.run e.gap <| Shape.one e.stop Shape.finish

/-- **A tag is a bracket, the name, and an end of the name.** -/
theorem shape_eq_some {name : Text} {last : Option Char} {text rest : Text} :
    e.shape name last text = some rest ↔ ∃ gap c, text = '<' :: (name ++ (gap ++ c :: rest)) ∧
      (∀ d ∈ gap, e.gap d = true) ∧ e.stop c = true := by
  unfold shape
  constructor
  · intro h
    obtain ⟨_, htext, h⟩ := Shape.literal_eq_some.mp h
    obtain ⟨gap, _, hgap, hall, h⟩ := Shape.run_eq_some h
    obtain ⟨c, _, hc, hstop, h⟩ := Shape.one_eq_some.mp h
    obtain rfl := Shape.finish_eq_some.mp h
    subst htext hgap hc
    exact ⟨gap, c, rfl, hall, hstop⟩
  · rintro ⟨gap, c, rfl, hgap, hc⟩
    have hstop := e.gap_of_stop hc
    rw [← List.cons_append, Shape.literal_append,
      Shape.run_append (Shape.excludes_one e.apart) hgap _ (by simpa using hstop)]
    simp [Shape.one, hc, Shape.finish]

/-- Where the name is not at the bracket, or does not end, there is no tag. -/
theorem shape_eq_none {name : Text} {last : Option Char} {text : Text}
    (h : ∀ cs, text = '<' :: (name ++ cs) → e.fits cs = false) : e.shape name last text = none := by
  cases hshape : e.shape name last text with
  | none => rfl
  | some rest =>
    obtain ⟨gap, c, rfl, hgap, hc⟩ := shape_eq_some.mp hshape
    have := h _ rfl
    rw [fits_iff.mpr ⟨gap, c, rest, rfl, hgap, hc⟩] at this
    cases this

end TagEnd

/-- The search for opening tags is a case of this, ... -/
theorem openingTag_eq (tag : Text) : openingTag tag = openingEnd.shape tag := by
  have hrun : ∀ next : Shape, Shape.run openingEnd.gap next = next := by
    intro next
    funext last text
    cases text <;> rfl
  rw [openingTag, TagEnd.shape, hrun]
  rfl

/-- ... and the one for closing tags another, with the slash as a part of the name. -/
theorem closingTag_eq (tag : Text) : closingTag tag = closingEnd.shape ('/' :: tag) := by
  have hone : Shape.literal ['>'] Shape.finish = Shape.one closingEnd.stop Shape.finish := by
    funext last text
    cases text with
    | nil => rfl
    | cons c cs =>
      by_cases hc : c = '>'
      · simp [hc, Shape.one, closingEnd]
      · simp [Shape.literal, afterWord, Shape.one, closingEnd, hc, Ne.symm hc]
  rw [closingTag, TagEnd.shape, hone]
  rfl

/-! ## Names -/

/-- A name that its own end cannot be taken for. -/
structure TagEnd.Names (e : TagEnd) (name : Text) : Prop where
  nonempty : name ≠ []
  inner : ∀ c ∈ name, e.gap c = false ∧ e.stop c = false
  plain : '<' ∉ name ∧ '>' ∉ name ∧ '_' ∉ name ∧ '$' ∉ name

/-- A tag that settings may name. -/
structure IsTag (tag : Text) : Prop where
  nonempty : tag ≠ []
  chars : ∀ c ∈ tag, isTagChar c = true

instance (tag : Text) : Decidable (IsTag tag) :=
  decidable_of_iff (tag ≠ [] ∧ ∀ c ∈ tag, isTagChar c = true)
    ⟨fun ⟨nonempty, chars⟩ => ⟨nonempty, chars⟩, fun h => ⟨h.1, h.2⟩⟩

theorem IsTag.not_mem_signs {tag : Text} (h : IsTag tag) : ∀ c ∈ signs, c ∉ tag :=
  fun _ hc hmem => (tagFacts (h.chars _ hmem)).sign hc

/-- A name of tags holds no bracket, and neither of the characters that a template uses. -/
theorem IsTag.plain {tag : Text} (h : IsTag tag) :
    '<' ∉ tag ∧ '>' ∉ tag ∧ '_' ∉ tag ∧ '$' ∉ tag :=
  ⟨h.not_mem_signs _ (by decide), h.not_mem_signs _ (by decide),
    fun hmem => (tagFacts (h.chars _ hmem)).underscore rfl, h.not_mem_signs _ (by decide)⟩

/-- It names opening tags, ... -/
theorem IsTag.opening {tag : Text} (h : IsTag tag) : openingEnd.Names tag :=
  ⟨h.nonempty, fun _ hc => ⟨rfl, (tagFacts (h.chars _ hc)).ends⟩, h.plain⟩

/-- ... and behind a slash it names closing ones. -/
theorem IsTag.closing {tag : Text} (h : IsTag tag) : closingEnd.Names ('/' :: tag) where
  nonempty := by simp
  inner := by
    intro c hc
    rcases List.mem_cons.mp hc with rfl | hc
    · decide
    · refine ⟨(tagFacts (h.chars c hc)).blank, ?_⟩
      have hne : c ≠ '>' := fun heq => h.plain.2.1 (heq ▸ hc)
      simpa [closingEnd] using hne
  plain := by simpa using h.plain

/-- A name ends where its end starts. -/
theorem TagEnd.Names.unique {e : TagEnd} {name name' v v' : Text} (h : e.Names name)
    (h' : e.Names name') (heq : name ++ v = name' ++ v') (hv : e.fits v = true)
    (hv' : e.fits v' = true) : name = name' := by
  have hend : ∀ {v}, e.fits v = true → v.head?.any (fun c => !e.gap c && !e.stop c) = false := by
    intro v hv
    obtain ⟨gap, c, rest, rfl, hgap, hc⟩ := fits_iff.mp hv
    cases gap with
    | nil => simp [hc]
    | cons d gap => simp [hgap d (by simp)]
  exact word_unique heq (fun c hc => by simp [h.inner c hc]) (fun c hc => by simp [h'.inner c hc])
    (hend hv) (hend hv')

/-! ## Texts without a tag -/

/-- No tag of a name starts in the text. -/
def TagEnd.Free (e : TagEnd) (name text : Text) : Prop :=
  ∀ u v, text = u ++ '<' :: (name ++ v) → e.fits v = false

namespace TagEnd.Free

variable {e : TagEnd} {name : Text}

/-- What is free of a tag is free of it further on, ... -/
theorem suffix {text tail : Text} (h : e.Free name text) (htail : tail <:+ text) :
    e.Free name tail := by
  obtain ⟨front, rfl⟩ := htail
  intro u v huv
  exact h (front ++ u) v (by rw [huv, List.append_assoc])

/-- ... and in front, where a tag could at most be cut off. -/
theorem left {front tail : Text} (h : e.Free name (front ++ tail)) : e.Free name front := by
  intro u v huv
  by_contra hv
  have := h u (v ++ tail) (by simp [huv])
  rw [fits_append_of_fits (by simpa using hv)] at this
  cases this

/-- A text without a bracket has no tags. -/
theorem of_not_mem {text : Text} (h : '<' ∉ text) : e.Free name text := by
  rintro u v rfl
  exact absurd (by simp) h

theorem cons {c : Char} {text : Text} (hc : c = '<' → ∀ v, text = name ++ v → e.fits v = false)
    (h : e.Free name text) : e.Free name (c :: text) := by
  intro u v huv
  cases u with
  | nil =>
    obtain ⟨rfl, rfl⟩ := List.cons.inj huv
    exact hc rfl v rfl
  | cons d u =>
    obtain ⟨-, rfl⟩ := List.cons.inj huv
    exact h u v rfl

/-- Nor does one in front of a text make any. -/
theorem append_of_not_mem {front text : Text} (hfront : '<' ∉ front) (h : e.Free name text) :
    e.Free name (front ++ text) := by
  induction front with
  | nil => exact h
  | cons c front ih =>
    exact (ih fun hmem => hfront (by simp [hmem])).cons fun hc => absurd (by simp [hc]) hfront

/-- Texts put together at a character that no tag runs over. -/
theorem append_cons {c : Char} {u v : Text} (hc : e.gap c = false ∧ e.stop c = false)
    (hname : c ∉ name) (hu : e.Free name u) (hv : e.Free name (c :: v)) :
    e.Free name (u ++ c :: v) := by
  induction u with
  | nil => exact hv
  | cons d u ih =>
    refine .cons ?_ (ih (hu.suffix (List.suffix_cons d u)))
    rintro rfl w hw
    obtain ⟨z, rfl, rfl⟩ := exists_of_cut hname hw
    rw [fits_append_cons hc]
    exact hu [] z rfl

end TagEnd.Free

/-- A search for the tags of a name fails where none of them starts. -/
theorem occursIn_shape_eq_false {e : TagEnd} {name text : Text} :
    Shape.occursIn (e.shape name) text = false ↔ e.Free name text := by
  rw [Shape.occursIn, Option.isSome_eq_false_iff, Option.isNone_iff_eq_none]
  constructor
  · intro h u v huv
    have := Shape.firstFrom_eq_none h u ('<' :: (name ++ v)) huv
    by_contra hfits
    obtain ⟨gap, c, rest, rfl, hgap, hc⟩ := TagEnd.fits_iff.mp (by simpa using hfits)
    rw [TagEnd.shape_eq_some.mpr ⟨gap, c, rfl, hgap, hc⟩] at this
    cases this
  · intro h
    refine Shape.firstFrom_of_none fun u v huv => TagEnd.shape_eq_none fun cs hcs => ?_
    exact h u cs (by rw [huv, hcs])

/-- What `hasOpeningTag` denies. -/
theorem hasOpeningTag_eq_false {tag text : Text} :
    hasOpeningTag tag text = false ↔ openingEnd.Free tag text := by
  rw [hasOpeningTag, openingTag_eq, occursIn_shape_eq_false]

/-! ## A name for a name -/

/-- A text with the name of its tags swapped, from left to right. -/
inductive Swapped (e : TagEnd) (name new : Text) : Text → Text → Prop where
  | nil : Swapped e name new [] []
  | swap {cs cs' : Text} (fits : e.fits cs = true) (later : Swapped e name new cs cs') :
      Swapped e name new ('<' :: (name ++ cs)) ('<' :: (new ++ cs'))
  | keep {c : Char} {cs cs' : Text} (none : c = '<' → ∀ v, cs = name ++ v → e.fits v = false)
      (later : Swapped e name new cs cs') : Swapped e name new (c :: cs) (c :: cs')

namespace Swapped

variable {e : TagEnd} {name new : Text}

/-- A text without a bracket in front is left as it is. -/
theorem plain {u v v' : Text} (hu : '<' ∉ u) (h : Swapped e name new v v') :
    Swapped e name new (u ++ v) (u ++ v') := by
  induction u with
  | nil => exact h
  | cons c u ih =>
    exact .keep (fun hc => absurd (by simp [hc]) hu) (ih fun hmem => hu (by simp [hmem]))

/-- A text and its result have the same characters up to the next bracket. -/
theorem of_plain {u t v' : Text} (h : Swapped e name new t (u ++ v')) (hu : '<' ∉ u) :
    ∃ v, t = u ++ v ∧ Swapped e name new v v' := by
  induction u generalizing t with
  | nil => exact ⟨t, rfl, h⟩
  | cons c u ih =>
    generalize hs : c :: u ++ v' = s at h
    cases h with
    | nil => cases hs
    | swap =>
      obtain ⟨rfl, -⟩ := List.cons.inj hs
      exact absurd (by simp) hu
    | keep _ later =>
      obtain ⟨rfl, rfl⟩ := List.cons.inj hs
      obtain ⟨v, rfl, hv⟩ := ih later fun hmem => hu (by simp [hmem])
      exact ⟨v, rfl, hv⟩

/-- The text and its result have the same characters up to the next bracket, so a name that ends in
    front of the one ends in front of the other. -/
theorem fits_eq {t t' : Text} (h : Swapped e name new t t') (e' : TagEnd) :
    e'.fits t = e'.fits t' := by
  induction h with
  | nil => rfl
  | swap => rw [TagEnd.fits_cons e'.bracket.1, TagEnd.fits_cons e'.bracket.1]
  | @keep c cs cs' _ _ ih =>
    by_cases hc : e'.gap c = true
    · have hone : ∀ c' ∈ [c], e'.gap c' = true := by simpa using hc
      have hcons : ∀ text : Text, e'.fits (c :: text) = e'.fits text := TagEnd.fits_gap hone
      rw [hcons, hcons, ih]
    · have hc : e'.gap c = false := by simpa using hc
      rw [TagEnd.fits_cons hc, TagEnd.fits_cons hc]

/-- **There is one result.**  By induction on the first of the two. -/
theorem unique {t t₁ t₂ : Text} (h₁ : Swapped e name new t t₁) (h₂ : Swapped e name new t t₂) :
    t₁ = t₂ := by
  induction h₁ generalizing t₂ with
  | nil => cases h₂; rfl
  | swap fits later ih =>
    generalize ht : '<' :: (name ++ _) = t at h₂
    cases h₂ with
    | nil => cases ht
    | swap _ later' =>
      obtain ⟨-, ht⟩ := List.cons.inj ht
      obtain rfl := List.append_cancel_left ht
      rw [ih later']
    | keep none later' =>
      obtain ⟨rfl, rfl⟩ := List.cons.inj ht
      rw [none rfl _ rfl] at fits
      cases fits
  | @keep c cs cs' none later ih =>
    generalize ht : c :: cs = t at h₂
    cases h₂ with
    | nil => cases ht
    | swap fits later' =>
      obtain ⟨rfl, rfl⟩ := List.cons.inj ht
      rw [none rfl _ rfl] at fits
      cases fits
    | keep _ later' =>
      obtain ⟨rfl, rfl⟩ := List.cons.inj ht
      rw [ih later']

/-- Where there is no tag, nothing changes. -/
theorem self {t : Text} (h : e.Free name t) : Swapped e name new t t := by
  induction t with
  | nil => exact .nil
  | cons c t ih =>
    refine .keep ?_ (ih (h.suffix (List.suffix_cons c t)))
    rintro rfl v rfl
    exact h [] v rfl

/-- **No tag of the old name is left.** -/
theorem free {t t' : Text} (h : Swapped e name new t t') (hname : e.Names name)
    (hnew : e.Names new) (hne : name ≠ new) : e.Free name t' := by
  induction h with
  | nil => exact .of_not_mem (by simp)
  | swap fits later ih =>
    refine .cons (fun _ v heq => ?_) (ih.append_of_not_mem hnew.plain.1)
    by_contra hfits
    have hfits : e.fits v = true := by simpa using hfits
    exact hne (hnew.unique hname heq (later.fits_eq e ▸ fits) hfits).symm
  | keep none later ih =>
    refine .cons (fun hc v heq => ?_) ih
    obtain ⟨v', rfl, later'⟩ := of_plain (heq ▸ later) hname.plain.1
    rw [← later'.fits_eq e, none hc v' rfl]

/-- **Tags of other names stay away**, unless the new name makes one. -/
theorem free_other {t t' : Text} (h : Swapped e name new t t') {e' : TagEnd} {other : Text}
    (hother : '<' ∉ other) (hnew : '<' ∉ new)
    (makes : ∀ cs v, e.fits cs = true → new ++ cs = other ++ v → e'.fits v = false)
    (hfree : e'.Free other t) : e'.Free other t' := by
  induction h with
  | nil => exact hfree
  | @swap cs cs' fits later ih =>
    have htail : e'.Free other cs :=
      hfree.suffix ((List.suffix_append name cs).trans (List.suffix_cons '<' _))
    exact .cons (fun _ v heq => makes _ v (later.fits_eq e ▸ fits) heq)
      ((ih htail).append_of_not_mem hnew)
  | @keep c cs cs' none later ih =>
    refine .cons (fun hc v heq => ?_) (ih (hfree.suffix (List.suffix_cons c cs)))
    obtain ⟨v', rfl, later'⟩ := of_plain (heq ▸ later) hother
    subst hc
    rw [← later'.fits_eq e']
    exact hfree [] v' rfl

/-- A text can be cut in front of an underscore. -/
theorem append {g g' v v' : Text} (hname : e.Names name) (h : Swapped e name new g g')
    (hv : v.head? = some '_') (h' : Swapped e name new v v') :
    Swapped e name new (g ++ v) (g' ++ v') := by
  induction h with
  | nil => exact h'
  | swap fits later ih =>
    rw [List.cons_append, List.append_assoc, List.cons_append, List.append_assoc]
    exact .swap (TagEnd.fits_append_of_fits fits v) ih
  | @keep c cs cs' none later ih =>
    refine .keep (fun hc w heq => ?_) ih
    obtain ⟨v, rfl⟩ := List.head?_eq_some_iff.mp hv
    obtain ⟨z, rfl, rfl⟩ := exists_of_cut hname.plain.2.2.1 heq
    rw [TagEnd.fits_append_cons e.underscore, none hc z rfl]

end Swapped

/-! ## The two replacements swap names -/

/-- A template is filled past a part that has no reference in it. -/
theorem fillFrom_append {part : Nat → Text} {u : Text} (hu : '$' ∉ u)
    (v : Text) : fillFrom part 0 (u ++ v) = u ++ fillFrom part 0 v := by
  induction u with
  | nil => rfl
  | cons c u ih =>
    have hc : c ≠ '$' := fun heq => hu (by simp [heq])
    simp only [List.cons_append, fillFrom, hc, if_false]
    rw [ih fun hmem => hu (by simp [hmem])]

/-- A reference to the first part. -/
theorem fillFrom_reference (part : Nat → Text) (v : Text) :
    fillFrom part 0 ('$' :: '\x7b' :: '1' :: '\x7d' :: v) = part 1 ++ fillFrom part 0 v := by
  have hnumber : partNumber ['1'] = some 1 := by decide
  have hread : readReference ('\x7b' :: '1' :: '\x7d' :: v) = some (['1'], 3) := by
    simp [readReference]
  simp [fillFrom, hread, hnumber]

/-- Replacing the finds of a tag's shape swaps the name when each find is written so. -/
theorem swapped_replaceEachFrom {e : TagEnd} {name new : Text} {write : Text → Text}
    (hwrite : ∀ gap c, (∀ d ∈ gap, e.gap d = true) → e.stop c = true →
      write ('<' :: (name ++ (gap ++ [c]))) = '<' :: (new ++ (gap ++ [c])))
    (last : Option Char) (text : Text) :
    Swapped e name new text (Shape.replaceEachFrom (e.shape name) write 0 last text) := by
  induction hlen : text.length using Nat.strongRecOn generalizing last text with
  | ind n ih =>
  subst hlen
  cases text with
  | nil => exact .nil
  | cons c cs =>
    cases hshape : e.shape name last (c :: cs) with
    | some rest =>
      obtain ⟨gap, stop, heq, hgap, hstop⟩ := TagEnd.shape_eq_some.mp hshape
      have hfound : c :: cs = '<' :: (name ++ (gap ++ [stop])) ++ rest := by simp [heq]
      have hcs : cs = (name ++ (gap ++ [stop])) ++ rest := (List.cons.inj hfound).2
      have hstep : Shape.replaceEachFrom (e.shape name) write 0 last (c :: cs) =
          '<' :: (new ++ (gap ++ [stop])) ++ Shape.replaceEachFrom (e.shape name) write 0
            (Shape.behind (some c) (name ++ (gap ++ [stop]))) rest := by
        simp only [Shape.replaceEachFrom, hshape]
        rw [hfound, upTo_append, hwrite gap stop hgap hstop, List.length_cons,
          Nat.add_sub_cancel, hcs, Shape.replaceEachFrom_skip]
      have hplain : '<' ∉ gap ++ [stop] := by
        intro hmem
        rcases List.mem_append.mp hmem with hmem | hmem
        · have := hgap _ hmem
          rw [e.bracket.1] at this
          cases this
        · obtain rfl := List.mem_singleton.mp hmem
          rw [e.bracket.2] at hstop
          cases hstop
      have hfits : e.fits ((gap ++ [stop]) ++ rest) = true :=
        TagEnd.fits_iff.mpr ⟨gap, stop, rest, by simp, hgap, hstop⟩
      have later := ih rest.length (by simp [hcs]; omega)
        (Shape.behind (some c) (name ++ (gap ++ [stop]))) rest rfl
      rw [hstep, hfound]
      simpa using Swapped.swap hfits (later.plain hplain)
    | none =>
      simp only [Shape.replaceEachFrom, hshape]
      refine .keep ?_ (ih cs.length (by simp) (some c) cs rfl)
      rintro rfl v rfl
      by_contra hfits
      obtain ⟨gap, stop, rest, rfl, hgap, hstop⟩ := TagEnd.fits_iff.mp (by simpa using hfits)
      rw [TagEnd.shape_eq_some.mpr ⟨gap, stop, rfl, hgap, hstop⟩] at hshape
      cases hshape

/-- The opening tags swapped, and then the closing ones. -/
def Renamed (fromTag toTag text text' : Text) : Prop :=
  ∃ middle, Swapped openingEnd fromTag toTag text middle ∧
    Swapped closingEnd ('/' :: fromTag) ('/' :: toTag) middle text'

variable {fromTag toTag : Text}

/-- **Renaming gives the opening tags and then the closing tags another name.** -/
theorem renamed_rename (fromTag : Text) (hto : IsTag toTag) (text : Text) :
    Renamed fromTag toTag text (rename fromTag toTag text) := by
  have hdollar : '$' ∉ '<' :: toTag := by simpa using hto.plain.2.2.2
  have hdollar' : '$' ∉ '<' :: '/' :: toTag := by simpa using hto.plain.2.2.2
  refine ⟨renameOpening fromTag toTag text, ?_, ?_⟩
  · rw [renameOpening, Shape.replaceEach, openingTag_eq]
    refine swapped_replaceEachFrom (fun gap c _ _ => ?_) none text
    have hdrop : ('<' :: (fromTag ++ (gap ++ [c]))).drop (fromTag.length + 1) = gap ++ [c] := by
      simp
    rw [hdrop, fillPattern, fillFrom_append hdollar, fillFrom_reference]
    simp [partsOf, fillFrom]
  · rw [rename, renameClosing, Shape.replaceEach, closingTag_eq]
    refine swapped_replaceEachFrom (fun gap c _ hc => ?_) none _
    obtain rfl : c = '>' := by simpa [closingEnd] using hc
    have hdrop : ('<' :: ('/' :: fromTag ++ (gap ++ ['>']))).drop (fromTag.length + 2) =
        gap ++ ['>'] := by
      simp
    rw [hdrop, List.dropLast_concat, fillPattern, fillFrom_append hdollar', fillFrom_reference]
    simp [partsOf, fillFrom]

/-- And there is one such text. -/
theorem Renamed.unique {text t₁ t₂ : Text} (h₁ : Renamed fromTag toTag text t₁)
    (h₂ : Renamed fromTag toTag text t₂) : t₁ = t₂ := by
  obtain ⟨m₁, hopening₁, hclosing₁⟩ := h₁
  obtain ⟨m₂, hopening₂, hclosing₂⟩ := h₂
  obtain rfl := hopening₁.unique hopening₂
  exact hclosing₁.unique hclosing₂

/-! ## What renaming leaves -/

/-- Neither an opening nor a closing tag of a name starts in the text. -/
structure Untagged (tag text : Text) : Prop where
  opening : openingEnd.Free tag text
  closing : closingEnd.Free ('/' :: tag) text

/-- Neither kind of tag further on ... -/
theorem Untagged.suffix {tag text tail : Text} (h : Untagged tag text) (htail : tail <:+ text) :
    Untagged tag tail := ⟨h.opening.suffix htail, h.closing.suffix htail⟩

/-- ... and neither kind in front. -/
theorem Untagged.left {tag front tail : Text} (h : Untagged tag (front ++ tail)) :
    Untagged tag front := ⟨h.opening.left, h.closing.left⟩

/-- A closing tag is no opening tag. -/
theorem IsTag.ne_slash {tag cs v : Text} (h : IsTag tag) : '/' :: cs ≠ tag ++ v := by
  obtain ⟨c, tag, rfl⟩ := List.exists_cons_of_ne_nil h.nonempty
  rintro heq
  exact (tagFacts (h.chars c (by simp))).slash (List.cons.inj heq).1.symm

/-- Renaming makes no opening tag of a third name. -/
theorem free_rename {tag text : Text} (htag : IsTag tag) (hto : IsTag toTag) (hne : tag ≠ toTag)
    (h : openingEnd.Free tag text) : openingEnd.Free tag (rename fromTag toTag text) := by
  obtain ⟨middle, hopening, hclosing⟩ := renamed_rename fromTag hto text
  have hmiddle : openingEnd.Free tag middle :=
    hopening.free_other htag.plain.1 hto.plain.1 (fun cs v hcs heq => by
      by_contra hv
      exact hne (hto.opening.unique htag.opening heq hcs (by simpa using hv)).symm) h
  exact hclosing.free_other htag.plain.1 hto.closing.plain.1
    (fun _ _ _ heq => absurd heq htag.ne_slash) hmiddle

/-- **A renamed text has no tag of the old name.** -/
theorem untagged_rename (hfrom : IsTag fromTag) (hto : IsTag toTag) (hne : fromTag ≠ toTag)
    (text : Text) : Untagged fromTag (rename fromTag toTag text) := by
  obtain ⟨middle, hopening, hclosing⟩ := renamed_rename fromTag hto text
  exact ⟨hclosing.free_other hfrom.plain.1 hto.closing.plain.1
      (fun _ _ _ heq => absurd heq hfrom.ne_slash)
      (hopening.free hfrom.opening hto.opening hne),
    hclosing.free hfrom.closing hto.closing (by simpa using hne)⟩

/-- **Without a tag of the old name** renaming changes nothing. -/
theorem rename_of_untagged (hto : IsTag toTag) {text : Text} (h : Untagged fromTag text) :
    rename fromTag toTag text = text :=
  (renamed_rename fromTag hto text).unique ⟨text, .self h.opening, .self h.closing⟩

/-- Renaming goes piece by piece around a word that starts with an underscore. -/
theorem rename_around (hfrom : IsTag fromTag) (hto : IsTag toTag) {word : Text}
    (hword : word.head? = some '_') (hplain : '<' ∉ word) (u v : Text) :
    rename fromTag toTag (u ++ (word ++ v)) =
      rename fromTag toTag u ++ (word ++ rename fromTag toTag v) := by
  obtain ⟨mu, hu, hu'⟩ := renamed_rename fromTag hto u
  obtain ⟨mv, hv, hv'⟩ := renamed_rename fromTag hto v
  have hhead : ∀ v : Text, (word ++ v).head? = some '_' := fun v => by
    obtain ⟨tail, rfl⟩ := List.head?_eq_some_iff.mp hword
    rfl
  exact (renamed_rename fromTag hto _).unique ⟨mu ++ (word ++ mv),
    hu.append hfrom.opening (hhead v) (hv.plain hplain),
    hu'.append hfrom.closing (hhead mv) (hv'.plain hplain)⟩

/-- A word that starts with an underscore stands in a result only where it stood before. -/
theorem Swapped.isInfix {e : TagEnd} {name new text text' word : Text}
    (h : Swapped e name new text text') (hnew : '_' ∉ new) (hword : word.head? = some '_')
    (hplain : '<' ∉ word) (hmem : word <:+: text') : word <:+: text := by
  induction h with
  | nil => exact hmem
  | @swap cs cs' _ later ih =>
    have hskip : ∀ {front rest : Text}, '_' ∉ front → word <:+: front ++ rest →
        word <:+: rest := by
      intro front rest hfront h
      induction front with
      | nil => exact h
      | cons c front ih =>
        rcases List.infix_cons_iff.mp h with h | h
        · obtain ⟨tail, rfl⟩ := List.head?_eq_some_iff.mp hword
          obtain ⟨rfl, -⟩ := List.cons_prefix_cons.mp h
          exact absurd (by simp) hfront
        · exact ih (fun hmem => hfront (by simp [hmem])) h
    have hfront : '_' ∉ '<' :: new := by simpa using hnew
    have := ih (hskip hfront (by simpa using hmem))
    exact (this.trans (List.suffix_append name cs).isInfix).trans (List.suffix_cons _ _).isInfix
  | @keep c cs cs' none later ih =>
    rcases List.infix_cons_iff.mp hmem with ⟨rest, hrest⟩ | hmem
    · obtain ⟨v, hv, -⟩ := Swapped.of_plain (hrest ▸ Swapped.keep none later) hplain
      exact hv ▸ (List.prefix_append word v).isInfix
    · exact (ih hmem).trans (List.suffix_cons c cs).isInfix

/-- A word that starts with an underscore and holds no bracket comes from the text, not from
    renaming. -/
theorem infix_of_rename {word text : Text} (hto : IsTag toTag) (hword : word.head? = some '_')
    (hplain : '<' ∉ word) (h : word <:+: rename fromTag toTag text) : word <:+: text := by
  obtain ⟨middle, hopening, hclosing⟩ := renamed_rename fromTag hto text
  exact hopening.isInfix hto.plain.2.2.1 hword hplain
    (hclosing.isInfix hto.closing.plain.2.2.1 hword hplain h)

end RouteLocalizer.Markup
