/-
  RENAMING OUTSIDE THE REGIONS, told by the characters alone.

  Program: `renameOutside` hides the exclusion regions behind placeholders, replaces opening tags in
  the whole masked text, then closing tags, and puts the regions back one after another.

  Specification: `RenamedOutside` cuts the text from the left.  The next region starts at the first
  opening tag of the excluded name; it ends behind that tag if the tag ends in `/>`, and otherwise
  behind the first closing tag that follows.  Regions stay as they are, and in the gaps every tag of
  the old name gets the new one, opening and closing tags at once (`Retagged`).  No placeholder, no
  search and no order of replacements occurs in it.

  The crux is that the two kinds of tags do not get in each other's way: a tag runs over no bracket
  `<`, so what the first replacement writes neither makes nor hides a find of the second
  (`Retagged.renamed`).
-/
import RouteLocalizer.Proofs.Masking

namespace RouteLocalizer.Markup

open Text

/-! ## Tags by their characters -/

/-- A text that starts with an opening tag of a name. -/
def StartsOpening (tag text : Text) : Prop :=
  ∃ c rest, text = '<' :: (tag ++ c :: rest) ∧ endsTagName c = true

/-- A text that starts with a closing tag of a name. -/
def StartsClosing (tag text : Text) : Prop :=
  ∃ gap rest, text = '<' :: '/' :: (tag ++ (gap ++ '>' :: rest)) ∧ ∀ c ∈ gap, isBlank c = true

theorem fits_openingEnd {text : Text} : openingEnd.fits text = true ↔
    ∃ c rest, text = c :: rest ∧ endsTagName c = true := by
  constructor
  · intro h
    obtain ⟨gap, c, rest, rfl, hgap, hc⟩ := TagEnd.fits_iff.mp h
    cases gap with
    | nil => exact ⟨c, rest, rfl, hc⟩
    | cons d gap => exact absurd (hgap d (by simp)) (by simp [openingEnd])
  · rintro ⟨c, rest, rfl, hc⟩
    exact TagEnd.fits_iff.mpr ⟨[], c, rest, rfl, by simp, hc⟩

theorem fits_closingEnd {text : Text} : closingEnd.fits text = true ↔
    ∃ gap rest, text = gap ++ '>' :: rest ∧ ∀ c ∈ gap, isBlank c = true := by
  constructor
  · intro h
    obtain ⟨gap, c, rest, rfl, hgap, hc⟩ := TagEnd.fits_iff.mp h
    obtain rfl : c = '>' := by simpa [closingEnd] using hc
    exact ⟨gap, rest, rfl, hgap⟩
  · rintro ⟨gap, rest, rfl, hgap⟩
    exact TagEnd.fits_iff.mpr ⟨gap, '>', rest, rfl, hgap, by decide⟩

theorem startsOpening_iff {tag text : Text} : StartsOpening tag text ↔
    ∃ cs, text = '<' :: (tag ++ cs) ∧ openingEnd.fits cs = true := by
  constructor
  · rintro ⟨c, rest, rfl, hc⟩
    exact ⟨c :: rest, rfl, fits_openingEnd.mpr ⟨c, rest, rfl, hc⟩⟩
  · rintro ⟨cs, rfl, hfits⟩
    obtain ⟨c, rest, rfl, hc⟩ := fits_openingEnd.mp hfits
    exact ⟨c, rest, rfl, hc⟩

theorem startsClosing_iff {tag text : Text} : StartsClosing tag text ↔
    ∃ cs, text = '<' :: ('/' :: tag ++ cs) ∧ closingEnd.fits cs = true := by
  constructor
  · rintro ⟨gap, rest, rfl, hgap⟩
    exact ⟨gap ++ '>' :: rest, rfl, fits_closingEnd.mpr ⟨gap, rest, rfl, hgap⟩⟩
  · rintro ⟨cs, rfl, hfits⟩
    obtain ⟨gap, rest, rfl, hgap⟩ := fits_closingEnd.mp hfits
    exact ⟨gap, rest, rfl, hgap⟩

/-! ## All tags of a name at once -/

/-- A text with the tags of one name renamed, and all else as it was. -/
inductive Retagged (fromTag toTag : Text) : Text → Text → Prop where
  | nil : Retagged fromTag toTag [] []
  | opening {c : Char} {rest rest' : Text} (ends : endsTagName c = true)
      (later : Retagged fromTag toTag rest rest') :
      Retagged fromTag toTag ('<' :: (fromTag ++ c :: rest)) ('<' :: (toTag ++ c :: rest'))
  | closing {gap rest rest' : Text} (blank : ∀ c ∈ gap, isBlank c = true)
      (later : Retagged fromTag toTag rest rest') :
      Retagged fromTag toTag ('<' :: '/' :: (fromTag ++ (gap ++ '>' :: rest)))
        ('<' :: '/' :: (toTag ++ (gap ++ '>' :: rest')))
  | keep {c : Char} {rest rest' : Text} (noOpening : ¬ StartsOpening fromTag (c :: rest))
      (noClosing : ¬ StartsClosing fromTag (c :: rest))
      (later : Retagged fromTag toTag rest rest') : Retagged fromTag toTag (c :: rest) (c :: rest')

namespace Retagged

variable {fromTag toTag text out : Text}

/-- **One pass over all tags** is one over the opening tags and then one over the closing tags. -/
theorem renamed (h : Retagged fromTag toTag text out) (hfrom : IsTag fromTag) (hto : IsTag toTag) :
    Renamed fromTag toTag text out := by
  induction h with
  | nil => exact ⟨[], .nil, .nil⟩
  | @opening c rest rest' ends later ih =>
    obtain ⟨middle, hopening, hclosing⟩ := ih
    have hc : c ≠ '<' := by
      rintro rfl
      exact absurd ends (by decide)
    refine ⟨'<' :: (toTag ++ c :: middle), ?_, ?_⟩
    · exact .swap (fits_openingEnd.mpr ⟨c, rest, rfl, ends⟩)
        (.keep (fun heq => absurd heq hc) hopening)
    · refine .keep (fun _ v heq => absurd heq.symm hto.ne_slash) (.plain hto.plain.1 ?_)
      exact .keep (fun heq => absurd heq hc) hclosing
  | @closing gap rest rest' blank later ih =>
    obtain ⟨middle, hopening, hclosing⟩ := ih
    have hgap : '<' ∉ gap ++ ['>'] := by
      simpa using fun hmem => absurd (blank '<' hmem) (by decide)
    have hname : '<' ∉ '/' :: fromTag := hfrom.closing.plain.1
    have hbehind : ∀ tail : Text, gap ++ '>' :: tail = (gap ++ ['>']) ++ tail := by simp
    refine ⟨'<' :: ('/' :: fromTag ++ (gap ++ '>' :: middle)), ?_, ?_⟩
    · refine .keep (fun _ v heq => absurd heq hfrom.ne_slash) ?_
      rw [← List.cons_append, hbehind rest, hbehind middle]
      exact .plain hname (.plain hgap hopening)
    · refine .swap (fits_closingEnd.mpr ⟨gap, middle, rfl, blank⟩) ?_
      rw [hbehind middle, hbehind rest']
      exact .plain hgap hclosing
  | @keep c rest rest' noOpening noClosing later ih =>
    obtain ⟨middle, hopening, hclosing⟩ := ih
    refine ⟨c :: middle, .keep (fun hc v heq => ?_) hopening,
      .keep (fun hc v heq => ?_) hclosing⟩
    · by_contra hfits
      exact noOpening (startsOpening_iff.mpr ⟨v, by rw [hc, heq], by simpa using hfits⟩)
    · -- a closing tag behind the first replacement was one before it
      obtain ⟨v', rfl, later'⟩ := Swapped.of_plain (heq ▸ hopening) hfrom.closing.plain.1
      by_contra hfits
      rw [← later'.fits_eq closingEnd] at hfits
      exact noClosing (startsClosing_iff.mpr ⟨v', by rw [hc], by simpa using hfits⟩)

/-- Every text can be renamed. -/
theorem exists_out (fromTag toTag text : Text) : ∃ out, Retagged fromTag toTag text out := by
  -- on the length: a tag is passed over as a whole
  induction hlen : text.length using Nat.strongRecOn generalizing text with
  | ind n ih =>
  subst hlen
  by_cases hopening : StartsOpening fromTag text
  · obtain ⟨c, rest, rfl, hc⟩ := hopening
    obtain ⟨out, hout⟩ := ih rest.length (by simp; omega) rest rfl
    exact ⟨_, .opening hc hout⟩
  by_cases hclosing : StartsClosing fromTag text
  · obtain ⟨gap, rest, rfl, hgap⟩ := hclosing
    obtain ⟨out, hout⟩ := ih rest.length (by simp; omega) rest rfl
    exact ⟨_, .closing hgap hout⟩
  cases text with
  | nil => exact ⟨[], .nil⟩
  | cons c rest =>
    obtain ⟨out, hout⟩ := ih rest.length (by simp) rest rfl
    exact ⟨_, .keep hopening hclosing hout⟩

end Retagged

/-- **Renaming is renaming all tags at once.** -/
theorem retagged_iff {fromTag toTag text out : Text} (hfrom : IsTag fromTag) (hto : IsTag toTag) :
    Retagged fromTag toTag text out ↔ out = rename fromTag toTag text := by
  have heq : ∀ {out}, Retagged fromTag toTag text out → out = rename fromTag toTag text :=
    fun h => (h.renamed hfrom hto).unique (renamed_rename fromTag hto text)
  refine ⟨heq, ?_⟩
  rintro rfl
  obtain ⟨out, hout⟩ := Retagged.exists_out fromTag toTag text
  exact heq hout ▸ hout

/-! ## Where a tag ends -/

/-- The quote that is open behind a character, when `quote` was open in front of it. -/
def nextQuote (quote : Option Char) (c : Char) : Option Char :=
  match quote with
  | none => if c = '"' ∨ c = '\'' then some c else none
  | some q => if c = q then none else some q

/-- The quote that is open behind a text, when `quote` was open in front of it. -/
def quoteAfter (quote : Option Char) (text : Text) : Option Char := text.foldl nextQuote quote

/-- A tag, or the rest of one, up to the first bracket `>` outside quotes. -/
def ClosesAt (quote : Option Char) (whole : Text) : Prop :=
  ∃ inner, whole = inner ++ ['>'] ∧ quoteAfter quote inner = none ∧
    ∀ u v, inner = u ++ '>' :: v → quoteAfter quote u ≠ none

theorem splitTag_cons (quote : Option Char) (c : Char) (cs : Text) :
    splitTag quote (c :: cs) =
      if quote = none ∧ c = '>' then some ([c], cs)
      else (splitTag (nextQuote quote c) cs).map fun (tag, rest) => (c :: tag, rest) := by
  cases quote with
  | none =>
    by_cases hc : c = '>'
    · simp [splitTag, hc]
    · by_cases hquote : c = '"' ∨ c = '\'' <;> simp [splitTag, nextQuote, hc, hquote]
  | some q => by_cases hc : c = q <;> simp [splitTag, nextQuote, hc]

theorem closesAt_cons {quote : Option Char} {c : Char} {whole : Text} :
    ClosesAt quote (c :: whole) ↔ quote = none ∧ c = '>' ∧ whole = [] ∨
      ¬ (quote = none ∧ c = '>') ∧ ClosesAt (nextQuote quote c) whole := by
  constructor
  · rintro ⟨inner, heq, hclosed, hearlier⟩
    cases inner with
    | nil =>
      obtain ⟨rfl, rfl⟩ := List.cons.inj heq
      exact .inl ⟨hclosed, rfl, rfl⟩
    | cons d inner =>
      obtain ⟨rfl, rfl⟩ := List.cons.inj heq
      refine .inr ⟨fun h => hearlier [] inner (by rw [h.2]; rfl) h.1, inner, rfl, hclosed,
        fun u v huv => hearlier (c :: u) v (by rw [huv]; rfl)⟩
  · rintro (⟨rfl, rfl, rfl⟩ | ⟨hopen, inner, rfl, hclosed, hearlier⟩)
    · exact ⟨[], rfl, rfl, fun u v huv => by simp at huv⟩
    · refine ⟨c :: inner, rfl, hclosed, fun u v huv => ?_⟩
      cases u with
      | nil =>
        obtain ⟨rfl, -⟩ := List.cons.inj huv
        exact fun hnone => hopen ⟨hnone, rfl⟩
      | cons d u =>
        obtain ⟨rfl, rfl⟩ := List.cons.inj huv
        exact hearlier u v rfl

/-- A tag is split off where it ends. -/
theorem splitTag_eq_some_iff {quote : Option Char} {text whole rest : Text} :
    splitTag quote text = some (whole, rest) ↔ text = whole ++ rest ∧ ClosesAt quote whole := by
  induction text generalizing quote whole with
  | nil =>
    constructor
    · intro h
      cases h
    · rintro ⟨heq, inner, rfl, -⟩
      simp at heq
  | cons c cs ih =>
    rw [splitTag_cons]
    cases whole with
    | nil =>
      have hnever : ¬ ClosesAt quote [] := by
        rintro ⟨inner, heq, -⟩
        simp at heq
      split <;> simp [hnever]
    | cons d whole =>
      rw [closesAt_cons, List.cons_append, List.cons.injEq]
      split
      · rename_i hends
        constructor
        · intro h
          cases h
          exact ⟨⟨rfl, rfl⟩, .inl ⟨hends.1, hends.2, rfl⟩⟩
        · rintro ⟨⟨rfl, rfl⟩, ⟨-, -, rfl⟩ | ⟨hopen, -⟩⟩
          · rfl
          · exact absurd hends hopen
      · rename_i hopen
        constructor
        · intro h
          obtain ⟨⟨tail, rest'⟩, htail, heq⟩ := Option.map_eq_some_iff.mp h
          cases heq
          obtain ⟨rfl, hcloses⟩ := ih.mp htail
          exact ⟨⟨rfl, rfl⟩, .inr ⟨hopen, hcloses⟩⟩
        · rintro ⟨⟨rfl, rfl⟩, ⟨hnone, hc, -⟩ | ⟨-, hcloses⟩⟩
          · exact absurd ⟨hnone, hc⟩ hopen
          · rw [ih.mpr ⟨rfl, hcloses⟩]
            rfl

/-! ## The next region -/

/-- The first place of a text from which the property holds: `front` stands before it. -/
def FirstBehind (P : Text → Prop) (front text : Text) : Prop :=
  P text ∧ ∀ u v, front = u ++ v → v ≠ [] → ¬ P (v ++ text)

/-- An exclusion region that is followed by `rest`. -/
inductive ExclusionRegion (tag : Text) : (region rest : Text) → Prop where
  | selfClosing {whole rest : Text} (closes : ClosesAt none whole) (ends : ['/', '>'] <:+ whole) :
      ExclusionRegion tag whole rest
  | paired {whole inner gap rest : Text} (closes : ClosesAt none whole)
      (goesOn : ¬ ['/', '>'] <:+ whole) (blank : ∀ c ∈ gap, isBlank c = true)
      (first : FirstBehind (StartsClosing tag) inner
        ('<' :: '/' :: (tag ++ (gap ++ '>' :: rest)))) :
      ExclusionRegion tag (whole ++ (inner ++ '<' :: '/' :: (tag ++ (gap ++ ['>'])))) rest

/-- The next region of a text, with the gap in front of it and the rest behind it. -/
structure NextRegion (tag text gap region rest : Text) : Prop where
  whole : text = gap ++ (region ++ rest)
  first : FirstBehind (StartsOpening tag) gap (region ++ rest)
  ends : ExclusionRegion tag region rest

theorem TagEnd.exists_shape {e : TagEnd} {name : Text} {last : Option Char} {text : Text} :
    (∃ rest, e.shape name last text = some rest) ↔
      ∃ cs, text = '<' :: (name ++ cs) ∧ e.fits cs = true := by
  constructor
  · rintro ⟨rest, h⟩
    obtain ⟨gap, c, rfl, hgap, hc⟩ := shape_eq_some.mp h
    exact ⟨_, rfl, fits_iff.mpr ⟨gap, c, rest, rfl, hgap, hc⟩⟩
  · rintro ⟨cs, rfl, hfits⟩
    obtain ⟨gap, c, rest, rfl, hgap, hc⟩ := fits_iff.mp hfits
    exact ⟨rest, shape_eq_some.mpr ⟨gap, c, rfl, hgap, hc⟩⟩

theorem exists_openingTag {tag : Text} {last : Option Char} {text : Text} :
    (∃ rest, openingTag tag last text = some rest) ↔ StartsOpening tag text := by
  rw [openingTag_eq, TagEnd.exists_shape, startsOpening_iff]

theorem exists_closingTag {tag : Text} {last : Option Char} {text : Text} :
    (∃ rest, closingTag tag last text = some rest) ↔ StartsClosing tag text := by
  rw [closingTag_eq, TagEnd.exists_shape, startsClosing_iff]

section

variable {shape : Shape} {P : Text → Prop}

/-- What is found first starts at the first place of its kind. -/
theorem firstBehind_of_firstOf (reads : shape.Reads)
    (fits : ∀ last text, (∃ rest, shape last text = some rest) ↔ P text) {text : Text}
    {p : Passage} (h : Shape.firstOf shape text = some p) :
    FirstBehind P p.before (p.body ++ p.after) := by
  obtain ⟨-, hfits, hearlier⟩ := Shape.firstFrom_eq_some reads h
  refine ⟨(fits _ _).mp ⟨_, hfits⟩, fun u v huv hne hv => ?_⟩
  obtain ⟨c, v, rfl⟩ := List.exists_cons_of_ne_nil hne
  obtain ⟨rest, hrest⟩ := (fits (Shape.behind none u) _).mpr hv
  rw [hearlier u c v huv] at hrest
  cases hrest

/-- What starts at the first place of its kind is found first. -/
theorem firstOf_of_firstBehind
    (fits : ∀ last text, (∃ rest, shape last text = some rest) ↔ P text) {front body after : Text}
    (h : FirstBehind P front (body ++ after))
    (taken : shape (Shape.behind none front) (body ++ after) = some after) :
    Shape.firstOf shape (front ++ (body ++ after)) = some ⟨front, body, after⟩ := by
  refine Shape.firstFrom_of_fits taken fun u c v huv => ?_
  by_contra hne
  obtain ⟨rest, hrest⟩ := Option.ne_none_iff_exists'.mp hne
  exact h.2 u (c :: v) huv (by simp) ((fits _ _).mp ⟨rest, hrest⟩)

end

/-- An opening tag is found at the first place where one starts. -/
theorem exists_firstOf_openingTag {tag gap text : Text}
    (h : FirstBehind (StartsOpening tag) gap text) : ∃ body behind, body ++ behind = text ∧
      Shape.firstOf (openingTag tag) (gap ++ text) = some ⟨gap, body, behind⟩ := by
  obtain ⟨behind, hbehind⟩ : ∃ behind,
      openingTag tag (Shape.behind none gap) text = some behind := exists_openingTag.mpr h.1
  obtain ⟨body, rfl⟩ := openingTag_reads tag hbehind
  exact ⟨body, behind, rfl,
    firstOf_of_firstBehind (P := StartsOpening tag) (fun _ _ => exists_openingTag) h hbehind⟩

/-- A closing tag is found at the first place where one starts, and in its spelling. -/
theorem firstOf_closingTag_eq_some_iff {tag text inner closing rest : Text} :
    Shape.firstOf (closingTag tag) text = some ⟨inner, closing, rest⟩ ↔
      ∃ gap, (∀ c ∈ gap, isBlank c = true) ∧ closing = '<' :: '/' :: (tag ++ (gap ++ ['>'])) ∧
        text = inner ++ (closing ++ rest) ∧
        FirstBehind (StartsClosing tag) inner (closing ++ rest) := by
  constructor
  · intro h
    obtain ⟨htext, hfits, -⟩ := Shape.firstFrom_eq_some (closingTag_reads tag) h
    rw [closingTag_eq] at hfits
    obtain ⟨gap, c, hbody, hgap, hc⟩ := TagEnd.shape_eq_some.mp hfits
    obtain rfl : c = '>' := by simpa [closingEnd] using hc
    exact ⟨gap, hgap, (List.append_left_inj rest).mp (by simpa using hbody), htext,
      firstBehind_of_firstOf (closingTag_reads tag) (fun _ _ => exists_closingTag) h⟩
  · rintro ⟨gap, hgap, rfl, rfl, hfirst⟩
    refine firstOf_of_firstBehind (P := StartsClosing tag) (fun _ _ => exists_closingTag) hfirst ?_
    rw [closingTag_eq]
    exact TagEnd.shape_eq_some.mpr ⟨gap, '>', by simp, hgap, by decide⟩

/-- **The search for the next region finds it.** -/
theorem nextRegion_eq_some_iff {tag text gap region rest : Text} :
    nextRegion tag text = some ⟨gap, region, rest⟩ ↔ NextRegion tag text gap region rest := by
  constructor
  · intro h
    have hwhole := whole_of_nextRegion h
    rw [Passage.whole, List.append_assoc] at hwhole
    unfold nextRegion at h
    split at h
    · cases h
    rename_i opening hopening
    have hfirst := firstBehind_of_firstOf (openingTag_reads tag) (fun _ _ => exists_openingTag)
      hopening
    split at h
    · cases h
    rename_i whole behind hsplit
    obtain ⟨htext, hcloses⟩ := splitTag_eq_some_iff.mp hsplit
    split at h
    · rename_i hends
      cases h
      exact ⟨hwhole.symm, htext ▸ hfirst, .selfClosing hcloses (endsWith_iff.mp hends)⟩
    · rename_i hends
      split at h
      · cases h
      rename_i closing hclosing
      cases h
      obtain ⟨gap, hgap, hend, hbehind, hfirst'⟩ := firstOf_closingTag_eq_some_iff.mp hclosing
      rw [hend] at hbehind hfirst'
      rw [hend, List.append_assoc] at hwhole ⊢
      refine ⟨hwhole.symm, ?_, .paired hcloses (fun h => hends (endsWith_iff.mpr h)) hgap ?_⟩
      · rw [htext, hbehind] at hfirst
        simpa using hfirst
      · simpa using hfirst'
  · rintro ⟨rfl, hfirst, hends⟩
    obtain ⟨body, behind, hbody, hopening⟩ := exists_firstOf_openingTag hfirst
    unfold nextRegion
    rw [hopening]
    dsimp only
    rw [hbody]
    cases hends with
    | selfClosing closes ends =>
      rw [splitTag_eq_some_iff.mpr ⟨rfl, closes⟩]
      simp [endsWith_iff.mpr ends]
    | @paired whole inner blanks rest closes goesOn blank first =>
      have hclosing := firstOf_closingTag_eq_some_iff.mpr
        ⟨blanks, blank, rfl, rfl, by simpa using first⟩
      rw [List.append_assoc, splitTag_eq_some_iff.mpr ⟨rfl, closes⟩]
      simp only [List.append_assoc] at hclosing ⊢
      rw [if_neg fun h => goesOn (endsWith_iff.mp h), hclosing]

/-! ## Renaming in the gaps -/

/-- A text with the tags of one name renamed in the gaps between the exclusion regions. -/
inductive RenamedOutside (fromTag toTag exclusion : Text) : (text out : Text) → Prop where
  | noRegion {text out : Text}
      (none : ∀ gap region rest, ¬ NextRegion exclusion text gap region rest)
      (renamed : Retagged fromTag toTag text out) : RenamedOutside fromTag toTag exclusion text out
  | region {text gap gap' region rest rest' : Text}
      (next : NextRegion exclusion text gap region rest)
      (renamed : Retagged fromTag toTag gap gap')
      (later : RenamedOutside fromTag toTag exclusion rest rest') :
      RenamedOutside fromTag toTag exclusion text (gap' ++ (region ++ rest'))

variable {fromTag toTag exclusion : Text}

theorem nextRegion_eq_none_iff {tag text : Text} : nextRegion tag text = none ↔
    ∀ gap region rest, ¬ NextRegion tag text gap region rest := by
  constructor
  · intro h gap region rest hnext
    rw [nextRegion_eq_some_iff.mpr hnext] at h
    cases h
  · intro h
    by_contra hne
    obtain ⟨p, hp⟩ := Option.ne_none_iff_exists'.mp hne
    exact h _ _ _ (nextRegion_eq_some_iff.mp hp)

/-- Renaming around the regions follows the regions one by one. -/
theorem renamedOutside_renameAround (hfrom : IsTag fromTag) (hto : IsTag toTag)
    (exclusion text : Text) :
    RenamedOutside fromTag toTag exclusion text (renameAround fromTag toTag exclusion text) := by
  induction hlen : text.length using Nat.strongRecOn generalizing text with
  | ind n ih =>
  subst hlen
  cases hnext : nextRegion exclusion text with
  | none =>
    rw [renameAround_of_none hnext]
    exact .noRegion (nextRegion_eq_none_iff.mp hnext) ((retagged_iff hfrom hto).mpr rfl)
  | some p =>
    rw [renameAround_of_some hnext]
    exact .region (nextRegion_eq_some_iff.mp hnext) ((retagged_iff hfrom hto).mpr rfl)
      (ih _ (length_after_nextRegion hnext) _ rfl)

/-- There is one way to rename around the regions. -/
theorem RenamedOutside.eq_renameAround {text out : Text} (hfrom : IsTag fromTag)
    (hto : IsTag toTag) (h : RenamedOutside fromTag toTag exclusion text out) :
    out = renameAround fromTag toTag exclusion text := by
  induction h with
  | noRegion none renamed =>
    rw [renameAround_of_none (nextRegion_eq_none_iff.mpr none), (retagged_iff hfrom hto).mp renamed]
  | region next renamed _ ih =>
    rw [renameAround_of_some (nextRegion_eq_some_iff.mpr next), (retagged_iff hfrom hto).mp renamed,
      ih]

/-- **Hiding, renaming and putting back** is renaming region by region, and nothing else is. -/
theorem renameOutside_regionwise (hfrom : IsTag fromTag) (hto : IsTag toTag)
    (hexclusion : IsTag exclusion) {text : Text} (unmarked : ¬ mark <:+: text) (stamp : Nat)
    (out : Text) : RenamedOutside fromTag toTag exclusion text out ↔
      out = renameOutside stamp fromTag toTag exclusion text := by
  rw [renameOutside_eq hfrom hto hexclusion stamp unmarked]
  constructor
  · exact fun h => h.eq_renameAround hfrom hto
  · rintro rfl
    exact renamedOutside_renameAround hfrom hto exclusion text

/-- Links in front of, in and behind a region, and behind an opening tag that is never closed. -/
theorem renameOutside_regionwise_sample :
    RenamedOutside "a" "b" "s" "<a>x</a\n><s t='>'><a/></s ><s/><a></a><s><a>"
      "<b>x</b\n><s t='>'><a/></s ><s/><b></b><s><b>" :=
  (renameOutside_regionwise ⟨by decide, by decide⟩ ⟨by decide, by decide⟩ ⟨by decide, by decide⟩
    (by decide +kernel) 7 _).mpr (by decide +kernel)

end RouteLocalizer.Markup
