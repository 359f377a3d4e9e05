/-
  EXCLUSION REGIONS: renaming around them is renaming gap by gap.

  PROGRAM: `nextRegion` searches for the next opening tag of the exclusion name and cuts its element
  out, up to the closing tag or to the end of the tag itself; `cutRegions` cuts until there is none.
  SPECIFICATION:
  (1) `IsRegion` — a region is told by itself: where it starts and ends does not depend on what
      stands around it;
  (2) `isRegion_of_nextRegion`, `nextRegion_of_isRegion` — the search finds a region behind a text
      without an opening tag of its name, and only there;
  (3) `renameAround` — a text is gap, region, gap, region, …, and the gaps are renamed;
      `renameAround_renameAround` says that doing it again changes nothing.

  The pass renames through placeholders.  A text without the placeholders' mark gives them no chance
  to be taken for anything else, and there the detour cannot be seen (`renameOutside_eq`); here the
  regions are only cut.
-/
import RouteLocalizer.Markup.Region
import RouteLocalizer.Proofs.Tags

namespace RouteLocalizer.Markup

open Text

variable {tag : Text}

/-! ## The first tag of a name -/

/-- A tag that is the first of its name is found, whatever stands behind it. -/
theorem firstOf_shape {e : TagEnd} {name u gap rest : Text} {c : Char} (hname : e.Names name)
    (hu : e.Free name u) (hgap : ∀ d ∈ gap, e.gap d = true) (hc : e.stop c = true) :
    Shape.firstOf (e.shape name) (u ++ '<' :: (name ++ (gap ++ c :: rest))) =
      some ⟨u, '<' :: (name ++ (gap ++ [c])), rest⟩ := by
  have hsplit : '<' :: (name ++ (gap ++ c :: rest)) = '<' :: (name ++ (gap ++ [c])) ++ rest := by
    simp
  rw [hsplit]
  refine Shape.firstFrom_of_fits ?_ fun before d after hbefore => ?_
  · rw [← hsplit]
    exact TagEnd.shape_eq_some.mpr ⟨gap, c, rfl, hgap, hc⟩
  · refine TagEnd.shape_eq_none fun cs hcs => ?_
    rw [← hsplit, List.cons_append] at hcs
    obtain ⟨hd, htail⟩ := List.cons.inj hcs
    subst hd
    obtain ⟨z, rfl, rfl⟩ := exists_of_cut hname.plain.1 htail
    rw [TagEnd.fits_append_cons e.bracket]
    exact hu before z (by rw [hbefore])

/-- In front of the first tag of a name there is none. -/
theorem free_of_firstOf {e : TagEnd} {name text : Text} {p : Passage}
    (h : Shape.firstOf (e.shape name) text = some p) :
    text = p.before ++ (p.body ++ p.after) ∧ e.Free name p.before ∧
      ∃ gap c, p.body = '<' :: (name ++ (gap ++ [c])) ∧ (∀ d ∈ gap, e.gap d = true) ∧
        e.stop c = true := by
  have reads : (e.shape name).Reads := .literal _ (.run _ (.one _ .finish))
  obtain ⟨htext, hfits, hearlier⟩ := Shape.firstFrom_eq_some reads h
  obtain ⟨gap, c, hbody, hgap, hc⟩ := TagEnd.shape_eq_some.mp hfits
  refine ⟨htext, fun u v huv => ?_, gap, c, ?_, hgap, hc⟩
  · by_contra hv
    have hv : e.fits (v ++ (p.body ++ p.after)) = true :=
      TagEnd.fits_append_of_fits (by simpa using hv) _
    obtain ⟨gap', c', rest, hsplit, hgap', hc'⟩ := TagEnd.fits_iff.mp hv
    have hnone := hearlier u '<' (name ++ v) huv
    rw [List.cons_append, List.append_assoc, hsplit,
      TagEnd.shape_eq_some.mpr ⟨gap', c', rfl, hgap', hc'⟩] at hnone
    cases hnone
  · exact (List.append_left_inj p.after).mp (by simpa using hbody)

/-- A closing tag reads up to its bracket and no further. -/
theorem closingTag_stopsAt (htag : IsTag tag) : (closingTag tag).StopsAt '>' := by
  intro last text rest h
  rw [closingTag_eq] at h ⊢
  obtain ⟨gap, c, rfl, hgap, hc⟩ := TagEnd.shape_eq_some.mp h
  obtain rfl : c = '>' := by simpa [closingEnd] using hc
  have hplain : '>' ∉ gap := fun hmem => absurd (hgap _ hmem) (by decide)
  refine ⟨'<' :: ('/' :: tag ++ gap), by simp, ?_, fun rest' => ?_⟩
  · simp [htag.plain.2.1, hplain]
  · exact TagEnd.shape_eq_some.mpr ⟨gap, '>', by simp, hgap, hc⟩

/-! ## Splitting a tag -/

/-- A tag ends where it ends, whatever stands behind it. -/
theorem splitTag_append {quote : Option Char} {text whole rest : Text}
    (h : splitTag quote text = some (whole, rest)) (rest' : Text) :
    splitTag quote (whole ++ rest') = some (whole, rest') := by
  induction text generalizing quote whole with
  | nil => cases h
  | cons c cs ih =>
    have more : ∀ {q}, (splitTag q cs).map (fun (p : Text × Text) => (c :: p.1, p.2)) =
        some (whole, rest) → ∃ tail, whole = c :: tail ∧
          splitTag q (tail ++ rest') = some (tail, rest') := by
      intro q hq
      obtain ⟨⟨tail, rest''⟩, htail, heq⟩ := Option.map_eq_some_iff.mp hq
      cases heq
      exact ⟨tail, rfl, ih htail⟩
    simp only [splitTag] at h
    split at h
    · split at h <;> obtain ⟨tail, rfl, htail⟩ := more h <;> simp [splitTag, *]
    · split at h
      · obtain ⟨tail, rfl, htail⟩ := more h
        simp [splitTag, *]
      · split at h
        · cases h
          simp [splitTag, *]
        · obtain ⟨tail, rfl, htail⟩ := more h
          simp [splitTag, *]

/-- A tag ends with its closing bracket. -/
theorem getLast?_of_splitTag {quote : Option Char} {text whole rest : Text}
    (h : splitTag quote text = some (whole, rest)) : whole.getLast? = some '>' := by
  induction text generalizing quote whole with
  | nil => cases h
  | cons c cs ih =>
    have more : ∀ {q}, (splitTag q cs).map (fun (p : Text × Text) => (c :: p.1, p.2)) =
        some (whole, rest) → whole.getLast? = some '>' := by
      intro q hq
      obtain ⟨⟨tail, rest''⟩, htail, heq⟩ := Option.map_eq_some_iff.mp hq
      cases heq
      rw [List.getLast?_cons, ih htail]
      rfl
    simp only [splitTag] at h
    split at h
    · split at h <;> exact more h
    · split at h
      · exact more h
      · split at h
        · rename_i hc
          cases h
          simp [hc]
        · exact more h

/-! ## Regions -/

/-- An exclusion region: a tag that closes itself, or a pair of tags and what is between them. -/
inductive IsRegion (tag : Text) : Text → Prop where
  | closed {name whole : Text} (starts : whole = '<' :: (tag ++ name))
      (fits : openingEnd.fits name = true) (split : splitTag none whole = some (whole, []))
      (ends : endsWith ['/', '>'] whole = true) : IsRegion tag whole
  | paired {name whole inner closing : Text} (starts : whole = '<' :: (tag ++ name))
      (fits : openingEnd.fits name = true) (split : splitTag none whole = some (whole, []))
      (ends : endsWith ['/', '>'] whole = false)
      (pair : Shape.firstOf (closingTag tag) (inner ++ closing) = some ⟨inner, closing, []⟩) :
      IsRegion tag (whole ++ (inner ++ closing))

namespace IsRegion

variable {body : Text}

/-- A region starts with an opening tag, ... -/
theorem starts (h : IsRegion tag body) :
    ∃ name, body = '<' :: (tag ++ name) ∧ openingEnd.fits name = true := by
  cases h with
  | closed starts fits => exact ⟨_, starts, fits⟩
  | paired starts fits =>
    exact ⟨_, by rw [starts, List.cons_append, List.append_assoc],
      TagEnd.fits_append_of_fits fits _⟩

/-- ... and ends with a bracket. -/
theorem getLast? (htag : IsTag tag) (h : IsRegion tag body) : body.getLast? = some '>' := by
  cases h with
  | closed _ _ split => exact getLast?_of_splitTag split
  | @paired _ whole inner closing _ _ _ _ pair =>
    obtain ⟨-, hfits, -⟩ := Shape.firstFrom_eq_some (closingTag_reads tag) pair
    obtain ⟨front, hfront, -, -⟩ := closingTag_stopsAt htag hfits
    obtain rfl : closing = front ++ ['>'] := by simpa using hfront
    rw [← List.append_assoc, ← List.append_assoc, List.getLast?_concat]

end IsRegion

/-- A tag starts with its name, since the bracket that closes it stands behind the name. -/
theorem exists_name_of_splitTag (htag : IsTag tag) {cs whole rest : Text}
    (hfits : openingEnd.fits cs = true)
    (hsplit : splitTag none ('<' :: (tag ++ cs)) = some (whole, rest)) :
    ∃ name, whole = '<' :: (tag ++ name) ∧ openingEnd.fits name = true := by
  have hlast := List.mem_of_getLast? (getLast?_of_splitTag hsplit)
  have hplain : '>' ∉ '<' :: tag := by simpa using htag.plain.2.1
  have happend : whole ++ rest = ('<' :: tag) ++ cs := by
    rw [append_of_splitTag hsplit, List.cons_append]
  rcases List.append_eq_append_iff.mp happend with ⟨z, hz, -⟩ | ⟨name, hname, hrest⟩
  · rw [hz] at hplain
    exact absurd (List.mem_append_left z hlast) hplain
  · rw [hrest] at hfits
    cases name with
    | nil =>
      rw [hname, List.append_nil] at hlast
      exact absurd hlast hplain
    | cons d name =>
      rw [TagEnd.fits_append ⟨d, by simp, rfl⟩] at hfits
      exact ⟨d :: name, by simpa using hname, hfits⟩

/-- The first region of a text is told by itself, and no excluded tag opens in front of it. -/
theorem isRegion_of_nextRegion (htag : IsTag tag) {text : Text} {p : Passage}
    (h : nextRegion tag text = some p) :
    IsRegion tag p.body ∧ text = p.before ++ (p.body ++ p.after) ∧
      openingEnd.Free tag p.before := by
  have hwhole := whole_of_nextRegion h
  rw [Passage.whole, List.append_assoc] at hwhole
  unfold nextRegion at h
  split at h
  · cases h
  rename_i opening hopening
  rw [openingTag_eq] at hopening
  obtain ⟨-, hfree, gap, c, hbody, hgap, hc⟩ := free_of_firstOf hopening
  split at h
  · cases h
  rename_i whole rest hsplit
  have htext : opening.body ++ opening.after = '<' :: (tag ++ (gap ++ c :: opening.after)) := by
    simp [hbody]
  rw [htext] at hsplit
  obtain ⟨name, hname, hfits⟩ := exists_name_of_splitTag htag
    (TagEnd.fits_iff.mpr ⟨gap, c, opening.after, rfl, hgap, hc⟩) hsplit
  have hself := splitTag_append hsplit []
  rw [List.append_nil] at hself
  split at h
  · rename_i hends
    cases h
    exact ⟨.closed hname hfits hself hends, hwhole.symm, hfree⟩
  · rename_i hends
    split at h
    · cases h
    · rename_i closing hclosing
      cases h
      have hpair := Shape.firstOf_of_stopsAt (closingTag_reads tag) (closingTag_stopsAt htag)
        hclosing []
      rw [List.append_nil] at hpair
      rw [List.append_assoc] at hwhole ⊢
      exact ⟨.paired hname hfits hself (by simpa using hends) hpair, hwhole.symm, hfree⟩

/-- **A region is the first one** wherever no excluded tag opens in front of it. -/
theorem nextRegion_of_isRegion (htag : IsTag tag) {u body : Text} (hu : openingEnd.Free tag u)
    (h : IsRegion tag body) (v : Text) :
    nextRegion tag (u ++ (body ++ v)) = some ⟨u, body, v⟩ := by
  obtain ⟨name, hbody, hfits⟩ := h.starts
  obtain ⟨gap, c, rest, hname, hgap, hc⟩ := TagEnd.fits_iff.mp hfits
  have hopening : Shape.firstOf (openingTag tag) (u ++ (body ++ v)) =
      some ⟨u, '<' :: (tag ++ (gap ++ [c])), rest ++ v⟩ := by
    have hsplit : body ++ v = '<' :: (tag ++ (gap ++ c :: (rest ++ v))) := by
      rw [hbody, hname]
      simp
    rw [openingTag_eq, hsplit]
    exact firstOf_shape htag.opening hu hgap hc
  have hback : '<' :: (tag ++ (gap ++ [c])) ++ (rest ++ v) = body ++ v := by
    rw [hbody, hname]
    simp
  unfold nextRegion
  rw [hopening]
  dsimp only
  rw [hback]
  cases h with
  | closed _ _ split ends => rw [splitTag_append split v]; simp [ends]
  | paired _ _ split ends pair =>
    have hclosing := Shape.firstOf_of_stopsAt (closingTag_reads tag) (closingTag_stopsAt htag)
      pair v
    rw [List.append_assoc, splitTag_append split, List.append_assoc]
    dsimp only at hclosing ⊢
    rw [hclosing]
    simp [ends]

/-- Without an opening tag there is no region. -/
theorem nextRegion_of_free {text : Text} (h : openingEnd.Free tag text) :
    nextRegion tag text = none := by
  have hnone := hasOpeningTag_eq_false.mpr h
  rw [hasOpeningTag, Shape.occursIn, Option.isSome_eq_false_iff, Option.isNone_iff_eq_none]
    at hnone
  simp [nextRegion, hnone]

/-! ## Renaming gap by gap -/

/-- Gaps and regions put together again, each gap as `f` makes it. -/
def assemble (f : Text → Text) : List (Text × Text) → Text → Text
  | [], tail => f tail
  | (gap, region) :: cuts, tail => f gap ++ (region ++ assemble f cuts tail)

/-- The text with the tags renamed in all gaps between the regions. -/
def renameAround (fromTag toTag exclusion text : Text) : Text :=
  let regions := cutRegions exclusion text
  assemble (rename fromTag toTag) regions.cuts regions.tail

variable {fromTag toTag exclusion : Text}

/-- A text without a region is one gap. -/
theorem cutRegions_of_none {text : Text} (h : nextRegion exclusion text = none) :
    cutRegions exclusion text = ⟨[], text⟩ := by
  rw [cutRegions]
  split
  · rfl
  · rename_i p hp
    rw [h] at hp
    cases hp

/-- The first gap and the first region, and what is cut behind them. -/
theorem cutRegions_of_some {text : Text} {p : Passage} (h : nextRegion exclusion text = some p) :
    cutRegions exclusion text = ⟨(p.before, p.body) :: (cutRegions exclusion p.after).cuts,
      (cutRegions exclusion p.after).tail⟩ := by
  rw [cutRegions]
  split
  · rename_i hp
    rw [h] at hp
    cases hp
  · rename_i q hq
    rw [h] at hq
    cases hq
    rfl

/-- A text without a region is renamed as a whole, ... -/
theorem renameAround_of_none {text : Text} (h : nextRegion exclusion text = none) :
    renameAround fromTag toTag exclusion text = rename fromTag toTag text := by
  rw [renameAround, cutRegions_of_none h]
  rfl

/-- ... and one with a region up to it and behind it. -/
theorem renameAround_of_some {text : Text} {p : Passage} (h : nextRegion exclusion text = some p) :
    renameAround fromTag toTag exclusion text = rename fromTag toTag p.before ++
      (p.body ++ renameAround fromTag toTag exclusion p.after) := by
  rw [renameAround, cutRegions_of_some h]
  rfl

/-- The tags that take part in a renaming. -/
structure TagNames (fromTag toTag exclusion : Text) : Prop where
  link : IsTag fromTag
  localized : IsTag toTag
  excluded : IsTag exclusion
  renamed : fromTag ≠ toTag
  apart : exclusion ≠ toTag

/-- What is untagged stays as it is, wherever its regions are. -/
theorem renameAround_of_untagged (h : TagNames fromTag toTag exclusion) {text : Text}
    (hfree : Untagged fromTag text) : renameAround fromTag toTag exclusion text = text := by
  induction hlen : text.length using Nat.strongRecOn generalizing text with
  | ind n ih =>
  subst hlen
  cases hnext : nextRegion exclusion text with
  | none => rw [renameAround_of_none hnext, rename_of_untagged h.localized hfree]
  | some p =>
    obtain ⟨-, htext, -⟩ := isRegion_of_nextRegion h.excluded hnext
    have hlater : p.after <:+ text := by
      rw [htext, ← List.append_assoc]
      exact List.suffix_append _ _
    rw [renameAround_of_some hnext, rename_of_untagged h.localized (htext ▸ hfree).left,
      ih _ (length_after_nextRegion hnext) (hfree.suffix hlater) rfl, ← htext]

/-- **Renaming around the regions twice** is renaming once. -/
theorem renameAround_renameAround (h : TagNames fromTag toTag exclusion) (text : Text) :
    renameAround fromTag toTag exclusion (renameAround fromTag toTag exclusion text) =
      renameAround fromTag toTag exclusion text := by
  induction hlen : text.length using Nat.strongRecOn generalizing text with
  | ind n ih =>
  subst hlen
  cases hnext : nextRegion exclusion text with
  | none =>
    rw [renameAround_of_none hnext]
    exact renameAround_of_untagged h (untagged_rename h.link h.localized h.renamed text)
  | some p =>
    obtain ⟨hregion, -, hfree⟩ := isRegion_of_nextRegion h.excluded hnext
    rw [renameAround_of_some hnext]
    have hrenamed : openingEnd.Free exclusion (rename fromTag toTag p.before) :=
      free_rename h.excluded h.localized h.apart hfree
    have hagain := nextRegion_of_isRegion h.excluded hrenamed hregion
      (renameAround fromTag toTag exclusion p.after)
    rw [renameAround_of_some hagain]
    dsimp only
    rw [ih _ (length_after_nextRegion hnext) _ rfl, rename_of_untagged h.localized
      (untagged_rename h.link h.localized h.renamed p.before)]

end RouteLocalizer.Markup
