/-
  HIDING THE REGIONS of a text comes to an end, and takes the text apart without losing anything.

  Program: `mask` cuts the text into gaps and regions, finds a number for each region, and puts the
  placeholder of that number in the place of the region.

  Specification: two loops, one in the other.  A ROUND (`Round`) takes the next region behind the
  cursor, as `NextRegion` tells it by the characters alone, writes the gap in front of it and a
  placeholder, and goes on behind the region.  The placeholder is SEARCHED for (`Search`) among the
  numbers that were not tried yet: the first one whose placeholder is not in the text.

  1. The inner loop ends because no two placeholders start at the same place of a text
     (`index_unique`), so the text holds no more of them than it has characters
     (`length_le_of_present`).
  2. The outer loop ends because a region is not empty (`Round.cursor_lt`).  What it answers in the
     end is told from every state on the way (`Progress.answer`), and a round does not change it
     (`Round.answer_eq`).
  3. What the answer holds follows the regions one by one (`partition_mask`).
-/
import Mathlib.Data.List.Nodup
import Mathlib.Logic.Relation
import RouteLocalizer.Proofs.Outside

namespace RouteLocalizer

namespace Text

theorem ofNat_injective {m n : Nat} (h : ofNat m = ofNat n) : m = n := by
  have hvalue : ∀ k, Nat.ofDigitChars 10 (ofNat k) 0 = k := fun k =>
    Nat.ofDigitChars_toDigits (by decide) (by decide)
  rw [← hvalue m, ← hvalue n, h]

end Text

namespace Markup

open Text

variable {stamp : Nat} {tag text : Text}

/-! ## Placeholders in a text -/

/-- **Two placeholders that start at the same place** have the same number. -/
theorem index_unique {i j : Nat} (hi : placeholder stamp i <+: text)
    (hj : placeholder stamp j <+: text) : i = j := by
  obtain ⟨rest, rfl⟩ := hi
  obtain ⟨rest', h⟩ := hj
  rw [placeholder_parts, placeholder_parts, List.append_assoc, List.append_assoc] at h
  have hdigits : ofNat j ++ ('_' :: (ofNat stamp ++ ['_', '_']) ++ rest') =
      ofNat i ++ ('_' :: (ofNat stamp ++ ['_', '_']) ++ rest) := by
    simpa using List.append_cancel_left h
  have hdigit : ∀ {n : Nat}, ∀ c ∈ ofNat n, Char.isDigit c = true :=
    fun _ hc => isDigit_of_mem_ofNat hc
  exact ofNat_injective (word_unique hdigits hdigit hdigit rfl rfl).symm

theorem placeholder_ne_nil (stamp index : Nat) : placeholder stamp index ≠ [] := by
  intro h
  have := head?_placeholder stamp index
  rw [h] at this
  cases this

/-- **A text has no more placeholders than characters.** -/
theorem length_le_of_present {indices : List Nat} (distinct : indices.Nodup)
    (present : ∀ i ∈ indices, placeholder stamp i <:+: text) : indices.length ≤ text.length := by
  induction text generalizing indices with
  | nil =>
    cases indices with
    | nil => exact Nat.le_refl 0
    | cons i indices =>
      exact absurd (List.infix_nil.mp (present i (by simp))) (placeholder_ne_nil stamp i)
  | cons c cs ih =>
    by_cases hstart : ∃ i ∈ indices, placeholder stamp i <+: c :: cs
    · -- one placeholder starts with the first character, and the others stand behind it
      obtain ⟨i, hi, hprefix⟩ := hstart
      have hothers : ∀ j ∈ indices.erase i, placeholder stamp j <:+: cs := by
        intro j hj
        obtain ⟨hne, hmem⟩ := distinct.mem_erase_iff.mp hj
        rcases List.infix_cons_iff.mp (present j hmem) with h | h
        · exact absurd (index_unique h hprefix) hne
        · exact h
      have hle := ih (distinct.erase i) hothers
      rw [List.length_erase_of_mem hi] at hle
      have hpos : 0 < indices.length := List.length_pos_of_mem hi
      show indices.length ≤ cs.length + 1
      omega
    · have hothers : ∀ j ∈ indices, placeholder stamp j <:+: cs := by
        intro j hj
        rcases List.infix_cons_iff.mp (present j hj) with h | h
        · exact absurd ⟨j, hj, h⟩ hstart
        · exact h
      have hle := ih distinct hothers
      show indices.length ≤ cs.length + 1
      omega

/-! ## The search for a number -/

/-- The search for a number: from one number on to the first whose placeholder is not in the
    text. -/
inductive Search (stamp : Nat) (text : Text) : (index found : Nat) → Prop where
  | free {index : Nat} (absent : ¬ placeholder stamp index <:+: text) :
      Search stamp text index index
  | taken {index found : Nat} (present : placeholder stamp index <:+: text)
      (later : Search stamp text (index + 1) found) : Search stamp text index found

namespace Search

variable {index found : Nat}

theorem absent (h : Search stamp text index found) : ¬ placeholder stamp found <:+: text := by
  induction h with
  | free absent => exact absent
  | taken _ _ ih => exact ih

theorem le (h : Search stamp text index found) : index ≤ found := by
  induction h with
  | free => exact Nat.le_refl _
  | taken _ _ ih => omega

theorem unique {found' : Nat} (h : Search stamp text index found)
    (h' : Search stamp text index found') : found = found' := by
  induction h with
  | free absent =>
    cases h' with
    | free => rfl
    | taken present => exact absurd present absent
  | taken present _ ih =>
    cases h' with
    | free absent => exact absurd present absent
    | taken _ later => exact ih later

end Search

/-- Among as many numbers in a row as there are characters, and one more, there is one whose
    placeholder is not in the text. -/
theorem exists_absent (stamp : Nat) (text : Text) (index : Nat) :
    ∃ i, index ≤ i ∧ i ≤ index + text.length ∧ ¬ placeholder stamp i <:+: text := by
  by_contra hnone
  have hpresent : ∀ i ∈ List.range' index (text.length + 1), placeholder stamp i <:+: text := by
    intro i hi
    have hrange := List.mem_range'_1.mp hi
    by_contra habsent
    exact hnone ⟨i, hrange.1, by omega, habsent⟩
  have hle := length_le_of_present List.nodup_range' hpresent
  rw [List.length_range'] at hle
  omega

/-- The tries that are allowed are enough when one of them is free. -/
theorem search_freshIndex_of_absent {tries index : Nat}
    (h : ∃ i, index ≤ i ∧ i < index + tries ∧ ¬ placeholder stamp i <:+: text) :
    Search stamp text index (freshIndex text stamp tries index) ∧
      freshIndex text stamp tries index < index + tries := by
  induction tries generalizing index with
  | zero =>
    obtain ⟨i, hle, hlt, -⟩ := h
    omega
  | succ tries ih =>
    obtain ⟨i, hle, hlt, habsent⟩ := h
    rw [freshIndex]
    split
    · rename_i hcontains
      have hpresent := contains_iff.mp hcontains
      have hne : i ≠ index := by
        rintro rfl
        exact habsent hpresent
      have hlater : ∃ i, index + 1 ≤ i ∧ i < index + 1 + tries ∧
          ¬ placeholder stamp i <:+: text := ⟨i, by omega, by omega, habsent⟩
      obtain ⟨hsearch, hbound⟩ := ih hlater
      exact ⟨.taken hpresent hsearch, by omega⟩
    · rename_i hcontains
      refine ⟨.free fun hpresent => hcontains (contains_iff.mpr hpresent), by omega⟩

/-- **The search ends**, and after no more tries than the text has characters and one. -/
theorem search_freshIndex (stamp : Nat) (text : Text) (index : Nat) :
    Search stamp text index (freshIndex text stamp (text.length + 1) index) ∧
      freshIndex text stamp (text.length + 1) index ≤ index + text.length := by
  obtain ⟨i, hle, hbound, habsent⟩ := exists_absent stamp text index
  have hfree : ∃ i, index ≤ i ∧ i < index + (text.length + 1) ∧
      ¬ placeholder stamp i <:+: text := ⟨i, hle, by omega, habsent⟩
  obtain ⟨hsearch, hlt⟩ := search_freshIndex_of_absent hfree
  exact ⟨hsearch, by omega⟩

/-- The numbers of the regions grow, and none of their placeholders is in the text. -/
theorem freshIndices_spec (stamp : Nat) (text : Text) (regions index : Nat) :
    (freshIndices text stamp regions index).Pairwise (· < ·) ∧
      ∀ i ∈ freshIndices text stamp regions index,
        index ≤ i ∧ ¬ placeholder stamp i <:+: text := by
  induction regions generalizing index with
  | zero => exact ⟨.nil, by simp [freshIndices]⟩
  | succ regions ih =>
    obtain ⟨hsearch, -⟩ := search_freshIndex stamp text index
    obtain ⟨hpairwise, hall⟩ := ih (freshIndex text stamp (text.length + 1) index + 1)
    have hle := hsearch.le
    rw [freshIndices]
    constructor
    · rw [List.pairwise_cons]
      exact ⟨fun i hi => (hall i hi).1, hpairwise⟩
    · intro i hi
      rcases List.mem_cons.mp hi with rfl | hi
      · exact ⟨hle, hsearch.absent⟩
      · obtain ⟨hfrom, habsent⟩ := hall i hi
        exact ⟨by omega, habsent⟩

/-! ## Rounds -/

/-- How far the regions of a text are hidden. -/
structure Progress where
  /-- The text in front of the cursor. -/
  passed : Text := []
  /-- The text behind the cursor. -/
  rest : Text
  /-- What is written so far. -/
  masked : Text := []
  /-- The regions hidden so far. -/
  hidden : List Masked := []
  /-- The first number that was not tried. -/
  index : Nat := 0

/-- The byte offset of the cursor. -/
def Progress.cursor (s : Progress) : Nat := s.passed.byteSize

/-- One round: the next region goes behind the first placeholder that is not in the text. -/
inductive Round (stamp : Nat) (tag text : Text) : Progress → Progress → Prop where
  | hide {s : Progress} {gap region rest : Text} {i : Nat}
      (next : NextRegion tag s.rest gap region rest) (free : Search stamp text s.index i) :
      Round stamp tag text s
        { passed := s.passed ++ (gap ++ region)
          rest := rest
          masked := s.masked ++ (gap ++ placeholder stamp i)
          hidden := s.hidden ++ [⟨placeholder stamp i, region⟩]
          index := i + 1 }

/-- Rounds, one after another. -/
abbrev Rounds (stamp : Nat) (tag text : Text) : Progress → Progress → Prop :=
  Relation.ReflTransGen (Round stamp tag text)

/-- What hiding answers in the end, told from a state on the way. -/
def Progress.answer (stamp : Nat) (tag text : Text) (s : Progress) : Text × List Masked :=
  let regions := cutRegions tag s.rest
  let names := (freshIndices text stamp regions.cuts.length s.index).map (placeholder stamp)
  (s.masked ++ maskedText ((regions.cuts.map Prod.fst).zip names) regions.tail,
    s.hidden ++
      (names.zip (regions.cuts.map Prod.snd)).map fun (name, region) => ⟨name, region⟩)

theorem NextRegion.region_ne_nil {gap region rest : Text}
    (h : NextRegion tag text gap region rest) : region ≠ [] := by
  intro hnil
  cases h.ends with
  | selfClosing closes =>
    obtain ⟨inner, hinner, -⟩ := closes
    simp [hnil] at hinner
  | paired closes => simp at hnil

variable {s s' : Progress}

namespace Round

/-- A round keeps the text and moves the cursor on. -/
theorem cursor_lt (h : Round stamp tag text s s') :
    s'.passed ++ s'.rest = s.passed ++ s.rest ∧ s.cursor < s'.cursor := by
  cases h with
  | @hide gap region rest i next free =>
    have hpos := byteSize_pos next.region_ne_nil
    refine ⟨by simp [next.whole], ?_⟩
    simp only [Progress.cursor, byteSize_append]
    omega

/-- **A round does not change the answer** that is still to come. -/
theorem answer_eq (h : Round stamp tag text s s') :
    s.answer stamp tag text = s'.answer stamp tag text := by
  cases h with
  | @hide gap region rest i next free =>
    have hcut := cutRegions_of_some (nextRegion_eq_some_iff.mpr next)
    obtain rfl := (search_freshIndex stamp text s.index).1.unique free
    simp only [Progress.answer, hcut, List.length_cons, freshIndices, List.map_cons,
      List.zip_cons_cons, maskedText, List.append_assoc, List.cons_append, List.nil_append]

end Round

/-- What rounds keep and how the cursor moves. -/
theorem Rounds.whole (h : Rounds stamp tag text s s') :
    s'.passed ++ s'.rest = s.passed ++ s.rest := by
  induction h with
  | refl => rfl
  | tail _ round ih => rw [round.cursor_lt.1, ih]

theorem Rounds.answer_eq (h : Rounds stamp tag text s s') :
    s.answer stamp tag text = s'.answer stamp tag text := by
  induction h with
  | refl => rfl
  | tail _ round ih => rw [ih, round.answer_eq]

/-- A state behind which there is no further round. -/
def Progress.IsLast (stamp : Nat) (tag text : Text) (s : Progress) : Prop :=
  ∀ s', ¬ Round stamp tag text s s'

/-- A round is possible exactly as long as there is a next region. -/
theorem isLast_iff : s.IsLast stamp tag text ↔ nextRegion tag s.rest = none := by
  rw [nextRegion_eq_none_iff]
  constructor
  · intro hlast gap region rest hnext
    exact hlast _ (.hide hnext (search_freshIndex stamp text s.index).1)
  · rintro hnone s' ⟨hnext, -⟩
    exact hnone _ _ _ hnext

theorem Progress.IsLast.answer_eq (h : s.IsLast stamp tag text) :
    s.answer stamp tag text = (s.masked ++ s.rest, s.hidden) := by
  simp only [Progress.answer, cutRegions_of_none (isLast_iff.mp h), freshIndices, maskedText,
    List.map_nil, List.zip_nil_left, List.append_nil, List.length_nil]

/-- **The rounds end.** -/
theorem exists_last (stamp : Nat) (tag text : Text) (s : Progress) :
    ∃ s', Rounds stamp tag text s s' ∧ s'.IsLast stamp tag text := by
  -- on the length of what is behind the cursor
  induction hlen : s.rest.length using Nat.strongRecOn generalizing s with
  | ind n ih =>
  subst hlen
  cases hnext : nextRegion tag s.rest with
  | none => exact ⟨s, .refl, isLast_iff.mpr hnext⟩
  | some p =>
    obtain ⟨next, hround, hnextRest⟩ : ∃ next, Round stamp tag text s next ∧ next.rest = p.after :=
      ⟨_, .hide (nextRegion_eq_some_iff.mp hnext) (search_freshIndex stamp text s.index).1, rfl⟩
    have hshorter : next.rest.length < s.rest.length := by
      rw [hnextRest]
      exact length_after_nextRegion hnext
    obtain ⟨s', hrounds, hlast⟩ := ih next.rest.length hshorter next rfl
    exact ⟨s', .head hround hrounds, hlast⟩

/-! ## What the answer holds -/

/-- The regions of a cut text as passages of it; `front` stands in front of the first gap. -/
def places (front : Text) : List (Text × Text) → Text → List Passage
  | [], _ => []
  | (gap, region) :: cuts, tail =>
    ⟨front ++ gap, region, maskedText cuts tail⟩ :: places (front ++ (gap ++ region)) cuts tail

theorem whole_of_mem_places {front tail : Text} {cuts : List (Text × Text)} {p : Passage}
    (h : p ∈ places front cuts tail) : p.whole = front ++ maskedText cuts tail := by
  induction cuts generalizing front with
  | nil => cases h
  | cons cut cuts ih =>
    obtain ⟨gap, region⟩ := cut
    rcases List.mem_cons.mp h with rfl | h
    · simp [Passage.whole, maskedText]
    · rw [ih h]
      simp [maskedText]

theorem le_of_mem_places {front tail : Text} {cuts : List (Text × Text)} {p : Passage}
    (h : p ∈ places front cuts tail) : front.byteSize ≤ p.span.1 := by
  induction cuts generalizing front with
  | nil => cases h
  | cons cut cuts ih =>
    obtain ⟨gap, region⟩ := cut
    rcases List.mem_cons.mp h with rfl | h
    · simp [Passage.span]
    · have := ih h
      simp only [byteSize_append] at this
      omega

/-- Regions stand one behind another. -/
theorem pairwise_places (front : Text) (cuts : List (Text × Text)) (tail : Text) :
    (places front cuts tail).Pairwise fun p q => p.span.2 ≤ q.span.1 := by
  induction cuts generalizing front with
  | nil => exact .nil
  | cons cut cuts ih =>
    obtain ⟨gap, region⟩ := cut
    rw [places, List.pairwise_cons]
    refine ⟨fun q hq => ?_, ih _⟩
    have := le_of_mem_places hq
    simp only [Passage.span, byteSize_append] at this ⊢
    omega

theorem body_places (front : Text) (cuts : List (Text × Text)) (tail : Text) :
    (places front cuts tail).map Passage.body = cuts.map Prod.snd := by
  induction cuts generalizing front with
  | nil => rfl
  | cons cut cuts ih =>
    obtain ⟨gap, region⟩ := cut
    simp only [places, List.map_cons, ih]

/-- The gaps and regions of a text put together again are the text. -/
theorem maskedText_cutRegions (tag text : Text) :
    maskedText (cutRegions tag text).cuts (cutRegions tag text).tail = text := by
  induction hlen : text.length using Nat.strongRecOn generalizing text with
  | ind n ih =>
  subst hlen
  cases hnext : nextRegion tag text with
  | none =>
    rw [cutRegions_of_none hnext]
    rfl
  | some p =>
    rw [cutRegions_of_some hnext]
    show p.before ++ p.body ++ maskedText _ _ = text
    rw [ih _ (length_after_nextRegion hnext) p.after rfl]
    exact whole_of_nextRegion hnext

/-- Each cut of a text is the next region of what is behind the ones in front of it. -/
theorem nextRegion_of_mem_cuts {cut : Text × Text} (h : cut ∈ (cutRegions tag text).cuts) :
    ∃ behind rest, NextRegion tag behind cut.1 cut.2 rest := by
  induction hlen : text.length using Nat.strongRecOn generalizing text with
  | ind n ih =>
  subst hlen
  cases hnext : nextRegion tag text with
  | none =>
    rw [cutRegions_of_none hnext] at h
    cases h
  | some p =>
    rw [cutRegions_of_some hnext] at h
    rcases List.mem_cons.mp h with rfl | h
    · exact ⟨text, p.after, nextRegion_eq_some_iff.mp hnext⟩
    · exact ih _ (length_after_nextRegion hnext) h rfl

/-- The names that a text gives to so many regions. -/
def freshNames (text : Text) (stamp regions : Nat) : List Text :=
  (freshIndices text stamp regions 0).map (placeholder stamp)

theorem length_freshNames (text : Text) (stamp regions : Nat) :
    (freshNames text stamp regions).length = regions := by
  rw [freshNames, List.length_map, length_freshIndices]

/-- **No two regions get one name.** -/
theorem nodup_freshNames (text : Text) (stamp regions : Nat) :
    (freshNames text stamp regions).Nodup := by
  have hinjective : Function.Injective (placeholder stamp) := by
    intro i j h
    have hj : placeholder stamp j <+: placeholder stamp i := h ▸ List.prefix_refl _
    exact index_unique (List.prefix_refl _) hj
  have hgrow := (freshIndices_spec stamp text regions 0).1
  have hdistinct : (freshIndices text stamp regions 0).Nodup :=
    hgrow.imp fun hlt => Nat.ne_of_lt hlt
  exact List.Nodup.map hinjective hdistinct

theorem fresh_of_mem_freshNames {regions : Nat} {name : Text}
    (h : name ∈ freshNames text stamp regions) : ¬ name <:+: text := by
  obtain ⟨i, hi, rfl⟩ := List.mem_map.mp h
  exact ((freshIndices_spec stamp text regions 0).2 i hi).2

/-- What is hidden are the names and the regions, side by side. -/
theorem mask_hidden (stamp : Nat) (tag text : Text) :
    (mask stamp tag text).2.map Masked.placeholder =
        freshNames text stamp (cutRegions tag text).cuts.length ∧
      (mask stamp tag text).2.map Masked.region = (cutRegions tag text).cuts.map Prod.snd := by
  have hlen : (freshNames text stamp (cutRegions tag text).cuts.length).length =
      ((cutRegions tag text).cuts.map Prod.snd).length := by
    rw [length_freshNames, List.length_map]
  have hhidden : (mask stamp tag text).2 =
      ((freshNames text stamp (cutRegions tag text).cuts.length).zip
        ((cutRegions tag text).cuts.map Prod.snd)).map fun (name, region) => ⟨name, region⟩ := rfl
  rw [hhidden, List.map_map, List.map_map]
  exact ⟨List.map_fst_zip hlen.le, List.map_snd_zip hlen.ge⟩

/-- A text in gaps and regions, and the masked text with the placeholders in their places. -/
structure Partition (text masked : Text) (gaps : List Text) (hidden : List Masked)
    (tail : Text) : Prop where
  /-- There is a gap in front of each region. -/
  length : gaps.length = hidden.length
  whole : maskedText (gaps.zip (hidden.map Masked.region)) tail = text
  masked : maskedText (gaps.zip (hidden.map Masked.placeholder)) tail = masked
  /-- The places of the regions are passages of the text, none of them empty. -/
  places : (places [] (gaps.zip (hidden.map Masked.region)) tail).map Passage.body =
      hidden.map Masked.region ∧
    ∀ p ∈ places [] (gaps.zip (hidden.map Masked.region)) tail,
      p.whole = text ∧ p.span.1 < p.span.2
  /-- They stand one behind another. -/
  ordered : (Markup.places [] (gaps.zip (hidden.map Masked.region)) tail).Pairwise
    fun p q => p.span.2 ≤ q.span.1
  distinct : (hidden.map Masked.placeholder).Nodup
  fresh : ∀ m ∈ hidden, ¬ m.placeholder <:+: text

theorem partition_mask (stamp : Nat) (tag text : Text) :
    Partition text (mask stamp tag text).1 ((cutRegions tag text).cuts.map Prod.fst)
      (mask stamp tag text).2 (cutRegions tag text).tail := by
  obtain ⟨hnames, hregions⟩ := mask_hidden stamp tag text
  have hcuts : ((cutRegions tag text).cuts.map Prod.fst).zip
      ((cutRegions tag text).cuts.map Prod.snd) = (cutRegions tag text).cuts :=
    (List.zip_of_prod rfl rfl).symm
  constructor
  · have hlen := congrArg List.length hregions
    simp only [List.length_map] at hlen ⊢
    exact hlen.symm
  · rw [hregions, hcuts, maskedText_cutRegions]
  · rw [hnames]
    rfl
  · rw [hregions, hcuts]
    refine ⟨body_places _ _ _, fun p hp => ⟨?_, ?_⟩⟩
    · rw [whole_of_mem_places hp, List.nil_append, maskedText_cutRegions]
    · have hbody : p.body ∈ (cutRegions tag text).cuts.map Prod.snd := by
        rw [← body_places [] _ (cutRegions tag text).tail]
        exact List.mem_map_of_mem hp
      obtain ⟨cut, hcut, heq⟩ := List.mem_map.mp hbody
      obtain ⟨_, _, hregion⟩ := nextRegion_of_mem_cuts hcut
      have hpos := byteSize_pos hregion.region_ne_nil
      rw [heq] at hpos
      show p.before.byteSize < p.before.byteSize + p.body.byteSize
      omega
  · exact pairwise_places _ _ _
  · rw [hnames]
    exact nodup_freshNames _ _ _
  · intro m hm
    have hname : m.placeholder ∈ freshNames text stamp (cutRegions tag text).cuts.length := by
      rw [← hnames]
      exact List.mem_map_of_mem hm
    exact fresh_of_mem_freshNames hname

/-- **Hiding ends and takes the text apart.**  Each search finds a number after no more tries than
    the text has characters and one; each round moves the cursor on within the text; the rounds
    end, and what the last one leaves is the answer: the gaps with the regions are the text, the
    gaps with the placeholders are the masked text, and the placeholders are new and distinct. -/
theorem mask_ends (stamp : Nat) (tag text : Text) :
    (∀ index, ∃ found, Search stamp text index found ∧ found ≤ index + text.length) ∧
      (∀ s s', Rounds stamp tag text { rest := text } s → Round stamp tag text s s' →
        s.cursor < s'.cursor ∧ s'.cursor ≤ text.byteSize) ∧
      (∃ s, Rounds stamp tag text { rest := text } s ∧ s.IsLast stamp tag text) ∧
      (∀ s, Rounds stamp tag text { rest := text } s → s.IsLast stamp tag text →
        mask stamp tag text = (s.masked ++ s.rest, s.hidden)) ∧
      ∃ gaps tail,
        Partition text (mask stamp tag text).1 gaps (mask stamp tag text).2 tail := by
  refine ⟨fun index => ⟨_, search_freshIndex stamp text index⟩, ?_, exists_last _ _ _ _, ?_,
    _, _, partition_mask stamp tag text⟩
  · intro s s' hrounds hround
    have hwhole : s'.passed ++ s'.rest = text := Rounds.whole (hrounds.tail hround)
    refine ⟨hround.cursor_lt.2, ?_⟩
    rw [← hwhole, byteSize_append]
    exact Nat.le_add_right _ _
  · intro s hrounds hlast
    have hstart : mask stamp tag text = Progress.answer stamp tag text { rest := text } := rfl
    rw [hstart, Rounds.answer_eq hrounds, hlast.answer_eq]

/-- A text that holds the placeholder of the first number: two regions get the next ones. -/
example : (mask 7 "s" "a<s/>__lang_router_excluded_0_7__<s>b</s >").2.map Masked.placeholder =
    ["__lang_router_excluded_1_7__".toList, "__lang_router_excluded_2_7__".toList] := by
  decide +kernel

end Markup

end RouteLocalizer
