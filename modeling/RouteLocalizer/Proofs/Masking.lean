/-
  PLACEHOLDERS cannot be seen: hiding the regions, renaming and putting the regions back is renaming
  around the regions.

  A placeholder overlaps itself in one or two underscores and in no more (`overlap_le_two`): the
  mark that all placeholders start with overlaps itself in one underscore only, and behind the mark
  there is no other `l` that its third letter could meet.  So where a placeholder stands it is found
  (`findFirst_placeholder`), unless the text in front holds it or ends with all of it but an
  underscore or two (`EndsShort`).  Either would put the mark there.

  SPECIFICATION, for a text without the mark and any stamp:
  (1) `replaceFirst_placeholder` — the first find of a placeholder is the place it was put in;
  (2) `restore_maskedText` — whatever is done to the gaps, the regions go back between them;
  (3) `renameOutside_eq` — so renaming the masked text is renaming around the regions.
-/
import RouteLocalizer.Proofs.Regions
import RouteLocalizer.Proofs.Runs

namespace RouteLocalizer

namespace Text

/-- Where a part stands, and it starts at no earlier place, it is found. -/
theorem findFirst_of_first {part front after : Text}
    (earlier : ∀ u c v, front = u ++ c :: v → ¬ part <+: c :: v ++ (part ++ after)) :
    findFirst part (front ++ (part ++ after)) = some ⟨front, part, after⟩ :=
  Shape.firstFrom_of_fits (by simp [Shape.finish]) fun u c v huv =>
    Shape.literal_eq_none (earlier u c v huv)

end Text

namespace Markup

open Text

/-! ## The mark of placeholders -/

/-- What every placeholder starts with. -/
def mark : Text := "__lang_router_excluded_".toList

/-- The parts of a placeholder: the mark, the number, and the time stamp between underscores. -/
theorem placeholder_parts (stamp index : Nat) : placeholder stamp index =
    mark ++ (ofNat index ++ '_' :: (ofNat stamp ++ ['_', '_'])) := by
  have hmiddle : "_".toList = ['_'] ∧ "__".toList = ['_', '_'] := by decide
  show mark ++ ofNat index ++ "_".toList ++ ofNat stamp ++ "__".toList = _
  rw [hmiddle.1, hmiddle.2]
  simp only [List.append_assoc, List.cons_append, List.nil_append]

/-- Behind the mark a placeholder goes on with the digits of its number. -/
theorem placeholder_eq (stamp index : Nat) : ∃ d rest, placeholder stamp index =
    mark ++ d :: rest ∧ d.isDigit = true ∧ '<' ∉ placeholder stamp index := by
  have hplain : '<' ∉ mark := by decide
  have hdigits : ∀ n, '<' ∉ ofNat n := fun n hmem =>
    absurd (isDigit_of_mem_ofNat hmem) (by decide)
  obtain ⟨d, digits, hindex⟩ := List.exists_cons_of_ne_nil
    (show ofNat index ≠ [] from Nat.toDigits_ne_nil)
  refine ⟨d, digits ++ '_' :: (ofNat stamp ++ ['_', '_']), ?_,
    isDigit_of_mem_ofNat (by rw [hindex]; exact List.mem_cons_self), ?_⟩
  · rw [placeholder_parts, hindex, List.cons_append]
  · rw [placeholder_parts]
    simp [hplain, hdigits]

/-! ## How a placeholder overlaps itself -/

/-- The mark overlaps itself in one underscore only. -/
theorem mark_overlap {x y t N : Text} (hmark : mark = x ++ y) (hx : x ≠ []) (hy : y ≠ [])
    (h : mark ++ N = y ++ t) : y = ['_'] := by
  have hall : ∀ k ∈ List.range 23, k ≠ 0 → mark.drop k = mark.take (23 - k) →
      mark.drop k = ['_'] := by
    decide
  have hlen : mark.length = 23 := by decide
  have hdrop : mark.drop x.length = y := by rw [hmark, List.drop_left]
  have hsum : x.length + y.length = 23 := by rw [← hlen, hmark, List.length_append]
  have hylen : y.length = 23 - x.length := by omega
  have hypos := List.length_pos_iff.mpr hy
  have hxpos := List.length_pos_iff.mpr hx
  have htake : mark.take (23 - x.length) = y := by
    have := congrArg (List.take y.length) h
    rw [List.take_append_of_le_length (by omega), List.take_left] at this
    rw [← hylen, this]
  have := hall x.length (List.mem_range.mpr (by omega)) (by omega) (by rw [hdrop, htake])
  rwa [hdrop] at this

variable {stamp index : Nat}

/-- Behind the mark of a placeholder there is no `l`. -/
theorem l_not_mem_behindMark (stamp index : Nat) :
    'l' ∉ ofNat index ++ '_' :: (ofNat stamp ++ ['_', '_']) := by
  have hdigits : ∀ n, 'l' ∉ ofNat n := fun n hmem =>
    absurd (isDigit_of_mem_ofNat hmem) (by decide)
  simp only [List.mem_append, List.mem_cons, List.not_mem_nil, or_false, not_or]
  exact ⟨hdigits index, by decide, hdigits stamp, by decide, by decide⟩

/-- **A placeholder overlaps itself** in no more than two characters. -/
theorem overlap_le_two {x y t v : Text} (hname : placeholder stamp index = x ++ y) (hx : x ≠ [])
    (hover : placeholder stamp index ++ v = y ++ t) : y.length ≤ 2 := by
  by_contra hlong
  have hmark : mark = '_' :: '_' :: 'l' :: mark.drop 3 := by decide
  rw [placeholder_parts] at hname hover
  -- the overlap starts as a placeholder does
  obtain ⟨y', hy⟩ : ∃ y', y = '_' :: '_' :: 'l' :: y' := by
    rw [hmark] at hover
    match y, hlong with
    | [], hlong => exact absurd (Nat.zero_le 2) hlong
    | [_], hlong => exact absurd (Nat.le_succ 1) hlong
    | [_, _], hlong => exact absurd (Nat.le_refl 2) hlong
    | a :: b :: c :: y', _ =>
      simp only [List.cons_append, List.cons.injEq] at hover
      obtain ⟨rfl, rfl, rfl, -⟩ := hover
      exact ⟨y', rfl⟩
  have hl : 'l' ∈ y := by simp [hy]
  rcases List.append_eq_append_iff.mp hname with ⟨z, -, hz⟩ | ⟨z, hz, hsuffix⟩
  · refine l_not_mem_behindMark stamp index ?_
    rw [hz]
    exact List.mem_append_right z hl
  · by_cases hnil : z = []
    · rw [hsuffix, hnil, List.nil_append] at hl
      exact l_not_mem_behindMark stamp index hl
    · -- the overlap starts within the mark, so with its last underscore, and a digit follows
      have hmeet := hover
      rw [hsuffix, List.append_assoc mark, List.append_assoc z] at hmeet
      obtain rfl := mark_overlap hz hx hnil hmeet
      obtain ⟨d, digits, hdigits⟩ := List.exists_cons_of_ne_nil
        (show ofNat index ≠ [] from Nat.toDigits_ne_nil)
      have hd : d.isDigit = true := isDigit_of_mem_ofNat (by rw [hdigits]; exact List.mem_cons_self)
      rw [hy, hdigits] at hsuffix
      simp only [List.cons_append, List.nil_append, List.cons.injEq] at hsuffix
      obtain ⟨-, rfl, -⟩ := hsuffix
      exact absurd hd (by decide)

/-- A text that ends with a name without the last of its characters, or without the last two. -/
def EndsShort (name front : Text) : Prop :=
  name.dropLast <:+ front ∨ name.dropLast.dropLast <:+ front

/-- A placeholder, cut in front of its last two underscores and behind its first two. -/
theorem placeholder_ends (stamp index : Nat) : ∃ core rest,
    placeholder stamp index = core ++ ['_', '_'] ∧
      placeholder stamp index = '_' :: '_' :: rest ∧ mark <+: core ∧ ofNat stamp <:+ core := by
  have hmark : mark = '_' :: '_' :: mark.drop 2 := by decide
  refine ⟨mark ++ (ofNat index ++ '_' :: ofNat stamp),
    mark.drop 2 ++ (ofNat index ++ '_' :: (ofNat stamp ++ ['_', '_'])), ?_, ?_,
    List.prefix_append _ _, ?_⟩
  · rw [placeholder_parts]
    simp
  · rw [placeholder_parts]
    conv => lhs; rw [hmark]
    rfl
  · exact ⟨mark ++ (ofNat index ++ ['_']), by simp⟩

theorem endsShort_iff {front core : Text} (hcore : placeholder stamp index = core ++ ['_', '_']) :
    EndsShort (placeholder stamp index) front ↔ core ++ ['_'] <:+ front ∨ core <:+ front := by
  have hone : (core ++ ['_', '_']).dropLast = core ++ ['_'] := by
    rw [show core ++ ['_', '_'] = (core ++ ['_']) ++ ['_'] by simp, List.dropLast_concat]
  rw [EndsShort, hcore, hone, List.dropLast_concat]

/-- A text that ends short of a placeholder holds its mark. -/
theorem EndsShort.mark_infix {front : Text} (h : EndsShort (placeholder stamp index) front) :
    mark <:+: front := by
  obtain ⟨core, _, hcore, -, hmark, -⟩ := placeholder_ends stamp index
  rcases (endsShort_iff hcore).mp h with hsuffix | hsuffix
  · exact (hmark.trans (List.prefix_append _ _)).isInfix.trans hsuffix.isInfix
  · exact hmark.isInfix.trans hsuffix.isInfix

/-- **A placeholder is found at its place**, if the text in front does not hold it and does not end
    short of it. -/
theorem findFirst_placeholder {w : Text} (fresh : ¬ placeholder stamp index <:+: w)
    (short : ¬ EndsShort (placeholder stamp index) w) (v : Text) :
    findFirst (placeholder stamp index) (w ++ (placeholder stamp index ++ v)) =
      some ⟨w, placeholder stamp index, v⟩ := by
  refine findFirst_of_first ?_
  rintro u c z rfl ⟨more, hmore⟩
  have hbehind : c :: z <:+ u ++ c :: z := List.suffix_append _ _
  rcases List.append_eq_append_iff.mp hmore with ⟨y, hy, -⟩ | ⟨y, hname, hover⟩
  · -- it would stand in the text in front
    refine fresh (List.IsInfix.trans ?_ hbehind.isInfix)
    rw [hy]
    exact (List.prefix_append _ _).isInfix
  · match y, hname, hover, overlap_le_two hname (by simp) hover with
    | [], hname, _, _ =>
      refine fresh ?_
      rw [hname, List.append_nil]
      exact hbehind.isInfix
    | [a], hname, _, _ =>
      refine short (.inl ?_)
      rw [hname, List.dropLast_concat]
      exact hbehind
    | [a, b], hname, _, _ =>
      refine short (.inr ?_)
      rw [hname, show (c :: z) ++ [a, b] = ((c :: z) ++ [a]) ++ [b] by simp,
        List.dropLast_concat, List.dropLast_concat]
      exact hbehind

/-- **A placeholder behind a text without the mark is the first one of its kind.** -/
theorem replaceFirst_placeholder {u : Text} (hu : ¬ mark <:+: u) (stamp index : Nat)
    (new v : Text) :
    replaceFirst (placeholder stamp index) new (u ++ (placeholder stamp index ++ v)) =
      u ++ (new ++ v) := by
  have hfresh : ¬ placeholder stamp index <:+: u := by
    rw [placeholder_parts]
    exact fun h => hu ((List.prefix_append _ _).isInfix.trans h)
  have hshort : ¬ EndsShort (placeholder stamp index) u := fun short => hu short.mark_infix
  simp only [replaceFirst, findFirst_placeholder hfresh hshort, Passage.replaceWith,
    List.append_assoc]

theorem head?_placeholder (stamp index : Nat) : (placeholder stamp index).head? = some '_' := by
  obtain ⟨d, rest, hname, -, -⟩ := placeholder_eq stamp index
  have hmark : mark.head? = some '_' := by decide
  rw [hname, List.head?_append, hmark]
  rfl

/-! ## Renaming and putting back -/

variable {fromTag toTag exclusion : Text}

/-- Renaming a masked text renames its gaps. -/
theorem rename_maskedText (hfrom : IsTag fromTag) (hto : IsTag toTag) (stamp : Nat)
    (cuts : List (Text × Text)) (indices : List Nat) (tail : Text) :
    rename fromTag toTag
        (maskedText ((cuts.map Prod.fst).zip (indices.map (placeholder stamp))) tail) =
      maskedText ((cuts.map fun cut => rename fromTag toTag cut.1).zip
        (indices.map (placeholder stamp))) (rename fromTag toTag tail) := by
  induction cuts generalizing indices with
  | nil => rfl
  | cons cut cuts ih =>
    cases indices with
    | nil => rfl
    | cons index indices =>
      obtain ⟨_, _, -, -, hplain⟩ := placeholder_eq stamp index
      simp only [List.map_cons, List.zip_cons_cons, maskedText, List.append_assoc]
      rw [rename_around hfrom hto (head?_placeholder stamp index) hplain, ih]

/-- **The regions go back to their places**, as long as the mark is nowhere else. -/
theorem restore_maskedText (f : Text → Text) (stamp : Nat) {cuts : List (Text × Text)}
    {indices : List Nat} (hlen : indices.length = cuts.length) (front tail : Text)
    (h : ¬ mark <:+: front ++ assemble f cuts tail) :
    restore (front ++ maskedText ((cuts.map fun cut => f cut.1).zip
        (indices.map (placeholder stamp))) (f tail))
      (((indices.map (placeholder stamp)).zip (cuts.map Prod.snd)).map fun (name, region) =>
        ⟨name, region⟩) = front ++ assemble f cuts tail := by
  induction cuts generalizing indices front with
  | nil => cases indices <;> rfl
  | cons cut cuts ih =>
    cases indices with
    | nil => cases hlen
    | cons index indices =>
      obtain ⟨gap, region⟩ := cut
      have hsplit : front ++ assemble f ((gap, region) :: cuts) tail =
          (front ++ (f gap ++ region)) ++ assemble f cuts tail := by simp [assemble]
      rw [hsplit] at h ⊢
      rw [← ih (by simpa using hlen) _ h]
      have hgap : ¬ mark <:+: front ++ f gap := fun hmem => h <| by
        refine hmem.trans ⟨[], region ++ assemble f cuts tail, by simp⟩
      have hfirst := replaceFirst_placeholder hgap stamp index region (maskedText
        ((cuts.map fun cut => f cut.1).zip (indices.map (placeholder stamp))) (f tail))
      simp only [List.append_assoc] at hfirst
      simp only [restore, List.map_cons, List.zip_cons_cons, List.foldl_cons, maskedText,
        List.append_assoc, hfirst]

theorem length_freshIndices (text : Text) (stamp regions index : Nat) :
    (freshIndices text stamp regions index).length = regions := by
  induction regions generalizing index with
  | zero => rfl
  | succ n ih => simp [freshIndices, ih]

/-- A word that does not hold the character in front of a cut does not run over the cut. -/
theorem infix_append_of_getLast? {word a b : Text} {c : Char} (ha : a.getLast? = some c)
    (hc : c ∉ word) (h : word <:+: a ++ b) : word <:+: a ∨ word <:+: b := by
  rcases List.infix_append_iff_ne_nil.mp h with h | h | ⟨l₁, l₂, hne, -, rfl, hl₁, -⟩
  · exact .inl h
  · exact .inr h
  · obtain ⟨u, rfl⟩ := hl₁
    obtain ⟨front, d, rfl⟩ := exists_concat hne
    rw [← List.append_assoc, List.getLast?_concat, Option.some.injEq] at ha
    exact absurd (by simp [ha]) hc

/-- A word that does not hold the character behind a cut does not run over the cut. -/
theorem infix_append_of_head? {word a b : Text} {c : Char} (hb : b.head? = some c)
    (hc : c ∉ word) (h : word <:+: a ++ b) : word <:+: a ∨ word <:+: b := by
  rcases List.infix_append_iff_ne_nil.mp h with h | h | ⟨l₁, l₂, -, hne, rfl, -, hl₂⟩
  · exact .inl h
  · exact .inr h
  · obtain ⟨v, rfl⟩ := hl₂
    obtain ⟨d, tail, rfl⟩ := List.exists_cons_of_ne_nil hne
    obtain rfl : d = c := by simpa using hb
    exact absurd (by simp) hc

/-- Renaming makes no mark. -/
theorem mark_of_renameAround (hto : IsTag toTag) (hexclusion : IsTag exclusion) {text : Text}
    (hmark : mark <:+: renameAround fromTag toTag exclusion text) : mark <:+: text := by
  have hstart : mark.head? = some '_' ∧ '<' ∉ mark ∧ '>' ∉ mark := by decide
  induction hlen : text.length using Nat.strongRecOn generalizing text with
  | ind n ih =>
  subst hlen
  cases hnext : nextRegion exclusion text with
  | none =>
    rw [renameAround_of_none hnext] at hmark
    exact infix_of_rename hto hstart.1 hstart.2.1 hmark
  | some p =>
    obtain ⟨hregion, htext, -⟩ := isRegion_of_nextRegion hexclusion hnext
    obtain ⟨name, hbody, -⟩ := hregion.starts
    rw [renameAround_of_some hnext] at hmark
    have hhead : (p.body ++ renameAround fromTag toTag exclusion p.after).head? = some '<' := by
      rw [hbody]
      rfl
    rw [htext]
    rcases infix_append_of_head? hhead hstart.2.1 hmark with hmark | hmark
    · exact (infix_of_rename hto hstart.1 hstart.2.1 hmark).trans
        (List.prefix_append _ _).isInfix
    · rcases infix_append_of_getLast? (hregion.getLast? hexclusion) hstart.2.2 hmark with
        hmark | hmark
      · exact hmark.trans (List.infix_append' _ _ _)
      · have := ih _ (length_after_nextRegion hnext) hmark rfl
        exact this.trans ⟨p.before ++ p.body, [], by simp⟩

/-- **The detour over placeholders cannot be seen** in a text without their mark. -/
theorem renameOutside_eq (hfrom : IsTag fromTag) (hto : IsTag toTag)
    (hexclusion : IsTag exclusion) (stamp : Nat) {text : Text} (hmark : ¬ mark <:+: text) :
    renameOutside stamp fromTag toTag exclusion text =
      renameAround fromTag toTag exclusion text := by
  have hlen := length_freshIndices text stamp (cutRegions exclusion text).cuts.length 0
  have hclean : ¬ mark <:+: [] ++ renameAround fromTag toTag exclusion text := fun hmem =>
    hmark (mark_of_renameAround hto hexclusion hmem)
  simp only [renameOutside, mask]
  rw [rename_maskedText hfrom hto]
  exact restore_maskedText (rename fromTag toTag) stamp hlen [] _ hclean

end Markup

end RouteLocalizer
