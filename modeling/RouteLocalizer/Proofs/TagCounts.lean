/-
  HOW MANY tags of a name start in a text, and that the detour over placeholders loses no region.

  Program: `renameOutside` hides the exclusion regions behind placeholders, renames what is left and
  puts the regions back, each for the first occurrence of its placeholder.  In a text that holds the
  mark of placeholders such an occurrence can be made up of the text, and a region then comes back
  at another place.

  Specification: whatever the text holds, the tags of a name that start in the result are those that
  start in the renamed gaps and those that start in the regions (`count_renameOutside`).  So a text
  that the renaming leaves alone has no tag of the old name in a gap
  (`cleared_of_renameOutside_eq`), and no question about marks comes up.

  1. A count can be taken apart wherever no tag runs over the cut: in front of a bracket or an
     underscore (`count_append_cons`), and behind a closing bracket (`count_append_closed`).  A
     region has the one in front and the other at its end, and a placeholder has no bracket at all.
  2. **The crux (`count_restore`)**: every placeholder is found.  It is found in its own place or in
     front of it (`findFirst_le`), so what stands behind its place stays as it was, the places of
     all later placeholders included.  Hence each region comes back once, with its tags.
  3. A renamed text has no tag of the old name, and the text itself has those of its gaps besides
     those of its regions; where both are the same text, the gaps have none.
-/
import Mathlib.Algebra.Order.BigOperators.Group.List
import Mathlib.Algebra.Order.Ring.Nat
import RouteLocalizer.Proofs.Cleared
import RouteLocalizer.Proofs.Restoring

namespace RouteLocalizer

/-- What stands behind a place of a part stays behind the first one. -/
theorem Text.exists_findFirst_suffix (part front after : Text) :
    ∃ p, findFirst part (front ++ (part ++ after)) = some p ∧ after <:+ p.after := by
  obtain ⟨p, hp, hle⟩ := findFirst_le part front after
  obtain ⟨hwhole, -, -⟩ := findFirst_eq_some hp
  have hlength := congrArg List.length hwhole
  simp only [List.length_append] at hlength
  have hbehind : ∀ u v : Text, v <:+ u ++ (part ++ v) := fun u v => by
    rw [← List.append_assoc]
    exact List.suffix_append _ _
  exact ⟨p, hp, List.suffix_of_suffix_length_le (hbehind front after) (hwhole ▸ hbehind p.before _)
    (by omega)⟩

namespace Markup

open Text

/-! ## Counting the tags of a name -/

namespace TagEnd

/-- How many tags of a name start in a text. -/
def count (e : TagEnd) (name : Text) : Text → Nat
  | [] => 0
  | c :: cs => (if (e.shape name none (c :: cs)).isSome then 1 else 0) + count e name cs

variable {e : TagEnd} {name text : Text}

/-- Whether a tag starts a text. -/
theorem isSome_shape {last : Option Char} : (e.shape name last text).isSome = true ↔
    ∃ v, text = '<' :: (name ++ v) ∧ e.fits v = true := by
  constructor
  · intro h
    obtain ⟨rest, hrest⟩ := Option.isSome_iff_exists.mp h
    obtain ⟨gap, c, rfl, hgap, hc⟩ := shape_eq_some.mp hrest
    exact ⟨_, rfl, fits_iff.mpr ⟨gap, c, rest, rfl, hgap, hc⟩⟩
  · rintro ⟨v, rfl, hv⟩
    obtain ⟨gap, c, rest, rfl, hgap, hc⟩ := fits_iff.mp hv
    rw [shape_eq_some.mpr ⟨gap, c, rfl, hgap, hc⟩]
    rfl

theorem count_cons_of_ne {c : Char} (hc : c ≠ '<') (text : Text) :
    e.count name (c :: text) = e.count name text := by
  have hnone : ¬ (e.shape name none (c :: text)).isSome = true := by
    rw [isSome_shape]
    rintro ⟨v, hv, -⟩
    exact hc (List.cons.inj hv).1
  rw [count, if_neg hnone, Nat.zero_add]

/-- Nothing starts in a text without a bracket. -/
theorem count_append_of_not_mem {front : Text} (hfront : '<' ∉ front) (text : Text) :
    e.count name (front ++ text) = e.count name text := by
  induction front with
  | nil => rfl
  | cons c front ih =>
    have hc : c ≠ '<' := fun heq => hfront (by simp [heq])
    rw [List.cons_append, count_cons_of_ne hc, ih fun hmem => hfront (by simp [hmem])]

/-- **No tag starts** exactly where none can be counted. -/
theorem count_eq_zero : e.count name text = 0 ↔ e.Free name text := by
  induction text with
  | nil => exact iff_of_true rfl (.of_not_mem (by simp))
  | cons c cs ih =>
    rw [count, Nat.add_eq_zero_iff, ih]
    constructor
    · rintro ⟨hnone, hfree⟩
      refine .cons (fun hc v hv => ?_) hfree
      by_contra hfits
      rw [if_pos (isSome_shape.mpr ⟨v, by rw [hc, hv], by simpa using hfits⟩)] at hnone
      cases hnone
    · intro h
      refine ⟨if_neg fun hsome => ?_, h.suffix (List.suffix_cons c cs)⟩
      obtain ⟨v, hv, hfits⟩ := isSome_shape.mp hsome
      rw [h [] v hv] at hfits
      cases hfits

/-! ## Taking a count apart -/

/-- A count at a cut that decides nothing: whether a tag starts in front of it can be seen in front
    of it. -/
theorem count_append {u v : Text}
    (seen : ∀ front w z, u = front ++ '<' :: w → w ++ v = name ++ z → e.fits z = true →
      ∃ z', w = name ++ z' ∧ e.fits z' = true) :
    e.count name (u ++ v) = e.count name u + e.count name v := by
  induction u with
  | nil => simp [count]
  | cons d u ih =>
    have ih := ih fun front w z hu => seen (d :: front) w z (by rw [hu, List.cons_append])
    have hsame : (e.shape name none (d :: u ++ v)).isSome =
        (e.shape name none (d :: u)).isSome := by
      rw [Bool.eq_iff_iff, isSome_shape, isSome_shape]
      constructor
      · rintro ⟨z, hz, hfits⟩
        obtain rfl := (List.cons.inj hz).1
        obtain ⟨z', rfl, hfits'⟩ := seen [] u z rfl (List.cons.inj hz).2 hfits
        exact ⟨z', rfl, hfits'⟩
      · rintro ⟨z, hz, hfits⟩
        exact ⟨z ++ v, by rw [hz]; simp, fits_append_of_fits hfits v⟩
    rw [List.cons_append, count, ← List.cons_append, hsame, ih, count, Nat.add_assoc]

/-- No tag runs over a character that can stand neither in its name nor in its end. -/
theorem count_append_cons {c : Char} (hc : e.gap c = false ∧ e.stop c = false) (hname : c ∉ name)
    (u v : Text) : e.count name (u ++ c :: v) = e.count name u + e.count name (c :: v) := by
  refine count_append fun front w z _ hz hfits => ?_
  obtain ⟨z', rfl, rfl⟩ := exists_of_cut hname hz
  exact ⟨z', rfl, by rwa [fits_append_cons hc] at hfits⟩

/-- No tag runs over a closing bracket. -/
theorem count_append_closed {u : Text} (hu : u.getLast? = some '>') (hname : '>' ∉ name)
    (v : Text) : e.count name (u ++ v) = e.count name u + e.count name v := by
  refine count_append fun front w z hsplit hz hfits => ?_
  -- the closing bracket stands behind the name, where nothing is passed over it
  have hw : '>' ∈ w := by
    rw [hsplit, List.getLast?_append, List.getLast?_cons] at hu
    cases hlast : w.getLast? with
    | none => simp [hlast] at hu
    | some d =>
      obtain rfl : d = '>' := by simpa [hlast] using hu
      exact List.mem_of_getLast? hlast
  rcases List.append_eq_append_iff.mp hz with ⟨x, hx, -⟩ | ⟨z', rfl, rfl⟩
  · exact absurd (by rw [hx]; exact List.mem_append_left x hw) hname
  · have hmem : '>' ∈ z' := (List.mem_append.mp hw).resolve_left hname
    exact ⟨z', rfl, by rwa [fits_append ⟨'>', hmem, e.closes⟩] at hfits⟩

end TagEnd

/-! ## Regions and placeholders -/

variable {e : TagEnd} {name : Text}

/-- What may stand in the place of a placeholder: it starts with a bracket and ends with one. -/
def IsBracketed (region : Text) : Prop := (∃ z, region = '<' :: z) ∧ region.getLast? = some '>'

theorem IsRegion.isBracketed {tag region : Text} (htag : IsTag tag) (h : IsRegion tag region) :
    IsBracketed region := by
  obtain ⟨_, hname, -⟩ := h.starts
  exact ⟨⟨_, hname⟩, h.getLast? htag⟩

/-- A region brings its own tags. -/
theorem count_region {region : Text} (hname : e.Names name) (h : IsBracketed region) (u v : Text) :
    e.count name (u ++ (region ++ v)) =
      e.count name u + (e.count name region + e.count name v) := by
  obtain ⟨⟨z, rfl⟩, hlast⟩ := h
  rw [List.cons_append, TagEnd.count_append_cons e.bracket hname.plain.1, ← List.cons_append,
    TagEnd.count_append_closed hlast hname.plain.2.1]

/-- A placeholder brings none. -/
theorem count_placeholder (hname : e.Names name) (stamp index : Nat) (u v : Text) :
    e.count name (u ++ (placeholder stamp index ++ v)) = e.count name u + e.count name v := by
  obtain ⟨_, _, -, -, hplain⟩ := placeholder_eq stamp index
  obtain ⟨rest, hrest⟩ := List.head?_eq_some_iff.mp (head?_placeholder stamp index)
  rw [← TagEnd.count_append_of_not_mem hplain v, hrest, List.cons_append,
    TagEnd.count_append_cons e.underscore hname.plain.2.2.1]

/-- **The tags of a text** are those of its gaps and those of its regions. -/
theorem count_maskedText (hname : e.Names name) {cuts : List (Text × Text)}
    (hcuts : ∀ cut ∈ cuts, IsBracketed cut.2) (tail : Text) :
    e.count name (maskedText cuts tail) =
      (cuts.map fun cut => e.count name cut.1).sum + e.count name tail +
        (cuts.map fun cut => e.count name cut.2).sum := by
  induction cuts with
  | nil => simp [maskedText]
  | cons cut cuts ih =>
    obtain ⟨hcut, hcuts⟩ := List.forall_mem_cons.mp hcuts
    rw [maskedText, List.append_assoc, count_region hname hcut, ih hcuts]
    simp only [List.map_cons, List.sum_cons]
    omega

/-! ## Every region comes back -/

/-- **Putting the regions back brings all their tags**, wherever they come to stand. -/
theorem count_restore {stamp : Nat} {front tail : Text} {cuts : List (Text × Text)}
    {names : List Text} (hname : e.Names name) (hlen : names.length = cuts.length)
    (hcuts : ∀ cut ∈ cuts, IsBracketed cut.2)
    (hnames : ∀ hidden ∈ names, ∃ index, hidden = placeholder stamp index) :
    e.count name (restore (front ++ maskedUnder names cuts tail) (hiddenUnder names cuts)) =
      e.count name (front ++ maskedUnder names cuts tail) +
        (cuts.map fun cut => e.count name cut.2).sum := by
  -- on the regions: one that is back belongs to the front, and the rest is as it was
  induction cuts generalizing front names with
  | nil =>
    obtain rfl := List.length_eq_zero_iff.mp hlen
    simp [restore, hiddenUnder]
  | cons cut cuts ih =>
    obtain ⟨gap, region⟩ := cut
    obtain ⟨hidden, names, rfl⟩ := List.exists_cons_of_length_eq_add_one hlen
    obtain ⟨hregion, hcuts⟩ := List.forall_mem_cons.mp hcuts
    obtain ⟨⟨index, rfl⟩, hlater⟩ := List.forall_mem_cons.mp hnames
    obtain ⟨p, hp, z, hz⟩ := exists_findFirst_suffix (placeholder stamp index) (front ++ gap)
      (maskedUnder names cuts tail)
    obtain ⟨hwhole, -, -⟩ := findFirst_eq_some hp
    have hback : p.replaceWith region =
        p.before ++ (region ++ z) ++ maskedUnder names cuts tail := by
      rw [Passage.replaceWith, ← hz]
      simp
    have hfront : front ++
        maskedUnder (placeholder stamp index :: names) ((gap, region) :: cuts) tail =
        p.before ++ (placeholder stamp index ++ p.after) := by
      rw [← hwhole]
      simp [maskedUnder, maskedText]
    calc e.count name (restore (front ++ maskedUnder (placeholder stamp index :: names)
            ((gap, region) :: cuts) tail)
          (hiddenUnder (placeholder stamp index :: names) ((gap, region) :: cuts)))
        = e.count name (restore (p.before ++ (region ++ z) ++ maskedUnder names cuts tail)
            (hiddenUnder names cuts)) := by
          rw [restore_maskedUnder_cons, replaceFirst, hp, ← hback]
      _ = e.count name (p.before ++ (region ++ z) ++ maskedUnder names cuts tail) +
            (cuts.map fun cut => e.count name cut.2).sum :=
          ih (Nat.succ.inj hlen) hcuts hlater
      _ = e.count name p.before + (e.count name region + e.count name p.after) +
            (cuts.map fun cut => e.count name cut.2).sum := by
          rw [← count_region hname hregion, ← hz]
          simp
      _ = e.count name (front ++ maskedUnder (placeholder stamp index :: names)
            ((gap, region) :: cuts) tail) +
            (((gap, region) :: cuts).map fun cut => e.count name cut.2).sum := by
          rw [hfront, count_placeholder hname]
          simp only [List.map_cons, List.sum_cons]
          omega

/-! ## Renaming around placeholders -/

section

variable {fromTag toTag exclusion : Text}

theorem isBracketed_cuts (hexclusion : IsTag exclusion) (text : Text) :
    ∀ cut ∈ (cutRegions exclusion text).cuts, IsBracketed cut.2 := by
  intro cut h
  obtain ⟨_, _, hregion⟩ := nextRegion_of_mem_cuts h
  exact (isRegion_of_nextRegion hexclusion (nextRegion_eq_some_iff.mpr hregion)).1.isBracketed
    hexclusion

/-- **The tags of a text that was renamed around its regions**: those of the masked text as renamed,
    and those of the regions.  The mark of placeholders may stand anywhere. -/
theorem count_renameOutside (hname : e.Names name) (hfrom : IsTag fromTag) (hto : IsTag toTag)
    (hexclusion : IsTag exclusion) (stamp : Nat) (text : Text) :
    e.count name (renameOutside stamp fromTag toTag exclusion text) =
      e.count name (rename fromTag toTag (mask stamp exclusion text).1) +
        ((cutRegions exclusion text).cuts.map fun cut => e.count name cut.2).sum := by
  let cuts := (cutRegions exclusion text).cuts
  let indices := freshIndices text stamp cuts.length 0
  let renamed := cuts.map fun cut => (rename fromTag toTag cut.1, cut.2)
  have hlen : (indices.map (placeholder stamp)).length = renamed.length := by
    simp [renamed, indices, length_freshIndices]
  have hregions : ∀ cut ∈ renamed, IsBracketed cut.2 := by
    intro cut hcut
    obtain ⟨old, hold, rfl⟩ := List.mem_map.mp hcut
    exact isBracketed_cuts hexclusion text old hold
  have hnames : ∀ hidden ∈ indices.map (placeholder stamp),
      ∃ index, hidden = placeholder stamp index := by
    intro hidden hmem
    obtain ⟨index, -, rfl⟩ := List.mem_map.mp hmem
    exact ⟨index, rfl⟩
  have hmasked : rename fromTag toTag (mask stamp exclusion text).1 =
      maskedUnder (indices.map (placeholder stamp)) renamed
        (rename fromTag toTag (cutRegions exclusion text).tail) := by
    rw [mask_eq, maskedUnder, freshNames, rename_maskedText hfrom hto, maskedUnder, List.map_map]
    rfl
  have hhidden : (mask stamp exclusion text).2 =
      hiddenUnder (indices.map (placeholder stamp)) renamed := by
    rw [mask_eq, hiddenUnder, hiddenUnder, List.map_map]
    rfl
  have hcount := @count_restore e name stamp []
    (rename fromTag toTag (cutRegions exclusion text).tail) _ _ hname hlen hregions hnames
  rw [List.nil_append, ← hmasked, ← hhidden, List.map_map] at hcount
  exact hcount

/-- **A text that is left alone has nothing to rename** in its gaps. -/
theorem cleared_of_renameOutside_eq (h : TagNames fromTag toTag exclusion) {stamp : Nat}
    {text : Text} (same : renameOutside stamp fromTag toTag exclusion text = text) :
    Cleared openingEnd fromTag exclusion text ∧
      Cleared closingEnd ('/' :: fromTag) exclusion text := by
  have huntagged := untagged_rename h.link h.localized h.renamed (mask stamp exclusion text).1
  -- a tag in a gap would be one too many
  have clear : ∀ {e : TagEnd} {name : Text}, e.Names name →
      e.Free name (rename fromTag toTag (mask stamp exclusion text).1) →
      Cleared e name exclusion text := by
    intro e name hname hfree
    have hleft := count_renameOutside hname h.link h.localized h.excluded stamp text
    have hwhole := count_maskedText hname (isBracketed_cuts h.excluded text)
      (cutRegions exclusion text).tail
    rw [maskedText_cutRegions] at hwhole
    rw [same, hwhole, TagEnd.count_eq_zero.mpr hfree] at hleft
    have hgaps : ((cutRegions exclusion text).cuts.map fun cut => e.count name cut.1).sum +
        e.count name (cutRegions exclusion text).tail = 0 := by omega
    obtain ⟨hcuts, htail⟩ := Nat.add_eq_zero_iff.mp hgaps
    refine ⟨fun cut hcut => TagEnd.count_eq_zero.mp ?_, TagEnd.count_eq_zero.mp htail⟩
    exact List.sum_eq_zero_iff.mp hcuts _ (List.mem_map_of_mem hcut)
  exact ⟨clear h.link.opening huntagged.opening, clear h.link.closing huntagged.closing⟩

end

end Markup

namespace Pass

open Markup

variable {s : Settings} {text : Text}

/-! ## An edit that changes nothing -/

/-- An edit of the component that changes nothing writes no switcher: the one that it wrote would be
    a region of the text, and renaming puts that back. -/
theorem linksText_of_markupText_eq (h : ComponentNames s.router) {stamp : Nat}
    (same : markupText s stamp text = text) : linksText s stamp text = text := by
  rcases markupText_cases s stamp text with ⟨hlinks, -⟩ |
    ⟨a, gap, b, hsplit, hopening, ha, hgap, hadded, -⟩
  · rw [← hlinks, same]
  have hplain : '<' ∉ gap := fun hmem => absurd (hgap _ hmem) (by decide)
  obtain ⟨region, rest, hbody, hregion, -⟩ := switcherBody_region h.link h.switcher h.other hplain
  have hnext := nextRegion_switcher h.switcher ha hplain hopening hregion hbody
  rw [← hadded, same] at hnext
  cases hon : s.options.localizeLinks with
  | false => simp [linksText, hon]
  | true =>
    have hcount := count_renameOutside h.switcher.opening h.link h.localized h.switcher stamp text
    rw [linksText, if_pos hon] at hsplit
    rw [hsplit, TagEnd.count_eq_zero.mpr hopening] at hcount
    -- so no switcher opens in a region, while each region starts with one
    have hnone : openingEnd.count s.router.switcherTag region = 0 := by
      rw [cutRegions_of_some hnext] at hcount
      simp only [List.map_cons, List.sum_cons] at hcount
      omega
    obtain ⟨v, rfl, hfits⟩ := hregion.starts
    rw [TagEnd.count_eq_zero.mp hnone [] v rfl] at hfits
    cases hfits

/-- **An edit of the component that changes nothing finds no link to rename**, whatever else the
    component holds. -/
theorem cleared_of_markupText_eq (h : ComponentNames s.router)
    (on : s.options.localizeLinks = true) {stamp : Nat} (same : markupText s stamp text = text) :
    Cleared openingEnd s.router.linkTag s.router.switcherTag text ∧
      Cleared closingEnd ('/' :: s.router.linkTag) s.router.switcherTag text := by
  have hlinks := linksText_of_markupText_eq h same
  rw [linksText, if_pos on] at hlinks
  exact cleared_of_renameOutside_eq h.tagNames hlinks

end Pass

end RouteLocalizer
