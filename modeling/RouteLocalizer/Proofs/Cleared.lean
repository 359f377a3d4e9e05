/-
  What is LEFT of the link tags in the App component, and that one edit is all it takes.

  Links may stand in exclusion regions, so what counts is the gaps between these (`Cleared`).  An
  edit clears them, of opening tags always and of closing tags unless it writes a switcher with the
  tag `span`: that one ends, as a region, at the `</span>` of its own markup, and the closing tag of
  its link stands behind it.  A second edit renames just that closing tag.  So the same condition
  (`HalvesSwitcher`) decides about the closing tags and about the second edit.

  SPECIFICATION, for a component without the mark and link tags that are none of the switcher's:
  (1) `hasTagOutside_markupText` — after the edit no link opens outside the regions;
  (2) `hasClosingTagOutside_markupText` — and none is closed there, if no switcher was halved;
  (3) `markupText_spanSwitcher` — where one was, a second edit renames the closing tag it left.
-/
import RouteLocalizer.Proofs.Component

namespace RouteLocalizer

namespace Markup

open Text

/-! ## Gaps without a tag -/

/-- No tag of a name starts in a gap between the exclusion regions. -/
def Cleared (e : TagEnd) (name exclusion text : Text) : Prop :=
  (∀ cut ∈ (cutRegions exclusion text).cuts, e.Free name cut.1) ∧
    e.Free name (cutRegions exclusion text).tail

variable {e : TagEnd} {name tag exclusion text : Text}

theorem cleared_of_none (h : nextRegion exclusion text = none) :
    Cleared e name exclusion text ↔ e.Free name text := by
  simp [Cleared, cutRegions_of_none h]

theorem cleared_of_some {p : Passage} (h : nextRegion exclusion text = some p) :
    Cleared e name exclusion text ↔ e.Free name p.before ∧ Cleared e name exclusion p.after := by
  simp [Cleared, cutRegions_of_some h, and_assoc]

/-- Where no tag of the name starts at all, none starts in a gap. -/
theorem Cleared.of_free (hexclusion : IsTag exclusion) (h : e.Free name text) :
    Cleared e name exclusion text := by
  -- on the length: each step goes on behind a region
  induction hlen : text.length using Nat.strongRecOn generalizing text with
  | ind n ih =>
  subst hlen
  cases hnext : nextRegion exclusion text with
  | none => exact (cleared_of_none hnext).mpr h
  | some p =>
    obtain ⟨-, htext, -⟩ := isRegion_of_nextRegion hexclusion hnext
    have hlater : p.after <:+ text := by
      rw [htext, ← List.append_assoc]
      exact List.suffix_append _ _
    exact (cleared_of_some hnext).mpr
      ⟨(htext ▸ h).left, ih _ (length_after_nextRegion hnext) (h.suffix hlater) rfl⟩

/-- The masked text has the tags of its gaps: no tag runs over the underscore that a placeholder
    starts with. -/
theorem free_maskedText_iff (hname : '_' ∉ name) (stamp : Nat) {cuts : List (Text × Text)}
    {tail : Text} {indices : List Nat} (hlen : indices.length = cuts.length) :
    e.Free name (maskedText ((cuts.map Prod.fst).zip (indices.map (placeholder stamp))) tail) ↔
      (∀ cut ∈ cuts, e.Free name cut.1) ∧ e.Free name tail := by
  induction cuts generalizing indices with
  | nil => simp [maskedText]
  | cons cut cuts ih =>
    cases indices with
    | nil => cases hlen
    | cons index indices =>
      obtain ⟨_, _, -, -, hplain⟩ := placeholder_eq stamp index
      obtain ⟨rest, hrest⟩ := List.head?_eq_some_iff.mp (head?_placeholder stamp index)
      simp only [List.map_cons, List.zip_cons_cons, maskedText, List.append_assoc,
        List.forall_mem_cons, and_assoc]
      rw [← ih (by simpa using hlen)]
      constructor
      · exact fun h => ⟨h.left, h.suffix ((List.suffix_append _ _).trans (List.suffix_append _ _))⟩
      · rintro ⟨hgap, hlater⟩
        have hlater := TagEnd.Free.append_of_not_mem hplain hlater
        rw [hrest, List.cons_append] at hlater ⊢
        exact .append_cons e.underscore hname hgap hlater

/-- **A search of the masked text looks at the gaps.** -/
theorem occursIn_mask_eq_false (hname : '_' ∉ name) (stamp : Nat) :
    Shape.occursIn (e.shape name) (mask stamp exclusion text).1 = false ↔
      Cleared e name exclusion text := by
  rw [occursIn_shape_eq_false, mask, Cleared]
  exact free_maskedText_iff hname stamp (length_freshIndices _ _ _ _)

theorem hasTagOutside_eq_false (htag : IsTag tag) (stamp : Nat) :
    hasTagOutside stamp tag exclusion text = false ↔ Cleared openingEnd tag exclusion text := by
  rw [hasTagOutside, hasOpeningTag, openingTag_eq, occursIn_mask_eq_false htag.plain.2.2.1]

/-- Whether a tag is still closed outside the exclusion regions. -/
def hasClosingTagOutside (stamp : Nat) (tag exclusion text : Text) : Bool :=
  Shape.occursIn (closingTag tag) (mask stamp exclusion text).1

theorem hasClosingTagOutside_eq_false (htag : IsTag tag) (stamp : Nat) :
    hasClosingTagOutside stamp tag exclusion text = false ↔
      Cleared closingEnd ('/' :: tag) exclusion text := by
  rw [hasClosingTagOutside, closingTag_eq, occursIn_mask_eq_false htag.closing.plain.2.2.1]

/-- **Renaming around the regions clears the gaps** of every tag that renaming clears a text of. -/
theorem cleared_renameAround {fromTag toTag : Text} (h : TagNames fromTag toTag exclusion)
    (clears : ∀ gap, e.Free name (rename fromTag toTag gap)) (text : Text) :
    Cleared e name exclusion (renameAround fromTag toTag exclusion text) := by
  induction hlen : text.length using Nat.strongRecOn generalizing text with
  | ind n ih =>
  subst hlen
  cases hnext : nextRegion exclusion text with
  | none =>
    rw [renameAround_of_none hnext]
    exact .of_free h.excluded (clears text)
  | some p =>
    obtain ⟨hregion, -, hfree⟩ := isRegion_of_nextRegion h.excluded hnext
    rw [renameAround_of_some hnext]
    -- renaming opens no region in the gap, so the region is found where it was
    have hrenamed : openingEnd.Free exclusion (rename fromTag toTag p.before) :=
      free_rename h.excluded h.localized h.apart hfree
    have hagain := nextRegion_of_isRegion h.excluded hrenamed hregion
      (renameAround fromTag toTag exclusion p.after)
    exact (cleared_of_some hagain).mpr
      ⟨clears p.before, ih _ (length_after_nextRegion hnext) _ rfl⟩

/-! ## The switcher in a text without links -/

/-- What stands in a switcher with the tag `span` behind its region: two closing tags. -/
def behindSpan (link gap : Text) : Text :=
  (gap ++ [' ', ' ']) ++ '<' :: ('/' :: link ++ '>' :: gap ++
    '<' :: ('/' :: "span".toList ++ ['>']))

theorem switcherBody_span {w : Wiring} (hspan : w.switcherTag = "span".toList) (gap : Text) :
    switcherBody w gap = ('<' :: ("span".toList ++ switcherAttributes) ++
      (switcherFront w.linkTag gap ++ '<' :: ('/' :: "span".toList ++ ['>']))) ++
        behindSpan w.linkTag gap := by
  rw [switcherBody, switcherInner_eq, spanEnd_eq, hspan, behindSpan]
  generalize "span".toList = span
  simp only [List.append_assoc, List.cons_append, List.nil_append]

/-- No tag opens in two closing tags. -/
theorem free_behindSpan {link gap b : Text} (htag : IsTag tag) (hlink : IsTag link)
    (hgap : '<' ∉ gap) (hb : openingEnd.Free tag b) :
    openingEnd.Free tag (behindSpan link gap ++ b) := by
  have closing : ∀ {name text : Text}, '<' ∉ name → openingEnd.Free tag text →
      openingEnd.Free tag ('<' :: ('/' :: name ++ '>' :: text)) := by
    intro name text hname htext
    refine .cons (fun _ v heq => absurd heq htag.ne_slash) ?_
    have hplain : '<' ∉ '/' :: name ++ ['>'] := by simpa using hname
    have hsplit : '/' :: name ++ '>' :: text = ('/' :: name ++ ['>']) ++ text := by simp
    exact hsplit ▸ .append_of_not_mem hplain htext
  have hgaps : '<' ∉ gap ++ [' ', ' '] := by simpa using hgap
  have hspan : '<' ∉ "span".toList := by decide
  have := (closing hlink.plain.1
    (.append_of_not_mem hgap (closing hspan hb))).append_of_not_mem hgaps
  unfold behindSpan
  generalize "span".toList = span at *
  simpa using this

/-- The link of the switcher is closed behind the region. -/
theorem not_free_behindSpan (link gap b : Text) :
    ¬ closingEnd.Free ('/' :: link) (behindSpan link gap ++ b) := by
  intro h
  have hfits := h (gap ++ [' ', ' ']) ('>' :: (gap ++ '<' :: ('/' :: "span".toList ++ '>' :: b)))
    (by rw [behindSpan]; simp)
  rw [TagEnd.fits_cons (by decide)] at hfits
  cases hfits

/-- A tag opens where a region stands. -/
theorem hasOpeningTag_region {region : Text} (hregion : IsRegion tag region) (u v : Text) :
    hasOpeningTag tag (u ++ (region ++ v)) = true := by
  obtain ⟨name, hname, hfits⟩ := hregion.starts
  rw [hname, List.cons_append, List.append_assoc]
  exact hasOpeningTag_of_fits (TagEnd.fits_append_of_fits hfits v) u

/-- Whatever its tag, the switcher starts with a region, and no link opens in it behind that. -/
theorem switcherBody_region {w : Wiring} {gap : Text} (hlink : IsTag w.linkTag)
    (htag : IsTag w.switcherTag) (hne : w.switcherTag ≠ w.linkTag) (hgap : '<' ∉ gap) :
    ∃ region rest, switcherBody w gap = region ++ rest ∧ IsRegion w.switcherTag region ∧
      ∀ b, openingEnd.Free w.linkTag b → openingEnd.Free w.linkTag (rest ++ b) := by
  by_cases hspan : w.switcherTag = "span".toList
  · exact ⟨_, _, switcherBody_span hspan gap, hspan ▸ isRegion_spanSwitcher hlink hgap,
      fun b hb => free_behindSpan hlink hlink hgap hb⟩
  · exact ⟨_, [], (List.append_nil _).symm, isRegion_switcher hlink htag hne hspan hgap,
      fun _ hb => hb⟩

section

variable {w : Wiring} {a gap b : Text}

/-- The region that a switcher starts with is the first one of a text without any. -/
theorem nextRegion_switcher {region rest : Text} (htag : IsTag w.switcherTag)
    (ha : a.getLast? = some '>') (hgap : '<' ∉ gap)
    (hopening : openingEnd.Free w.switcherTag (a ++ b)) (hregion : IsRegion w.switcherTag region)
    (hbody : switcherBody w gap = region ++ rest) :
    nextRegion w.switcherTag (a ++ (gap ++ (switcherBody w gap ++ b))) =
      some ⟨a ++ gap, region, rest ++ b⟩ := by
  have hsplit : a ++ (gap ++ (switcherBody w gap ++ b)) =
      (a ++ gap) ++ (region ++ (rest ++ b)) := by
    simp [hbody]
  rw [hsplit]
  exact nextRegion_of_isRegion htag (.behind htag.plain.2.1 ha hopening hgap) hregion (rest ++ b)

/-- **A text stays cleared when the switcher is written into it**, up to what stands in the switcher
    behind its region. -/
theorem cleared_switcher {region rest : Text} (hname : '>' ∉ name) (htag : IsTag w.switcherTag)
    (ha : a.getLast? = some '>') (hgap : '<' ∉ gap)
    (hopening : openingEnd.Free w.switcherTag (a ++ b)) (hregion : IsRegion w.switcherTag region)
    (hbody : switcherBody w gap = region ++ rest)
    (hrest : e.Free name b → e.Free name (rest ++ b))
    (h : Cleared e name w.switcherTag (a ++ b)) :
    Cleared e name w.switcherTag (a ++ (gap ++ (switcherBody w gap ++ b))) := by
  -- there was no region at all, so the switcher's is the first one
  have hfree := (cleared_of_none (nextRegion_of_free hopening)).mp h
  refine (cleared_of_some (nextRegion_switcher htag ha hgap hopening hregion hbody)).mpr
    ⟨.behind hname ha hfree hgap, .of_free htag ?_⟩
  exact hrest (hfree.suffix (List.suffix_append a b))

/-- **A switcher with the tag `span`** leaves the closing tag of its link to be renamed. -/
theorem not_cleared_spanSwitcher (hlink : IsTag w.linkTag) (hspan : w.switcherTag = "span".toList)
    (ha : a.getLast? = some '>') (hgap : '<' ∉ gap)
    (hopening : openingEnd.Free w.switcherTag (a ++ b)) :
    ¬ Cleared closingEnd ('/' :: w.linkTag) w.switcherTag
      (a ++ (gap ++ (switcherBody w gap ++ b))) := by
  intro h
  have htag : IsTag w.switcherTag := hspan ▸ ⟨by decide, by decide⟩
  have hregion : IsRegion w.switcherTag ('<' :: ("span".toList ++ switcherAttributes) ++
      (switcherFront w.linkTag gap ++ '<' :: ('/' :: "span".toList ++ ['>']))) := by
    rw [hspan]
    exact isRegion_spanSwitcher hlink hgap
  have hnext := nextRegion_switcher htag ha hgap hopening hregion (switcherBody_span hspan gap)
  have hbehind : openingEnd.Free w.switcherTag (behindSpan w.linkTag gap ++ b) :=
    free_behindSpan htag hlink hgap (hopening.suffix (List.suffix_append a b))
  exact not_free_behindSpan _ _ _
    ((cleared_of_none (nextRegion_of_free hbehind)).mp ((cleared_of_some hnext).mp h).2)

end

end Markup

namespace Pass

open Markup

variable {s : Settings} {text : Text}

/-! ## The edited component -/

/-- Renaming the links clears the gaps. -/
theorem cleared_linksText (h : ComponentNames s.router) (hmark : ¬ mark <:+: text)
    (on : s.options.localizeLinks = true) (stamp : Nat) :
    Cleared openingEnd s.router.linkTag s.router.switcherTag (linksText s stamp text) ∧
      Cleared closingEnd ('/' :: s.router.linkTag) s.router.switcherTag
        (linksText s stamp text) := by
  have huntagged := untagged_rename h.link h.localized h.renamed
  rw [linksText, if_pos on, renameOutside_eq h.link h.localized h.switcher stamp hmark]
  exact ⟨cleared_renameAround h.tagNames (fun gap => (huntagged gap).opening) text,
    cleared_renameAround h.tagNames (fun gap => (huntagged gap).closing) text⟩

/-- **No link opens** outside the regions of an edited component. -/
theorem hasTagOutside_markupText (h : ComponentNames s.router) (hmark : ¬ mark <:+: text)
    (on : s.options.localizeLinks = true) (stamp stamp' : Nat) :
    hasTagOutside stamp' s.router.linkTag s.router.switcherTag (markupText s stamp text) =
      false := by
  have cleared := (cleared_linksText h hmark on stamp).1
  refine (hasTagOutside_eq_false h.link stamp').mpr ?_
  rcases markupText_cases s stamp text with ⟨hsame, -⟩ |
    ⟨a, gap, b, hsplit, hopening, ha, hgap, hadded, -⟩
  · rwa [hsame]
  · have hplain : '<' ∉ gap := fun hmem => absurd (hgap _ hmem) (by decide)
    obtain ⟨region, rest, hbody, hregion, hrest⟩ :=
      switcherBody_region h.link h.switcher h.other hplain
    rw [hsplit] at cleared
    rw [hadded]
    exact cleared_switcher h.link.plain.2.1 h.switcher ha hplain hopening hregion hbody (hrest b)
      cleared

/-- **No link is closed** outside the regions of an edited component, unless a switcher with the
    tag `span` was written into it. -/
theorem hasClosingTagOutside_markupText (h : ComponentNames s.router) (hmark : ¬ mark <:+: text)
    (on : s.options.localizeLinks = true) (stamp stamp' : Nat) :
    hasClosingTagOutside stamp' s.router.linkTag s.router.switcherTag
        (markupText s stamp text) = false ↔
      (markupText s stamp text ≠ linksText s stamp text →
        s.router.switcherTag ≠ "span".toList) := by
  have cleared := (cleared_linksText h hmark on stamp).2
  rw [hasClosingTagOutside_eq_false h.link stamp']
  rcases markupText_cases s stamp text with ⟨hsame, -⟩ |
    ⟨a, gap, b, hsplit, hopening, ha, hgap, hadded, -⟩
  · rw [hsame]
    exact ⟨fun _ hnew => absurd rfl hnew, fun _ => cleared⟩
  · have hplain : '<' ∉ gap := fun hmem => absurd (hgap _ hmem) (by decide)
    have hnew : markupText s stamp text ≠ linksText s stamp text := by
      rw [hadded, hsplit]
      exact switcher_ne s.router a gap b
    constructor
    · intro hcleared _ hspan
      rw [hadded] at hcleared
      exact not_cleared_spanSwitcher h.link hspan ha hplain hopening hcleared
    · intro hspan
      rw [hsplit] at cleared
      rw [hadded]
      exact cleared_switcher h.link.closing.plain.2.1 h.switcher ha hplain hopening
        (isRegion_switcher h.link h.switcher h.other (hspan hnew) hplain) (List.append_nil _).symm
        (fun hb => hb) cleared

/-- **A switcher with the tag `span`** is not left alone by the next edit: the closing tag of its
    link is renamed. -/
theorem markupText_spanSwitcher (h : ComponentNames s.router) (hmark : ¬ mark <:+: text)
    (on : s.options.localizeLinks = true) {stamp : Nat}
    (inserted : markupText s stamp text ≠ linksText s stamp text)
    (hspan : s.router.switcherTag = "span".toList) (stamp' : Nat) :
    markupText s stamp' (markupText s stamp text) ≠ markupText s stamp text := by
  intro again
  obtain ⟨hclean, -⟩ := linksText_fixed h hmark stamp
  rcases markupText_cases s stamp text with ⟨hsame, -⟩ |
    ⟨a, gap, b, hsplit, hopening, ha, hgap, hadded, -⟩
  · exact inserted hsame
  have hplain : '<' ∉ gap := fun hmem => absurd (hgap _ hmem) (by decide)
  rw [hsplit] at hclean
  rw [hadded] at again
  have hclean' : ¬ mark <:+: a ++ (gap ++ (switcherBody s.router gap ++ b)) := fun hmem =>
    hclean (mark_of_switcher h.link h.switcher ha hgap hmem)
  -- renaming keeps the region of the switcher, so the next edit writes no other one
  obtain ⟨region, rest, hbody, hregion, -⟩ :=
    switcherBody_region h.link h.switcher h.other hplain
  have hkept : hasOpeningTag s.router.switcherTag
      (linksText s stamp' (a ++ (gap ++ (switcherBody s.router gap ++ b)))) = true := by
    rw [linksText, if_pos on, renameOutside_eq h.link h.localized h.switcher stamp' hclean',
      renameAround_of_some (nextRegion_switcher h.switcher ha hplain hopening hregion hbody)]
    exact hasOpeningTag_region hregion _ _
  have hlinks : linksText s stamp' (a ++ (gap ++ (switcherBody s.router gap ++ b))) =
      a ++ (gap ++ (switcherBody s.router gap ++ b)) := by
    simpa [markupText, addSwitcher, hkept] using again
  have cleared := (cleared_linksText h hclean' on stamp').2
  rw [hlinks] at cleared
  exact not_cleared_spanSwitcher h.link hspan ha hplain hopening cleared

/-- A switcher with the tag `span` was written into a text whose links are renamed, so that the
    region it starts with ends inside of it. -/
def HalvesSwitcher (s : Settings) (stamp : Nat) (text : Text) : Prop :=
  s.options.localizeLinks = true ∧ markupText s stamp text ≠ linksText s stamp text ∧
    s.router.switcherTag = "span".toList

instance (s : Settings) (stamp : Nat) (text : Text) : Decidable (HalvesSwitcher s stamp text) :=
  inferInstanceAs (Decidable (_ ∧ _ ∧ _))

/-- **One edit finishes the component**: where no switcher is halved, a second edit changes nothing
    and no link is closed outside the regions.  In any case no link opens outside the regions, and
    a switcher that was written stands there in full, its own links included. -/
theorem markupText_finished (h : ComponentNames s.router) (hmark : ¬ mark <:+: text)
    (stamp stamp' : Nat) :
    (markupText s stamp' (markupText s stamp text) = markupText s stamp text ↔
        ¬ HalvesSwitcher s stamp text) ∧
      (s.options.localizeLinks = true →
        hasTagOutside stamp' s.router.linkTag s.router.switcherTag (markupText s stamp text) =
            false ∧
          (hasClosingTagOutside stamp' s.router.linkTag s.router.switcherTag
              (markupText s stamp text) = false ↔ ¬ HalvesSwitcher s stamp text)) ∧
      (markupText s stamp text ≠ linksText s stamp text →
        ∃ a b indent newline, linksText s stamp text = a ++ b ∧
          markupText s stamp text = a ++ (switcherSnippet s.router indent newline ++ b)) := by
  refine ⟨⟨?again, ?finished⟩, fun on => ⟨?opening, ?closing⟩, fun inserted => ?kept⟩
  case again =>
    rintro again ⟨on, inserted, hspan⟩
    exact markupText_spanSwitcher h hmark on inserted hspan stamp' again
  case finished =>
    intro whole
    exact markupText_again h hmark (fun on inserted hspan => whole ⟨on, inserted, hspan⟩) stamp'
  case opening => exact hasTagOutside_markupText h hmark on stamp stamp'
  case closing =>
    rw [hasClosingTagOutside_markupText h hmark on stamp stamp']
    simp [HalvesSwitcher, on]
  case kept =>
    rcases markupText_cases s stamp text with ⟨hsame, -⟩ |
      ⟨a, gap, b, hsplit, -, -, -, hadded, indent, newline, hsnippet⟩
    · exact absurd hsame inserted
    · exact ⟨a, b, indent, newline, hsplit, by rw [hadded, ← hsnippet, List.append_assoc]⟩

/-- Links and a switcher in a small component. -/
theorem markupText_finished_sample :
    let s : Settings := { options := { addLanguageSwitcher := true } }
    let text : Text := "<div id=\"nav\">\r\n  <router-link to=\"/\"/>\r\n</div>\r\n"
    let once := markupText s 1 text
    once ≠ text ∧ markupText s 2 once = once ∧
      hasTagOutside 2 s.router.linkTag s.router.switcherTag once = false ∧
      hasClosingTagOutside 2 s.router.linkTag s.router.switcherTag once = false := by
  intro s text once
  have whole : ¬ HalvesSwitcher s 1 text := fun h => absurd h.2.2 (by decide)
  obtain ⟨again, outside, -⟩ := @markupText_finished s text (by decide) (by decide +kernel) 1 2
  exact ⟨by decide +kernel, again.mpr whole, (outside rfl).1, (outside rfl).2.mpr whole⟩

/-- A switcher with the tag `span` is halved: its link is closed outside the regions, and the next
    edit renames that closing tag. -/
theorem markupText_spanSwitcher_differs :
    let s : Settings := { options := { addLanguageSwitcher := true }
                          router := { switcherTag := "span" } }
    let text : Text := "<div id=\"nav\"></div>\n"
    let once := markupText s 1 text
    ComponentNames s.router ∧ ¬ mark <:+: text ∧ markupText s 2 once ≠ once ∧
      hasClosingTagOutside 2 s.router.linkTag s.router.switcherTag once = true := by
  decide +kernel

end Pass

end RouteLocalizer
