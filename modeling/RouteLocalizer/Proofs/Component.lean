/-
  The APP COMPONENT is finished after one edit: links that are renamed stay renamed, and the
  switcher that is written is found again.

  The switcher holds a link tag of the old name, and what keeps the next edit off is that the whole
  switcher is one exclusion region.  That is so for every name of the switcher's tag but `span`:
  the switcher has a `</span>` of its own, which would end the region halfway.

  SPECIFICATION, for tags that can be told apart (`ComponentNames`) and a text without the mark of
  the placeholders:
  (1) `markupText_cases` — an edit renames the links, and writes a switcher behind a closing bracket
      or writes none;
  (2) `isRegion_switcher` — the switcher is a region, but for the tag `span`;
  (3) `markupText_again` — so the second edit, at whatever time, changes nothing.
-/
import RouteLocalizer.Pass.Edit
import RouteLocalizer.Proofs.Masking
import RouteLocalizer.Proofs.Provide

namespace RouteLocalizer.Markup

open Text

/-! ## Texts put together at a bracket -/

namespace TagEnd.Free

variable {e : TagEnd} {name : Text}

/-- Two texts that are free of a tag are free of it together, if a tag of another name opens between
    them. -/
theorem append_bracket {u v : Text} (hname : '<' ∉ name) (hu : e.Free name u)
    (hv : e.Free name ('<' :: v)) : e.Free name (u ++ '<' :: v) :=
  append_cons e.bracket hname hu hv

/-- One bracket, and what stands behind it. -/
theorem block {z : Text} (hz : '<' ∉ z) (h : ∀ v, z = name ++ v → e.fits v = false) :
    e.Free name ('<' :: z) := .cons (fun _ => h) (.of_not_mem hz)

/-- What is written behind a closing bracket completes no tag. -/
theorem behind {u v c : Text} (hname : '>' ∉ name) (hu : u.getLast? = some '>')
    (h : e.Free name (u ++ v)) (hc : '<' ∉ c) : e.Free name (u ++ c) := by
  intro front w hw
  rcases List.append_eq_append_iff.mp hw with ⟨z, -, hz⟩ | ⟨z, hz, hrest⟩
  · rw [hz] at hc
    exact absurd (by simp) hc
  · cases z with
    | nil =>
      rw [← show _ = c from hrest] at hc
      exact absurd (by simp) hc
    | cons d z =>
      obtain ⟨hd, htail⟩ := List.cons.inj hrest
      subst hd
      have hmem : '>' ∈ z := by
        rw [hz, List.getLast?_append, List.getLast?_cons] at hu
        cases hlast : z.getLast? with
        | none => simp [hlast] at hu
        | some c => exact List.mem_of_getLast? (by simpa [hlast] using hu)
      rcases List.append_eq_append_iff.mp htail with ⟨y, rfl, rfl⟩ | ⟨y, rfl, -⟩
      · have hy : ∃ c ∈ y, e.gap c = false :=
          ⟨'>', (List.mem_append.mp hmem).resolve_left hname, e.closes⟩
        rw [fits_append hy, ← fits_append hy v]
        exact h front (y ++ v) (by simp [hz])
      · exact absurd (List.mem_append_left y hmem) hname

end TagEnd.Free

/-! ## The switcher is one region -/

/-- Quotes and brackets apart, a tag goes on. -/
theorem splitTag_plain {u : Text} (hu : ∀ c ∈ u, c ≠ '"' ∧ c ≠ '\'' ∧ c ≠ '>') (v : Text) :
    splitTag none (u ++ v) = (splitTag none v).map fun (tag, rest) => (u ++ tag, rest) := by
  induction u with
  | nil => simp
  | cons c u ih =>
    have hc := hu c (by simp)
    rw [List.cons_append, splitTag]
    simp only [hc.1, hc.2.1, hc.2.2, or_self, if_false]
    rw [ih fun d hd => hu d (by simp [hd]), Option.map_map]
    rfl

/-- The attributes of the switcher's tag. -/
def switcherAttributes : Text := " v-slot=\"\x7b links \x7d\">".toList

/-- The attributes of the switcher's link. -/
def linkAttributes : Text :=
  " :to=\"link.url\" v-for=\"link in links\" :key=\"link.langIndex\">".toList

/-- The switcher from bracket to bracket: its own tag, the link, a span with the language, and the
    closing tags, each line behind a gap. -/
def switcherInner (link gap : Text) : Text :=
  (gap ++ [' ', ' ']) ++ '<' :: ((link ++ (linkAttributes ++ (gap ++ [' ', ' ', ' ', ' ']))) ++
    '<' :: ("span>\x7b\x7b link.langName \x7d\x7d".toList ++
      '<' :: (("/span>".toList ++ (gap ++ [' ', ' '])) ++ '<' :: ('/' :: link ++ '>' :: gap))))

/-- The switcher without the white space in front. -/
def switcherBody (w : Wiring) (gap : Text) : Text :=
  '<' :: (w.switcherTag ++ switcherAttributes) ++
    (switcherInner w.linkTag gap ++ ('<' :: ('/' :: w.switcherTag ++ ['>'])))

/-- The switcher is a line end with indentation, and a body whose lines start with the same. -/
theorem switcherSnippet_eq (w : Wiring) (indent newline : Text) :
    switcherSnippet w indent newline =
      (newline ++ indent) ++ switcherBody w (newline ++ indent) := by
  have hlink : "  <".toList = [' ', ' ', '<'] := by decide +kernel
  have hspan : "    <span>\x7b\x7b link.langName \x7d\x7d</span>".toList = [' ', ' ', ' ', ' '] ++
      '<' :: ("span>\x7b\x7b link.langName \x7d\x7d".toList ++ '<' :: "/span>".toList) := by
    decide +kernel
  have hclosing : "  </".toList = [' ', ' ', '<', '/'] := by decide +kernel
  have hlines : switcherLines w = [['<'] ++ w.switcherTag ++ switcherAttributes,
      "  <".toList ++ w.linkTag ++ linkAttributes,
      "    <span>\x7b\x7b link.langName \x7d\x7d</span>".toList,
      "  </".toList ++ w.linkTag ++ ['>'], ['<', '/'] ++ w.switcherTag ++ ['>']] := rfl
  rw [switcherSnippet, hlines, hlink, hspan, hclosing, switcherBody, switcherInner]
  generalize "span>\x7b\x7b link.langName \x7d\x7d".toList = language
  generalize "/span>".toList = spanEnd
  simp only [List.flatMap_cons, List.flatMap_nil, List.append_assoc, List.cons_append,
    List.nil_append, List.append_nil]

/-- No underscore is written, so no mark is. -/
theorem not_mem_switcherBody {w : Wiring} {gap : Text} (hlink : IsTag w.linkTag)
    (htag : IsTag w.switcherTag) (hgap : '_' ∉ gap) : '_' ∉ gap ++ switcherBody w gap := by
  have hconstant : '_' ∉ switcherAttributes ∧ '_' ∉ linkAttributes ∧
      '_' ∉ "span>\x7b\x7b link.langName \x7d\x7d".toList ∧ '_' ∉ "/span>".toList := by
    decide +kernel
  rw [switcherBody, switcherInner]
  generalize "span>\x7b\x7b link.langName \x7d\x7d".toList = language at *
  generalize "/span>".toList = spanEnd at *
  simp [hgap, hlink.plain, htag.plain, hconstant]

/-- The switcher's inside up to the name of the language. -/
def switcherFront (link gap : Text) : Text :=
  (gap ++ [' ', ' ']) ++ '<' :: ((link ++ (linkAttributes ++ (gap ++ [' ', ' ', ' ', ' ']))) ++
    '<' :: "span>\x7b\x7b link.langName \x7d\x7d".toList)

/-- The inside of the switcher, cut at the two closing tags in it. -/
theorem switcherInner_eq (link gap : Text) :
    switcherInner link gap = switcherFront link gap ++
      '<' :: (("/span>".toList ++ (gap ++ [' ', ' '])) ++ '<' :: ('/' :: link ++ '>' :: gap)) := by
  rw [switcherInner, switcherFront]
  generalize "span>\x7b\x7b link.langName \x7d\x7d".toList = language
  simp only [List.append_assoc, List.cons_append, List.nil_append]

theorem spanEnd_eq : "/span>".toList = ('/' :: "span".toList) ++ ['>'] := by decide

/-- No tag is closed in front of the name of the language. -/
theorem free_switcherFront {tag link gap : Text} (htag : IsTag tag) (hlink : IsTag link)
    (hgap : '<' ∉ gap) : closingEnd.Free ('/' :: tag) (switcherFront link gap) := by
  have hplain := htag.closing.plain.1
  have hconstant : '<' ∉ linkAttributes ∧ '<' ∉ "span>\x7b\x7b link.langName \x7d\x7d".toList := by
    decide +kernel
  have hlanguage : "span>\x7b\x7b link.langName \x7d\x7d".toList =
      's' :: "pan>\x7b\x7b link.langName \x7d\x7d".toList := by decide +kernel
  unfold switcherFront
  refine .append_bracket hplain (.of_not_mem (by simp [hgap])) ?_
  rw [← List.cons_append]
  refine .append_bracket hplain (.block (by simp [hlink.plain.1, hconstant.1, hgap]) ?_)
    (.block hconstant.2 ?_)
  · intro v heq
    exact absurd heq.symm hlink.ne_slash
  · intro v heq
    rw [hlanguage] at heq
    exact absurd (List.cons.inj heq).1 (by decide)

/-- No closing tag of the switcher stands inside it. -/
theorem free_switcherInner {tag link gap : Text} (htag : IsTag tag) (hlink : IsTag link)
    (hne : tag ≠ link) (hspan : tag ≠ "span".toList) (hgap : '<' ∉ gap) :
    closingEnd.Free ('/' :: tag) (switcherInner link gap) := by
  have hplain := htag.closing.plain.1
  have isTag : IsTag "span".toList := ⟨by decide, by decide⟩
  rw [switcherInner_eq]
  refine .append_bracket hplain (free_switcherFront htag hlink hgap) ?_
  rw [← List.cons_append]
  refine .append_bracket hplain (.block (by simp [hgap]) ?_)
    (.block (by simp [hlink.plain.1, hgap]) ?_)
  · intro v heq
    by_contra hv
    rw [spanEnd_eq, List.append_assoc] at heq
    have := isTag.closing.unique htag.closing heq (TagEnd.fits_cons (by decide) _)
      (by simpa using hv)
    exact hspan (List.cons.inj this).2.symm
  · intro v heq
    by_contra hv
    have := hlink.closing.unique htag.closing heq (TagEnd.fits_cons (by decide) _)
      (by simpa using hv)
    exact hne (List.cons.inj this).2.symm

/-- The switcher's opening tag with the first closing tag behind it is a region. -/
theorem isRegion_opened {tag inner : Text} (htag : IsTag tag)
    (hfree : closingEnd.Free ('/' :: tag) inner) :
    IsRegion tag ('<' :: (tag ++ switcherAttributes) ++
      (inner ++ '<' :: ('/' :: tag ++ ['>']))) := by
  have hfits : openingEnd.fits switcherAttributes = true := by decide
  have hsplit : splitTag none ('<' :: (tag ++ switcherAttributes)) =
      some ('<' :: (tag ++ switcherAttributes), []) := by
    have hattributes : splitTag none switcherAttributes = some (switcherAttributes, []) := by
      decide
    rw [← List.cons_append, splitTag_plain, hattributes]
    · rfl
    · intro c hc
      rcases List.mem_cons.mp hc with rfl | hc
      · decide
      · refine ⟨?_, ?_, ?_⟩ <;> rintro rfl <;> exact htag.not_mem_signs _ (by decide) hc
  have hends : endsWith ['/', '>'] ('<' :: (tag ++ switcherAttributes)) = false := by
    have hreverse :
        switcherAttributes.reverse = '>' :: '"' :: switcherAttributes.reverse.drop 2 := by
      decide
    have hwhole : ('<' :: (tag ++ switcherAttributes)).reverse =
        switcherAttributes.reverse ++ ('<' :: tag).reverse := by simp
    rw [endsWith, hwhole, hreverse]
    rfl
  have hpair : Shape.firstOf (closingTag tag) (inner ++ '<' :: ('/' :: tag ++ ['>'])) =
      some ⟨inner, '<' :: ('/' :: tag ++ ['>']), []⟩ := by
    rw [closingTag_eq]
    have hnone : ∀ d ∈ ([] : Text), closingEnd.gap d = true := by simp
    have hstop : closingEnd.stop '>' = true := by decide
    exact firstOf_shape htag.closing hfree hnone hstop
  exact .paired rfl hfits hsplit hends hpair

/-- **The switcher is one exclusion region.** -/
theorem isRegion_switcher {w : Wiring} {gap : Text} (hlink : IsTag w.linkTag)
    (htag : IsTag w.switcherTag) (hne : w.switcherTag ≠ w.linkTag)
    (hspan : w.switcherTag ≠ "span".toList) (hgap : '<' ∉ gap) :
    IsRegion w.switcherTag (switcherBody w gap) :=
  isRegion_opened htag (free_switcherInner htag hlink hne hspan hgap)

/-- A switcher with the tag `span` is a region up to the name of the language. -/
theorem isRegion_spanSwitcher {link gap : Text} (hlink : IsTag link) (hgap : '<' ∉ gap) :
    IsRegion "span".toList ('<' :: ("span".toList ++ switcherAttributes) ++
      (switcherFront link gap ++ '<' :: ('/' :: "span".toList ++ ['>']))) :=
  have isTag : IsTag "span".toList := ⟨by decide, by decide⟩
  isRegion_opened isTag (free_switcherFront isTag hlink hgap)

/-! ## Where the switcher goes -/

/-- The shapes of the places where a switcher goes read from the front of the text on. -/
theorem navDiv_reads : navDiv.Reads :=
  .literal _ <| .run _ <| .boundary <| .literal _ <| .run _ <| .literal _ .finish

theorem anyDiv_reads : anyDiv.Reads :=
  .literal _ <| .boundary <| .run _ <| .literal _ .finish

/-- The navigation element's tag, taken apart: no word runs into its mark. -/
theorem navDiv_eq_some {last : Option Char} {text rest : Text} (h : navDiv last text = some rest) :
    ∃ front tail, text = divStart ++ (front ++ (navAttribute ++ (tail ++ '>' :: rest))) ∧
      (∀ c ∈ front, staysInTag c = true) ∧ (∀ c ∈ tail, staysInTag c = true) ∧
      (divStart ++ front).getLast?.any isWordChar = false := by
  unfold navDiv at h
  obtain ⟨_, hdiv, h⟩ := Shape.literal_eq_some.mp h
  obtain ⟨front, _, hfront, hstays, h⟩ := Shape.run_eq_some h
  obtain ⟨hboundary, h⟩ := Shape.boundary_eq_some.mp h
  obtain ⟨_, hnav, h⟩ := Shape.literal_eq_some.mp h
  obtain ⟨tail, _, htail, hstays', h⟩ := Shape.run_eq_some h
  obtain ⟨_, hbracket, h⟩ := Shape.literal_eq_some.mp h
  obtain rfl := Shape.finish_eq_some.mp h
  subst hfront hnav htail hbracket hdiv
  refine ⟨front, tail, by simp, hstays, hstays', ?_⟩
  have hi : isWordChar 'i' = true := by decide
  have hlast : Shape.behind (Shape.behind last divStart) front = (divStart ++ front).getLast? := by
    rw [← Shape.behind_append]
    simp [Shape.behind, divStart, List.getLast?_cons]
  rw [hlast] at hboundary
  simpa [isBoundary, navAttribute, hi] using hboundary

/-- The tag of any division, taken apart. -/
theorem anyDiv_eq_some {last : Option Char} {text rest : Text} (h : anyDiv last text = some rest) :
    ∃ inner, text = divStart ++ (inner ++ '>' :: rest) ∧ ∀ c ∈ inner, staysInTag c = true := by
  unfold anyDiv at h
  obtain ⟨_, hdiv, h⟩ := Shape.literal_eq_some.mp h
  obtain ⟨-, h⟩ := Shape.boundary_eq_some.mp h
  obtain ⟨inner, _, hinner, hstays, h⟩ := Shape.run_eq_some h
  obtain ⟨_, hbracket, h⟩ := Shape.literal_eq_some.mp h
  obtain rfl := Shape.finish_eq_some.mp h
  subst hinner hbracket
  exact ⟨inner, by simpa using hdiv, hstays⟩

/-- What the switcher is written behind goes from the start of a division to the first closing
    bracket, on one line. -/
theorem findAnchor_body {text : Text} {p : Passage} (h : findAnchor text = some p) :
    text = p.before ++ (p.body ++ p.after) ∧ ∃ inner, p.body = divStart ++ (inner ++ ['>']) ∧
      ∀ c ∈ inner, staysInTag c = true := by
  have hcut : ∀ inner : Text, p.body ++ p.after = divStart ++ (inner ++ '>' :: p.after) →
      p.body = divStart ++ (inner ++ ['>']) := by
    intro inner hinner
    exact (List.append_left_inj p.after).mp (by simpa using hinner)
  rcases Option.or_eq_some_iff.mp h with h | ⟨-, h⟩
  · obtain ⟨htext, hfits, -⟩ := Shape.firstFrom_eq_some navDiv_reads h
    obtain ⟨front, tail, hbody, hfront, htail, -⟩ := navDiv_eq_some hfits
    have hmark : ∀ c ∈ navAttribute, staysInTag c = true := by decide
    refine ⟨htext, front ++ (navAttribute ++ tail), hcut _ (by simpa using hbody), ?_⟩
    simp only [List.forall_mem_append]
    exact ⟨hfront, hmark, htail⟩
  · obtain ⟨htext, hfits, -⟩ := Shape.firstFrom_eq_some anyDiv_reads h
    obtain ⟨inner, hbody, hinner⟩ := anyDiv_eq_some hfits
    exact ⟨htext, inner, hcut inner hbody, hinner⟩

/-- The tag that the switcher is written behind ends with its closing bracket. -/
theorem findAnchor_eq_some {text : Text} {p : Passage} (h : findAnchor text = some p) :
    text = p.before ++ (p.body ++ p.after) ∧ p.body.getLast? = some '>' := by
  obtain ⟨htext, inner, hbody, -⟩ := findAnchor_body h
  exact ⟨htext, by rw [hbody, ← List.append_assoc, List.getLast?_concat]⟩

/-- What is written in front of the switcher is white space. -/
theorem isBlank_of_indented (text : Text) {indent : Text}
    (hindent : ∀ c ∈ indent, isIndent c = true) :
    ∀ c ∈ Import.lineEnding text ++ indent, isBlank c = true := by
  have hending : ∀ c ∈ Import.lineEnding text, isBlank c = true := by
    rcases Import.lineEnding_cases text with h | h <;> rw [h] <;> decide
  intro c hc
  rcases List.mem_append.mp hc with hc | hc
  · exact hending c hc
  · exact Import.isBlank_of_isIndent (hindent c hc)

/-- The switcher is missing and is written behind a closing bracket, or nothing is written. -/
theorem addSwitcher_cases (w : Wiring) (text : Text) :
    (addSwitcher w text).getD text = text ∨
      hasOpeningTag w.switcherTag text = false ∧ ∃ a indent b, text = a ++ b ∧
        a.getLast? = some '>' ∧ (∀ c ∈ indent, isIndent c = true) ∧
        (addSwitcher w text).getD text =
          a ++ (switcherSnippet w indent (Import.lineEnding text) ++ b) := by
  unfold addSwitcher
  split
  · exact .inl rfl
  · rename_i hopening
    cases hanchor : findAnchor text with
    | none => exact .inl rfl
    | some p =>
      obtain ⟨htext, hlast⟩ := findAnchor_eq_some hanchor
      refine .inr ⟨by simpa using hopening, p.before ++ p.body,
        (lastLine p.before ++ p.body ++ p.after).takeWhile isIndent ++ [' ', ' '], p.after,
        by simp [htext], ?_, fun c hc => ?_, by simp [Passage.insertBehind]⟩
      · rw [List.getLast?_append, hlast]
        rfl
      · rcases List.mem_append.mp hc with hc | hc
        · exact List.mem_takeWhile_imp hc
        · have hspaces : ∀ c ∈ [' ', ' '], isIndent c = true := by decide
          exact hspaces c hc

/-- A tag is found wherever it opens. -/
theorem hasOpeningTag_of_fits {tag name : Text} (hfits : openingEnd.fits name = true) (u : Text) :
    hasOpeningTag tag (u ++ '<' :: (tag ++ name)) = true := by
  by_contra h
  have hfree := hasOpeningTag_eq_false.mp (by simpa using h)
  rw [hfree u name rfl] at hfits
  cases hfits

/-- **The switcher is found again**, whatever stands around it. -/
theorem hasOpeningTag_switcher (w : Wiring) (u gap b : Text) :
    hasOpeningTag w.switcherTag (u ++ (switcherBody w gap ++ b)) = true := by
  have hfits : openingEnd.fits switcherAttributes = true := by decide
  rw [switcherBody, List.append_assoc, List.cons_append, List.append_assoc]
  exact hasOpeningTag_of_fits (TagEnd.fits_append_of_fits hfits _) u

/-- A component with the switcher in it has a place for no second one. -/
theorem addSwitcher_switcher (w : Wiring) (a gap b : Text) :
    addSwitcher w (a ++ (gap ++ (switcherBody w gap ++ b))) =
      some (a ++ (gap ++ (switcherBody w gap ++ b))) := by
  have hfound := hasOpeningTag_switcher w (a ++ gap) gap b
  rw [List.append_assoc] at hfound
  rw [addSwitcher, if_pos hfound]

/-- Writing the switcher changes the text. -/
theorem switcher_ne (w : Wiring) (a gap b : Text) :
    a ++ (gap ++ (switcherBody w gap ++ b)) ≠ a ++ b := by
  intro heq
  have := congrArg List.length heq
  simp only [switcherBody, List.length_append, List.length_cons] at this
  omega

/-- **A component with the switcher in it has no link left to rename.** -/
theorem renameAround_switcher {w : Wiring} {a gap b : Text}
    (h : TagNames w.linkTag w.localizedLinkTag w.switcherTag) (hne : w.switcherTag ≠ w.linkTag)
    (hspan : w.switcherTag ≠ "span".toList) (ha : a.getLast? = some '>')
    (hgap : ∀ c ∈ gap, isBlank c = true) (hopening : openingEnd.Free w.switcherTag (a ++ b))
    (hlinks : Untagged w.linkTag (a ++ b)) :
    renameAround w.linkTag w.localizedLinkTag w.switcherTag
        (a ++ (gap ++ (switcherBody w gap ++ b))) = a ++ (gap ++ (switcherBody w gap ++ b)) := by
  have hplain : '<' ∉ gap := fun hmem => absurd (hgap _ hmem) (by decide)
  have hfree : openingEnd.Free w.switcherTag (a ++ gap) :=
    .behind h.excluded.plain.2.1 ha hopening hplain
  have huntagged : Untagged w.linkTag (a ++ gap) :=
    ⟨.behind h.link.plain.2.1 ha hlinks.opening hplain,
      .behind h.link.closing.plain.2.1 ha hlinks.closing hplain⟩
  have hnext := nextRegion_of_isRegion h.excluded hfree
    (isRegion_switcher h.link h.excluded hne hspan hplain) b
  rw [← List.append_assoc, renameAround_of_some hnext]
  dsimp only
  rw [rename_of_untagged h.localized huntagged,
    renameAround_of_untagged h (hlinks.suffix (List.suffix_append a b))]

/-- Writing the switcher writes no mark. -/
theorem mark_of_switcher {w : Wiring} {a gap b : Text} (hlink : IsTag w.linkTag)
    (htag : IsTag w.switcherTag) (ha : a.getLast? = some '>')
    (hgap : ∀ c ∈ gap, isBlank c = true)
    (h : mark <:+: a ++ (gap ++ (switcherBody w gap ++ b))) : mark <:+: a ++ b := by
  have hstart : '_' ∈ mark ∧ '>' ∉ mark := by decide
  have hplain : '_' ∉ gap := fun hmem => absurd (hgap _ hmem) (by decide)
  have hbody : (gap ++ switcherBody w gap).getLast? = some '>' := by
    simp [switcherBody, List.getLast?_append, List.getLast?_cons]
  rcases infix_append_of_getLast? ha hstart.2 h with h | h
  · exact h.trans (List.prefix_append a b).isInfix
  · rw [← List.append_assoc] at h
    rcases infix_append_of_getLast? hbody hstart.2 h with h | h
    · exact absurd (h.subset hstart.1) (not_mem_switcherBody hlink htag hplain)
    · exact h.trans (List.suffix_append a b).isInfix

end RouteLocalizer.Markup

namespace RouteLocalizer.Pass

open Markup

/-- Tags that can be told apart in a component. -/
structure ComponentNames (w : Wiring) : Prop where
  link : IsTag w.linkTag
  localized : IsTag w.localizedLinkTag
  switcher : IsTag w.switcherTag
  renamed : w.linkTag ≠ w.localizedLinkTag
  apart : w.switcherTag ≠ w.localizedLinkTag
  other : w.switcherTag ≠ w.linkTag

instance (w : Wiring) : Decidable (ComponentNames w) :=
  decidable_of_iff (IsTag w.linkTag ∧ IsTag w.localizedLinkTag ∧ IsTag w.switcherTag ∧
      w.linkTag ≠ w.localizedLinkTag ∧ w.switcherTag ≠ w.localizedLinkTag ∧
      w.switcherTag ≠ w.linkTag)
    ⟨fun ⟨link, localized, switcher, renamed, apart, other⟩ =>
      ⟨link, localized, switcher, renamed, apart, other⟩,
      fun h => ⟨h.link, h.localized, h.switcher, h.renamed, h.apart, h.other⟩⟩

/-- Such tags can be told apart by a renaming. -/
theorem ComponentNames.tagNames {w : Wiring} (h : ComponentNames w) :
    TagNames w.linkTag w.localizedLinkTag w.switcherTag :=
  ⟨h.link, h.localized, h.switcher, h.renamed, h.apart⟩

variable {s : Settings} {text : Text}

/-- Where the links are renamed, nothing is left to rename. -/
theorem linksText_of_fixed (h : ComponentNames s.router) (stamp : Nat)
    (hmark : ¬ mark <:+: text)
    (hfixed : s.options.localizeLinks = true → renameAround s.router.linkTag
      s.router.localizedLinkTag s.router.switcherTag text = text) :
    linksText s stamp text = text := by
  unfold linksText
  split
  · rename_i hon
    rw [renameOutside_eq h.link h.localized h.switcher stamp hmark, hfixed hon]
  · rfl

/-- Where nothing is left to rename in the links, with a switcher in the place for it, another edit
    changes nothing. -/
theorem markupText_of_fixed {stamp' : Nat} (hlinks : linksText s stamp' text = text)
    (hswitcher : s.options.addLanguageSwitcher = true →
      (addSwitcher s.router text).getD text = text) : markupText s stamp' text = text := by
  cases hadd : s.options.addLanguageSwitcher with
  | false => simp [markupText, hadd, hlinks]
  | true => simp [markupText, hadd, hlinks, hswitcher hadd]

/-- An edit that writes no switcher renames the links, and one that does writes it behind a closing
    bracket of a text without any. -/
theorem markupText_cases (s : Settings) (stamp : Nat) (text : Text) :
    markupText s stamp text = linksText s stamp text ∧
        (s.options.addLanguageSwitcher = true →
          (addSwitcher s.router (linksText s stamp text)).getD (linksText s stamp text) =
            linksText s stamp text) ∨
      ∃ a gap b, linksText s stamp text = a ++ b ∧
        openingEnd.Free s.router.switcherTag (a ++ b) ∧ a.getLast? = some '>' ∧
        (∀ c ∈ gap, Text.isBlank c = true) ∧
        markupText s stamp text = a ++ (gap ++ (switcherBody s.router gap ++ b)) ∧
        ∃ indent newline, gap ++ switcherBody s.router gap =
          switcherSnippet s.router indent newline := by
  cases hadd : s.options.addLanguageSwitcher with
  | false => exact .inl ⟨by simp [markupText, hadd], by simp⟩
  | true =>
    have hedit : markupText s stamp text =
        (addSwitcher s.router (linksText s stamp text)).getD (linksText s stamp text) := by
      simp [markupText, hadd]
    rcases addSwitcher_cases s.router (linksText s stamp text) with hsame |
      ⟨hopening, a, indent, b, hsplit, ha, hindent, hadded⟩
    · exact .inl ⟨by rw [hedit, hsame], fun _ => hsame⟩
    · have hfree := hasOpeningTag_eq_false.mp hopening
      rw [hsplit] at hfree
      refine .inr ⟨a, Import.lineEnding (linksText s stamp text) ++ indent, b, hsplit, hfree, ha,
        isBlank_of_indented _ hindent, ?_, _, _, (switcherSnippet_eq _ _ _).symm⟩
      rw [hedit, hadded, switcherSnippet_eq, List.append_assoc (_ ++ _)]

/-- What renaming the links leaves holds no mark, and nothing is left to rename in it. -/
theorem linksText_fixed (h : ComponentNames s.router) (hmark : ¬ mark <:+: text) (stamp : Nat) :
    ¬ mark <:+: linksText s stamp text ∧
      (s.options.localizeLinks = true → renameAround s.router.linkTag s.router.localizedLinkTag
        s.router.switcherTag (linksText s stamp text) = linksText s stamp text) := by
  cases hon : s.options.localizeLinks with
  | false => exact ⟨by simpa [linksText, hon] using hmark, by simp⟩
  | true =>
    have hlinks : linksText s stamp text =
        renameAround s.router.linkTag s.router.localizedLinkTag s.router.switcherTag text := by
      simp [linksText, hon, renameOutside_eq h.link h.localized h.switcher stamp hmark]
    rw [hlinks]
    exact ⟨fun hmem => hmark (mark_of_renameAround h.localized h.switcher hmem),
      fun _ => renameAround_renameAround h.tagNames text⟩

/-- **The component is finished after one edit**, unless a switcher with the tag `span` was written
    into it. -/
theorem markupText_again (h : ComponentNames s.router) (hmark : ¬ mark <:+: text) {stamp : Nat}
    (hspan : s.options.localizeLinks = true →
      markupText s stamp text ≠ linksText s stamp text → s.router.switcherTag ≠ "span".toList)
    (stamp' : Nat) :
    markupText s stamp' (markupText s stamp text) = markupText s stamp text := by
  obtain ⟨hclean, hfixed⟩ := linksText_fixed h hmark stamp
  rcases markupText_cases s stamp text with ⟨hsame, hnone⟩ |
    ⟨a, gap, b, hsplit, hopening, ha, hgap, hadded, -⟩
  · rw [hsame]
    exact markupText_of_fixed (linksText_of_fixed h stamp' hclean hfixed) hnone
  · have hnew : markupText s stamp text ≠ linksText s stamp text := by
      rw [hadded, hsplit]
      exact switcher_ne s.router a gap b
    rw [hsplit] at hclean hfixed
    rw [hadded]
    refine markupText_of_fixed (linksText_of_fixed h stamp' (fun hmem =>
      hclean (mark_of_switcher h.link h.switcher ha hgap hmem)) fun hon => ?_)
      fun _ => by rw [addSwitcher_switcher, Option.getD_some]
    have huntagged : Untagged s.router.linkTag (a ++ b) := by
      have := hfixed hon
      rw [renameAround_of_none (nextRegion_of_free hopening)] at this
      rw [← this]
      exact untagged_rename h.link h.localized h.renamed _
    exact renameAround_switcher h.tagNames h.other (hspan hon hnew) ha hgap hopening huntagged

end RouteLocalizer.Pass
