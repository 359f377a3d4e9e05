/-
  The OPTION is put into the root instance once, and nothing else moves.

  1. The option is written right behind the brace of the object: a gap of spaces and tabs, or a line
     end with some behind it, then the name and a comma (`optionText_eq`).
  2. What balances may be written behind that brace.  The root call in front stops at the brace, so
     it is found again where it was, and the object ends where it ended before
     (`findRootOptions_write`).
  3. So the object that is found afterwards names the option, and a second run stops at that
     (`injectRootOption_injectRootOption`).

  SPECIFICATION, for a host and an option that are identifiers:
  (1) `findRootOptions_write` — the object is found again with what was written in it;
  (2) `findRootOptions_injectRootOption` — after the edit it names the option;
  (3) `injectRootOption_injectRootOption` — and the edit is idempotent.
-/
import RouteLocalizer.Proofs.Provide
import RouteLocalizer.Proofs.RootObject

namespace RouteLocalizer.Script

open Text Import

/-! ## What is written -/

/-- The white space in front of the option: spaces and tabs, on a line of their own or not. -/
def IsOptionGap (newline gap : Text) : Prop :=
  ∃ indent, indent ≠ [] ∧ (∀ c ∈ indent, isIndent c = true) ∧
    (gap = indent ∨ gap = newline ++ indent)

/-- The option is written with white space in front of it and a comma behind it. -/
theorem optionText_eq (newline option rest : Text) :
    ∃ gap, optionText newline option rest = gap ++ (option ++ [',']) ∧
      IsOptionGap newline gap := by
  unfold optionText
  split
  · rename_i below hbelow
    dsimp only
    split
    · exact ⟨_, List.append_assoc _ _ _, "  ".toList, by decide, by decide, .inr rfl⟩
    · rename_i hindent
      refine ⟨_, List.append_assoc _ _ _, below.takeWhile isIndent, fun hnil => hindent ?_,
        fun c hc => List.mem_takeWhile_imp hc, .inr rfl⟩
      rw [hnil]
      rfl
  · exact ⟨[' '], rfl, [' '], by decide, by decide, .inl rfl⟩

variable {host option text : Text}

theorem IsOptionGap.blank {gap : Text} (h : IsOptionGap (lineEnding text) gap) :
    gap ≠ [] ∧ ∀ c ∈ gap, isBlank c = true := by
  obtain ⟨indent, hne, hindent, hgap⟩ := h
  have hblank : ∀ c ∈ indent, isBlank c = true := fun c hc => isBlank_of_isIndent (hindent c hc)
  have hending : ∀ c ∈ lineEnding text, isBlank c = true := by
    rcases lineEnding_cases text with h | h <;> rw [h] <;> decide
  rcases hgap with rfl | rfl
  · exact ⟨hne, hblank⟩
  · exact ⟨by simp [hne], List.forall_mem_append.mpr ⟨hending, hblank⟩⟩

/-- What is written neither opens a brace nor closes one. -/
theorem braced_option {gap : Text} (hgap : ∀ c ∈ gap, isBlank c = true)
    (hoption : IsIdentifier option) : Braced (gap ++ (option ++ [','])) := by
  refine braced_of_plain fun c hc => ?_
  simp only [List.mem_append, List.mem_singleton] at hc
  rcases hc with hc | hc | rfl
  · exact of_isBlank (P := fun c => isPlain c = true) (by decide) (hgap c hc)
  · exact isPlain_of_isIdentifierChar (hoption.chars c hc)
  · decide

/-- The option stands in the object behind the gap. -/
theorem standsIn_option {gap : Text} (hne : gap ≠ []) (hgap : ∀ c ∈ gap, isBlank c = true)
    (object : Text) : StandsIn option ('\x7b' :: (gap ++ (option ++ ',' :: object))) := by
  obtain ⟨front, c, rfl⟩ := exists_concat hne
  refine ⟨'\x7b' :: (front ++ [c]), ',' :: object, by simp, ?_⟩
  rw [← List.cons_append, List.getLast?_concat]
  exact isBounded_iff.mpr
    ⟨(gapFacts (isInk_of_isBlank (hgap c (by simp)))).identifier, rfl⟩

/-! ## Writing behind the brace -/

/-- The first root call stops at its brace, so it is the first one whatever stands behind that. -/
theorem IsFirstRootCall.write {front rest : Text} (h : IsFirstRootCall host text front rest)
    (hhost : IsIdentifier host) (more : Text) :
    IsFirstRootCall host (front ++ '\x7b' :: more) front more := by
  obtain ⟨before, call, rfl, hfirst⟩ := isFirstRootCall_iff.mp h
  have hbrace : '\x7b' ∉ host := fun hmem => absurd (hhost.chars _ hmem) (by decide)
  refine isFirstRootCall_iff.mpr ⟨before, call, rfl, ?_⟩
  simpa using Shape.firstOf_of_stopsAt (rootCall_reads host) (rootCall_stopsAt hbrace) hfirst more

/-- **What balances may be written behind the brace**: the object is found at its place again, with
    what was written. -/
theorem findRootOptions_write (hhost : IsIdentifier host) {object : Passage} {inner written : Text}
    (h : findRootOptions host text = some object) (hinner : object.body = '\x7b' :: inner)
    (hwritten : Braced written) :
    findRootOptions host (object.before ++ '\x7b' :: (written ++ (inner ++ object.after))) =
      some ⟨object.before, '\x7b' :: (written ++ inner), object.after⟩ := by
  obtain ⟨inner', hinner', hcall, hclose⟩ := findRootOptions_eq h
  obtain rfl : inner' = inner := by simpa [hinner'] using hinner
  -- the call stops at its brace, so it is the first one again
  have hagain := hcall.write hhost (written ++ (inner' ++ object.after))
  rw [findRootOptions_of_call hagain, hwritten.closeBrace_append, hclose]
  rfl

/-! ## Putting the option in -/

/-- The option is written right behind the brace of the object, unless the object names it. -/
theorem injectRootOption_of_found {object : Passage} {inner : Text}
    (h : findRootOptions host text = some object) (hinner : object.body = '\x7b' :: inner) :
    injectRootOption host option text =
      if hasIdentifier option object.body = true then text
      else object.before ++ '\x7b' :: (optionText (lineEnding text) option inner ++
        (inner ++ object.after)) := by
  simp [injectRootOption, h, hinner]

theorem injectRootOption_of_none (h : findRootOptions host text = none) :
    injectRootOption host option text = text := by
  simp [injectRootOption, h]

/-- Nothing is written, or the option right behind the brace. -/
theorem injectRootOption_cases {object : Passage} {inner : Text}
    (h : findRootOptions host text = some object) (hinner : object.body = '\x7b' :: inner) :
    (hasIdentifier option object.body = true ∧ injectRootOption host option text = text) ∨
      ∃ gap, IsOptionGap (lineEnding text) gap ∧ injectRootOption host option text =
        object.before ++ '\x7b' :: ((gap ++ (option ++ [','])) ++ (inner ++ object.after)) := by
  rw [injectRootOption_of_found h hinner]
  split
  · exact .inl ⟨by assumption, rfl⟩
  · obtain ⟨gap, heq, hgap⟩ := optionText_eq (lineEnding text) option inner
    exact .inr ⟨gap, hgap, by rw [heq]⟩

/-- **Where there is a root instance, it has the option afterwards**, and stands where it was. -/
theorem findRootOptions_injectRootOption (hhost : IsIdentifier host) (hoption : IsIdentifier option)
    {object : Passage} (h : findRootOptions host text = some object) :
    ∃ found, findRootOptions host (injectRootOption host option text) = some found ∧
      found.before = object.before ∧ hasIdentifier option found.body = true := by
  obtain ⟨inner, hinner, -, -⟩ := findRootOptions_eq h
  rcases injectRootOption_cases h hinner with ⟨hnamed, heq⟩ | ⟨gap, hgap, heq⟩
  · exact ⟨object, by rw [heq, h], rfl, hnamed⟩
  · obtain ⟨hne, hblank⟩ := hgap.blank
    rw [heq, findRootOptions_write hhost h hinner (braced_option hblank hoption)]
    refine ⟨_, rfl, rfl, (hasIdentifier_iff hoption _).mpr ?_⟩
    have hstands : StandsIn option ('\x7b' :: (gap ++ (option ++ ',' :: inner))) :=
      standsIn_option hne hblank inner
    simpa using hstands

/-- **Putting the option in twice** is putting it in once. -/
theorem injectRootOption_injectRootOption (hhost : IsIdentifier host)
    (hoption : IsIdentifier option) (text : Text) :
    injectRootOption host option (injectRootOption host option text) =
      injectRootOption host option text := by
  cases hfind : findRootOptions host text with
  | none => rw [injectRootOption_of_none hfind, injectRootOption_of_none hfind]
  | some object =>
    obtain ⟨found, hfound, -, hnamed⟩ := findRootOptions_injectRootOption hhost hoption hfind
    generalize injectRootOption host option text = again at *
    simp [injectRootOption, hfound, hnamed]

/-- **The option is put in once, behind the brace of the root instance.**  A second run changes
    nothing.  The object stays where it was and names the option afterwards; the text is the one
    that was given, or that text with the option behind the brace. -/
theorem injectRootOption_local (hhost : IsIdentifier host) (hoption : IsIdentifier option)
    (text : Text) :
    injectRootOption host option (injectRootOption host option text) =
        injectRootOption host option text ∧
      (∀ object, findRootOptions host text = some object →
        (∃ found, findRootOptions host (injectRootOption host option text) = some found ∧
          found.before = object.before ∧ StandsIn option found.body) ∧
        (injectRootOption host option text = text ∨
          ∃ gap behind, IsOptionGap (lineEnding text) gap ∧
            text = object.before ++ '\x7b' :: behind ∧
            injectRootOption host option text =
              object.before ++ '\x7b' :: (gap ++ (option ++ ',' :: behind)))) ∧
      (findRootOptions host text = none → injectRootOption host option text = text) := by
  refine ⟨injectRootOption_injectRootOption hhost hoption text, fun object h => ⟨?_, ?_⟩,
    injectRootOption_of_none⟩
  · obtain ⟨found, hfound, hbefore, hnamed⟩ := findRootOptions_injectRootOption hhost hoption h
    exact ⟨found, hfound, hbefore, (hasIdentifier_iff hoption _).mp hnamed⟩
  · obtain ⟨inner, hinner, hcall, -⟩ := findRootOptions_eq h
    rcases injectRootOption_cases h hinner with ⟨-, heq⟩ | ⟨gap, hgap, heq⟩
    · exact .inl heq
    · exact .inr ⟨gap, inner ++ object.after, hgap, hcall.whole, by simp [heq]⟩

/-- On a brace that ends its line, the option gets a line of its own, with the line end of the
    text. -/
theorem injectRootOption_local_crlf :
    let text := "new Vue(\x7b\r\n\trouter,\r\n\x7d)".toList
    let out := "new Vue(\x7b\r\n\ti18n,\r\n\trouter,\r\n\x7d)".toList
    injectRootOption "Vue".toList "i18n".toList text = out ∧
      injectRootOption "Vue".toList "i18n".toList out = out ∧
      ∃ found, findRootOptions "Vue".toList out = some found ∧
        found.before = "new Vue(".toList ∧ StandsIn "i18n".toList found.body := by
  intro text out
  have hout : injectRootOption "Vue".toList "i18n".toList text = out := by decide +kernel
  have hfound : findRootOptions "Vue".toList text =
      some ⟨"new Vue(".toList, "\x7b\r\n\trouter,\r\n\x7d".toList, ")".toList⟩ := by
    decide +kernel
  obtain ⟨hagain, hlocal, -⟩ := injectRootOption_local (show IsIdentifier "Vue".toList by decide)
    (show IsIdentifier "i18n".toList by decide) text
  rw [hout] at hagain hlocal
  exact ⟨hout, hagain, (hlocal _ hfound).1⟩

end RouteLocalizer.Script
