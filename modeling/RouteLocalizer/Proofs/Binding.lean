/-
  What the search for a BINDING finds in an import line.

  The clause of a line ends at the first word `from`.  In a spelling of the import of one symbol
  that is the `from` of the import itself, since the symbol is no `from`; so the clause holds one
  identifier, the symbol, and no other symbol has a site in it.  Whatever the line, a binding is a
  passage of it, so cutting it out leaves characters of the line and nothing else.

  SPECIFICATION, for every line and symbol:
  (1) `Spells.bindingOnLine_eq_none` — a spelling of a symbol's import binds no other symbol;
  (2) `siteKind_cases` — a binding adds to its site the blanks up to a comma on one side, or none;
  (3) `siteKind_binding` — so it is a passage of the text around that site;
  (4) `bindingOnLine_subset` — and cutting it out leaves characters of the line only.
-/
import RouteLocalizer.Proofs.Shapes
import RouteLocalizer.Proofs.Spelling

namespace RouteLocalizer.Import

open Text

/-! ## Clauses -/

/-- The clause of a line ends at the first word `from`. -/
theorem splitClause_eq_some {last : Option Char} {text clause rest : Text}
    (h : splitClause last text = some (clause, rest)) :
    text = clause ++ rest ∧ (fromShape (Shape.behind last clause) rest).isSome = true ∧
      ∀ u c v, clause = u ++ c :: v →
        fromShape (Shape.behind last u) (c :: v ++ rest) = none := by
  induction text generalizing last clause with
  | nil => cases h
  | cons c cs ih =>
    simp only [splitClause] at h
    split at h
    · rename_i hfrom
      cases h
      refine ⟨rfl, hfrom, fun u d v huv => ?_⟩
      simp at huv
    · rename_i hfrom
      split at h
      · cases h
      · obtain ⟨⟨clause', rest'⟩, hsplit, heq⟩ := Option.map_eq_some_iff.mp h
        simp only [Prod.mk.injEq] at heq
        obtain ⟨rfl, rfl⟩ := heq
        obtain ⟨htext, hfits, hearlier⟩ := ih hsplit
        refine ⟨by rw [htext, List.cons_append], by rw [Shape.behind_cons]; exact hfits, ?_⟩
        intro u d v huv
        cases u with
        | nil =>
          obtain ⟨rfl, rfl⟩ := List.cons.inj huv
          rw [List.cons_append, ← htext]
          simpa using hfrom
        | cons e u =>
          obtain ⟨rfl, hclause⟩ : c = e ∧ clause' = u ++ d :: v := by simpa using huv
          rw [Shape.behind_cons]
          exact hearlier u d v hclause

/-- The word `from` ends where no word character follows. -/
theorem isBoundary_fromWord (last : Option Char) (rest : Text) :
    isBoundary (Shape.behind last fromWord) rest = true ↔ rest.head?.any isWordChar = false := by
  have hm : isWordChar 'm' = true := by decide
  have hbehind : Shape.behind last fromWord = some 'm' := rfl
  simp [hbehind, isBoundary, hm]

theorem fromShape_isSome {last : Option Char} {text : Text} :
    (fromShape last text).isSome = true ↔ last.any isWordChar = false ∧
      ∃ rest, text = fromWord ++ rest ∧ rest.head?.any isWordChar = false := by
  have hf : isWordChar 'f' = true := by decide
  constructor
  · intro h
    obtain ⟨rest, hrest⟩ := Option.isSome_iff_exists.mp h
    obtain ⟨hbefore, hliteral⟩ := Shape.boundary_eq_some.mp hrest
    obtain ⟨more, rfl, hmore⟩ := Shape.literal_eq_some.mp hliteral
    obtain ⟨hafter, -⟩ := Shape.boundary_eq_some.mp hmore
    refine ⟨?_, more, rfl, (isBoundary_fromWord _ _).mp hafter⟩
    simpa [isBoundary, fromWord, hf] using hbefore
  · rintro ⟨hbefore, rest, rfl, hrest⟩
    have hstart : isBoundary last (fromWord ++ rest) = true := by
      simp [isBoundary, fromWord, hf, hbefore]
    have hend := (isBoundary_fromWord last rest).mpr hrest
    simp [fromShape, Shape.boundary, hstart, hend, Shape.finish]

/-- A clause is a passage of its line, behind the keyword. -/
theorem clauseOf_eq_some {line : Text} {p : Passage} (h : clauseOf line = some p) :
    ∃ indent, p.before = indent ++ keyword ∧ (∀ c ∈ indent, isIndent c = true) ∧
      line = p.before ++ (p.body ++ p.after) ∧ isBoundary (some 't') (p.body ++ p.after) = true ∧
      splitClause (some 't') (p.body ++ p.after) = some (p.body, p.after) := by
  unfold clauseOf at h
  simp only at h
  split at h
  · rename_i rest hkeyword
    split at h
    · rename_i hboundary
      obtain ⟨⟨clause, behind⟩, hsplit, rfl⟩ := Option.map_eq_some_iff.mp h
      have hrest := (splitClause_eq_some hsplit).1
      refine ⟨line.takeWhile isIndent, rfl, fun c hc => List.mem_takeWhile_imp hc, ?_,
        hrest ▸ hboundary, hrest ▸ hsplit⟩
      simp only
      rw [← hrest, List.append_assoc, ← afterWord_eq_some_iff.mp hkeyword,
        List.takeWhile_append_dropWhile]
    · cases h
  · cases h

/-- What is split behind the keyword is the clause of the line. -/
theorem clauseOf_append {indent clause rest : Text} (hindent : ∀ c ∈ indent, isIndent c = true)
    (hboundary : isBoundary (some 't') (clause ++ rest) = true)
    (hsplit : splitClause (some 't') (clause ++ rest) = some (clause, rest)) :
    clauseOf (indent ++ (keyword ++ (clause ++ rest))) =
      some ⟨indent ++ keyword, clause, rest⟩ := by
  have hkeyword : ∀ more : Text, (keyword ++ more).dropWhile isIndent = keyword ++ more :=
    fun _ => rfl
  have htake : ∀ more : Text, (keyword ++ more).takeWhile isIndent = [] := fun _ => rfl
  simp only [clauseOf, List.dropWhile_append_of_pos hindent, hkeyword,
    List.takeWhile_append_of_pos hindent, htake, List.append_nil,
    afterWord_eq_some_iff.mpr rfl, hboundary, if_true, hsplit, Option.map_some]

/-- White space in front of the keyword can be split off in one way only. -/
theorem eq_of_indent {indent indent' rest rest' : Text}
    (h : indent ++ (keyword ++ rest) = indent' ++ (keyword ++ rest'))
    (hindent : ∀ c ∈ indent, isBlank c = true) (hindent' : ∀ c ∈ indent', isBlank c = true) :
    rest = rest' := by
  have hdrop := congrArg (List.dropWhile isBlank) h
  rw [List.dropWhile_append_of_pos hindent, List.dropWhile_append_of_pos hindent'] at hdrop
  exact (List.append_right_inj keyword).mp hdrop

/-! ## The binding -/

/-- The clause of a spelling is its symbol between blanks, or ends within that. -/
theorem Spells.clauseOf_le {symbol package line : Text} {p : Passage}
    (h : Spells symbol package line) (hclause : clauseOf line = some p) :
    ∃ gap₁ gap₂ behind, (∀ c ∈ gap₁, isInk c = false) ∧ (∀ c ∈ gap₂, isInk c = false) ∧
      gap₁ ++ (symbol ++ gap₂) = p.body ++ behind := by
  obtain ⟨indent', hbefore, hindent', hline, -, hsplit⟩ := clauseOf_eq_some hclause
  obtain ⟨-, -, hearlier⟩ := splitClause_eq_some hsplit
  -- the line, cut at the keyword, the symbol and the word `from`
  obtain ⟨indent, rest, htext, hindent, hhead⟩ := h.start
  obtain ⟨opening, closing, -, -, hruns⟩ := h.runs
  have hkeyword : ∀ c ∈ keyword, isInk c = true := by decide
  rw [htext, runsOf_gap (fun c hc => isInk_of_isBlank (hindent c hc)),
    runsOf_append (.inr hhead), runsOf_word (by decide) hkeyword] at hruns
  obtain ⟨gap₁, rest₁, rfl, hgap₁, -, -, hhead₁, hruns₁⟩ :=
    eq_of_runsOf_cons (List.cons.inj hruns).2
  obtain ⟨gap₂, rest₂, rfl, hgap₂, -, -, hhead₂, -⟩ := eq_of_runsOf_cons hruns₁
  have hclauseText : p.body ++ p.after =
      (gap₁ ++ (symbol ++ gap₂)) ++ (fromWord ++ rest₂) := by
    rw [hline, hbefore, List.append_assoc] at htext
    simpa using eq_of_indent htext (fun c hc => isBlank_of_isIndent (hindent' c hc)) hindent
  have hne₂ : gap₂ ≠ [] := by
    rintro rfl
    simp [fromWord, show isInk 'f' = true by decide] at hhead₁
  have hfromFits : (fromShape (Shape.behind (some 't') (gap₁ ++ (symbol ++ gap₂)))
      (fromWord ++ rest₂)).isSome = true := by
    rw [fromShape_isSome]
    refine ⟨?_, rest₂, rfl, ?_⟩
    · obtain ⟨front, d, rfl⟩ := exists_concat hne₂
      rw [← List.append_assoc, ← List.append_assoc, Shape.behind_concat]
      exact (gapFacts (hgap₂ d (by simp))).word
    · cases rest₂ with
      | nil => rfl
      | cons c rest₂ => simpa using (gapFacts (by simpa using hhead₂)).word
  -- the clause ends there or before
  refine ⟨gap₁, gap₂, ?_⟩
  rcases List.append_eq_append_iff.mp hclauseText with ⟨z, hz, -⟩ | ⟨w, hw, hrest⟩
  · exact ⟨z, hgap₁, hgap₂, hz⟩
  · cases w with
    | nil => exact ⟨[], hgap₁, hgap₂, by simpa using hw.symm⟩
    | cons c v =>
      have hnone := hearlier _ c v hw
      rw [← hrest] at hnone
      rw [hnone] at hfromFits
      cases hfromFits

/-- No name ends right in front of the word `from`, so one that is found in a clause has something
    of the clause behind it. -/
theorem after_ne_nil_of_site {name clause rest : Text} {site : Passage} (hname : IsName name)
    (hfrom : (fromShape (Shape.behind (some 't') clause) rest).isSome = true)
    (hsite : site ∈ identifierSites name clause) : site.after ≠ [] := by
  obtain ⟨hbody, hspelled, -⟩ := identifierSites_eq hsite
  intro hnil
  obtain ⟨front, d, hd⟩ := exists_concat hname.nonempty
  have hword := (fromShape_isSome.mp hfrom).1
  rw [← hbody, hspelled, hnil, List.append_nil, hd, ← List.append_assoc,
    Shape.behind_concat] at hword
  have hdword := hname.word d (by rw [hd]; simp)
  simp [hdword] at hword

/-- A name that is found in the front of a text is one of the text's runs, where the front goes on
    behind it. -/
theorem mem_runsOf_of_site {name front : Text} {site : Passage} (hname : IsName name)
    (hsite : site ∈ identifierSites name front) (hafter : site.after ≠ []) (behind : Text) :
    name ∈ runsOf isIdentifierChar (front ++ behind) := by
  obtain ⟨hbody, hspelled, hbounded⟩ := identifierSites_eq hsite
  obtain ⟨hleft, hright⟩ := Bool.and_eq_true_iff.mp hbounded
  have hhead : (site.after ++ behind).head?.any isIdentifierChar = false := by
    cases hsite : site.after with
    | nil => exact absurd hsite hafter
    | cons c more =>
      rw [hsite] at hright
      simpa using hright
  rw [← hbody, hspelled, List.append_assoc, List.append_assoc,
    runsOf_around hname.nonempty hname.identifier (by simpa using hleft) hhead]
  simp

/-- **A spelling binds its own symbol only.** -/
theorem Spells.bindingOnLine_eq_none {symbol package line other : Text}
    (h : Spells symbol package line) (hsymbol : IsName symbol) (hother : IsName other)
    (hne : other ≠ symbol) : bindingOnLine other line = none := by
  unfold bindingOnLine
  cases hclause : clauseOf line with
  | none => rfl
  | some p =>
    obtain ⟨-, -, -, -, -, hsplit⟩ := clauseOf_eq_some hclause
    obtain ⟨-, hfrom, -⟩ := splitClause_eq_some hsplit
    obtain ⟨gap₁, gap₂, behind, hgap₁, hgap₂, hbody⟩ := h.clauseOf_le hclause
    have hruns : runsOf isIdentifierChar (gap₁ ++ (symbol ++ gap₂)) = [symbol] := by
      rw [runsOf_gap fun c hc => (gapFacts (hgap₁ c hc)).identifier,
        runsOf_gap_behind fun c hc => (gapFacts (hgap₂ c hc)).identifier,
        runsOf_word hsymbol.nonempty hsymbol.identifier]
    have hsites : identifierSites other p.body = [] := by
      rw [List.eq_nil_iff_forall_not_mem]
      intro site hsite
      have hrun := mem_runsOf_of_site hother hsite (after_ne_nil_of_site hother hfrom hsite) behind
      rw [← hbody, hruns, List.mem_singleton] at hrun
      exact hne hrun
    have hnone : bindingInClause other p.body = none := by
      unfold bindingInClause
      rw [hsites]
      split <;> rfl
    simp [hnone]

/-! ## What is cut out -/

/-- A passage at whose ends no identifier goes on, unless the end is a comma or a blank itself. -/
structure IsDelimited (p : Passage) : Prop where
  left : p.before.getLast?.any isIdentifierChar = false ∨ ∃ c ∈ p.body.head?, isWordChar c = false
  right : p.after.head?.any isIdentifierChar = false ∨ ∃ c ∈ p.body.getLast?, isWordChar c = false

/-- A comma with the blanks behind it ends with no word. -/
theorem noWord_of_comma (front : Text) {gap : Text} (hgap : ∀ c ∈ gap, isIndent c = true) :
    ∃ c ∈ (front ++ [','] ++ gap).getLast?, isWordChar c = false := by
  by_cases hnil : gap = []
  · refine ⟨',', ?_, by decide⟩
    rw [hnil, List.append_nil, List.getLast?_concat]
    rfl
  · obtain ⟨gap, c, rfl⟩ := exists_concat hnil
    refine ⟨c, ?_, isWordChar_of_isBlank (isBlank_of_isIndent (hgap c (by simp)))⟩
    rw [← List.append_assoc, List.getLast?_concat]
    rfl

/-- A text that ends with a comma and blanks, at its comma. -/
theorem split_at_comma {text : Text} (h : endsWith [','] (trimEnd text) = true) :
    ∃ front gap, text = front ++ ',' :: gap ∧ trimEnd text = front ++ [','] ∧
      ∀ c ∈ gap, isBlank c = true := by
  obtain ⟨gap, hgap, hblank⟩ := dropEndWhile_append isBlank text
  obtain ⟨front, hfront⟩ := List.isPrefixOf_iff_prefix.mp h
  have htrim : trimEnd text = front.reverse ++ [','] := by
    rw [← List.reverse_inj, ← hfront]
    simp
  refine ⟨front.reverse, gap, ?_, htrim, hblank⟩
  rw [List.append_cons, ← htrim]
  exact hgap

/-- **What a binding adds to its site**: a comma behind it, a comma in front of it, or nothing; and
    the blanks between the site and its comma. -/
theorem siteKind_cases {site p : Passage} (h : siteKind site = .binding p) :
    (∃ gap trail rest, site.after = gap ++ ',' :: (trail ++ rest) ∧
        (∀ c ∈ gap, isBlank c = true) ∧ (∀ c ∈ trail, isIndent c = true) ∧
        p = ⟨site.before, site.body ++ (gap ++ ',' :: trail), rest⟩) ∨
      (∃ front gap, site.before = front ++ ',' :: gap ∧ (∀ c ∈ gap, isBlank c = true) ∧
        p = ⟨front, ',' :: (gap ++ site.body), site.after⟩) ∨
      p = site := by
  unfold siteKind at h
  simp only at h
  split at h
  · cases h
  · split at h
    · -- the comma behind the site
      rename_i rest hafter
      cases h
      have hgap : upTo site.after (',' :: rest) = site.after.takeWhile isBlank := by
        have hsplit : site.after = site.after.takeWhile isBlank ++ ',' :: rest := by
          rw [← hafter]
          exact List.takeWhile_append_dropWhile.symm
        conv => lhs; rw [hsplit]
        exact upTo_append _ _
      refine .inl ⟨site.after.takeWhile isBlank, rest.takeWhile isIndent,
        rest.dropWhile isIndent, ?_, fun c hc => List.mem_takeWhile_imp hc,
        fun c hc => List.mem_takeWhile_imp hc, ?_⟩
      · rw [List.takeWhile_append_dropWhile, ← hafter]
        exact List.takeWhile_append_dropWhile.symm
      · rw [hafter, hgap]
        simp
    · split at h
      · -- the comma in front of it
        rename_i hends
        cases h
        obtain ⟨front, gap, hbefore, htrim, hblank⟩ := split_at_comma hends
        have hdrop : site.before.drop (trimEnd site.before).length = gap := by
          rw [htrim, hbefore, List.append_cons front ',' gap, List.drop_left]
        refine .inr (.inl ⟨front, gap, hbefore, hblank, ?_⟩)
        rw [hdrop, htrim, List.dropLast_concat]
        simp
      · split at h
        · cases h
          exact .inr (.inr rfl)
        · cases h

/-- **A binding is a passage of the text around its site**: where the site is not at its ends, a
    comma and blanks are. -/
theorem siteKind_binding {site p : Passage} (h : siteKind site = .binding p)
    (bounded : isBounded site.before.getLast? site.after.head? = true) :
    p.whole = site.whole ∧ IsDelimited p := by
  obtain ⟨hleft, hright⟩ : site.before.getLast?.any isIdentifierChar = false ∧
      site.after.head?.any isIdentifierChar = false := by
    simpa [isBounded] using bounded
  rcases siteKind_cases h with ⟨gap, trail, rest, hafter, -, htrail, rfl⟩ |
    ⟨front, gap, hbefore, -, rfl⟩ | rfl
  · constructor
    · simp [Passage.whole, hafter]
    · have hlast := noWord_of_comma (site.body ++ gap) htrail
      exact ⟨.inl hleft, .inr (by simpa using hlast)⟩
  · constructor
    · simp [Passage.whole, hbefore]
    · exact ⟨.inr ⟨',', rfl, by decide⟩, .inl hright⟩
  · exact ⟨rfl, .inl hleft, .inl hright⟩

/-- The binding of a list of sites is the one of some site. -/
theorem firstBinding_eq_some {sites : List Passage} {p : Passage}
    (h : firstBinding sites = some p) : ∃ site ∈ sites, siteKind site = .binding p := by
  induction sites with
  | nil => cases h
  | cons site later ih =>
    unfold firstBinding at h
    split at h
    · rename_i q hkind
      cases h
      exact ⟨site, List.mem_cons_self, hkind⟩
    · obtain ⟨other, hother, hkind⟩ := ih h
      exact ⟨other, List.mem_cons_of_mem _ hother, hkind⟩
    · cases h

/-- The binding of a clause is a passage of it. -/
theorem bindingInClause_eq_some {symbol clause : Text} {p : Passage}
    (h : bindingInClause symbol clause = some p) : p.whole = clause ∧ IsDelimited p := by
  unfold bindingInClause at h
  split at h
  · cases h
  · obtain ⟨site, hsite, hkind⟩ := firstBinding_eq_some h
    obtain ⟨hwhole, -, hbounded⟩ := identifierSites_eq hsite
    have hclause : site.whole = clause := by
      rw [Passage.whole, List.append_assoc, hwhole]
    rw [← hclause]
    exact siteKind_binding hkind hbounded

/-- The binding of a line is the one of its clause. -/
theorem bindingOnLine_eq_some {symbol line : Text} {b : Passage}
    (h : bindingOnLine symbol line = some b) : ∃ clause p, clauseOf line = some clause ∧
      bindingInClause symbol clause.body = some p ∧ b = clause.inBody p := by
  unfold bindingOnLine at h
  split at h
  · rename_i clause hclause
    obtain ⟨p, hp, rfl⟩ := Option.map_eq_some_iff.mp h
    exact ⟨clause, p, hclause, hp, rfl⟩
  · cases h

/-- Cutting a binding out of its line leaves characters of the line. -/
theorem bindingOnLine_subset {symbol line : Text} {b : Passage}
    (h : bindingOnLine symbol line = some b) : b.before ++ b.after ⊆ line := by
  obtain ⟨clause, p, hclause, hp, rfl⟩ := bindingOnLine_eq_some h
  obtain ⟨-, -, -, hline, -, -⟩ := clauseOf_eq_some hclause
  obtain ⟨hwhole, -⟩ := bindingInClause_eq_some hp
  have hbody : p.before ++ (p.body ++ p.after) = clause.body := by
    rw [← hwhole, Passage.whole, List.append_assoc]
  intro c hc
  rw [hline, ← hbody]
  simp only [Passage.inBody, List.mem_append] at hc ⊢
  rcases hc with (hc | hc) | (hc | hc) <;> simp [hc]

theorem emptyList_reads : emptyList.Reads :=
  .run _ (.optional _ (.run _ (.literal _ (.run _ (.literal _ .finish)))))

/-- A line without one of its bindings is made of characters of the line. -/
theorem lineWithout_subset {b : Passage} {rest : Text} (h : lineWithout b = some rest) :
    rest ⊆ b.before ++ b.after := by
  have hcut : b.replaceWith [] = b.before ++ b.after := by simp [Passage.replaceWith]
  unfold lineWithout at h
  simp only at h
  split at h
  · rename_i p hp
    split at h
    · cases h
    · obtain rfl := Option.some.inj h
      rw [← hcut, ← Shape.whole_of_firstOf emptyList_reads hp]
      intro c hc
      simp only [Passage.replaceWith, Passage.whole, List.append_nil, List.mem_append] at hc ⊢
      rcases hc with hc | hc
      · exact .inl (.inl hc)
      · exact .inr hc
  · split at h
    · cases h
    · obtain rfl := Option.some.inj h
      rw [hcut]
      exact List.Subset.refl _

end RouteLocalizer.Import
