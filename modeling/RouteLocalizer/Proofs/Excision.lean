/-
  CUTTING A BINDING OUT of its line cuts out nothing else.

  PROGRAM: at each site of the symbol in the clause the search looks at the text around the site,
  and from that it decides what to cut: the symbol with the comma behind it, the symbol with the
  comma in front of it, or the symbol by itself.
  SPECIFICATION, over the grammar of clauses (`SpellsClause`), for a symbol that is bound once:
  (1) `bindingInClause_of_site` — the symbol has one site in the clause, and that one is decided on;
  (2) `bindingInClause_spells` — what is left around the cut spells the clause without the symbol;
  (3) `bindingOnLine_importText` — and so it is on the line.

  The crux is (2): the rest spells the other bindings, wherever the symbol stood — as the default,
  in front of a comma, behind the last one, or alone in the braces.  A list that is empty then goes
  with its braces, and a clause that is empty with its line.

  The clause is found by going on to the first `from`; that this is the statement's own is what
  `IsClauseText` is about.
-/
import RouteLocalizer.Proofs.Clauses
import RouteLocalizer.Proofs.EntryFile
import RouteLocalizer.Proofs.Provide

namespace RouteLocalizer.Import

open Text

/-! ## The one site of a word -/

/-- A second site of a word, behind the first one, makes it a run of identifier characters twice. -/
theorem count_of_later_site {name before between after after' : Text} (hname : IsName name)
    (hbefore : before.getLast?.any isIdentifierChar = false)
    (hafter : after.head?.any isIdentifierChar = false)
    (hbefore' : (before ++ between).getLast?.any isIdentifierChar = false)
    (hafter' : after'.head?.any isIdentifierChar = false) (hne : between ≠ [])
    (heq : name ++ after = between ++ (name ++ after')) :
    2 ≤ (runsOf isIdentifierChar (before ++ (name ++ after))).count name := by
  have hlast : ∀ u v : Text, v ≠ [] → (∀ c ∈ v, c ∈ name) →
      (u ++ v).getLast?.any isIdentifierChar = true := by
    intro u v hv hmem
    obtain ⟨front, c, rfl⟩ := exists_concat hv
    rw [← List.append_assoc, List.getLast?_concat]
    exact hname.identifier c (hmem c (by simp))
  rcases List.append_eq_append_iff.mp heq with ⟨z, rfl, hz⟩ | ⟨z, hz, -⟩
  · -- the second site stands apart from the first, so it is a run of its own
    have hne : z ≠ [] := by
      rintro rfl
      rw [List.append_nil, hlast before name hname.nonempty fun _ hc => hc] at hbefore'
      cases hbefore'
    have hz' : z.getLast?.any isIdentifierChar = false := by
      obtain ⟨front, c, rfl⟩ := exists_concat hne
      simpa [← List.append_assoc, List.getLast?_concat] using hbefore'
    rw [runsOf_around hname.nonempty hname.identifier hbefore hafter, hz,
      runsOf_around hname.nonempty hname.identifier hz' hafter']
    simp
    omega
  · -- the second site starts inside the first, with a character of the name in front of it
    rw [hlast before between hne fun c hc => by simp [hz, hc]] at hbefore'
    cases hbefore'

/-- **A word that is a run of identifier characters once** has one site. -/
theorem site_unique {name before after : Text} {site : Passage} (hname : IsName name)
    (hsite : site ∈ identifierSites name (before ++ (name ++ after)))
    (hbefore : before.getLast?.any isIdentifierChar = false)
    (hafter : after.head?.any isIdentifierChar = false)
    (once : (runsOf isIdentifierChar (before ++ (name ++ after))).count name = 1) :
    site = ⟨before, name, after⟩ := by
  obtain ⟨htext, hbody, hbounded⟩ := identifierSites_eq hsite
  obtain ⟨hbefore', hafter'⟩ := isBounded_iff.mp hbounded
  obtain ⟨before', body, after'⟩ := site
  obtain rfl : name = body := hbody.symm
  have heq : before' ++ (name ++ after') = before ++ (name ++ after) := htext
  rcases List.append_eq_append_iff.mp heq with ⟨w, rfl, hw⟩ | ⟨w, rfl, hw⟩
  · by_cases hne : w = []
    · subst hne
      obtain rfl : after' = after := by simpa using hw
      simp
    · have := count_of_later_site hname hbefore' hafter' hbefore hafter hne hw
      rw [heq, once] at this
      omega
  · by_cases hne : w = []
    · subst hne
      obtain rfl : after = after' := by simpa using hw
      simp
    · have := count_of_later_site hname hbefore hafter hbefore' hafter' hne hw
      rw [once] at this
      omega

/-- Where a symbol is a word of the clause once, its place there decides. -/
theorem bindingInClause_of_site {name before after : Text} {b : Passage} (hname : IsName name)
    (hne : before ≠ []) (hbefore : before.getLast?.any isIdentifierChar = false)
    (hafter : after.head?.any isIdentifierChar = false)
    (once : (runsOf isIdentifierChar (before ++ (name ++ after))).count name = 1)
    (star : '*' ∉ before ++ (name ++ after))
    (kind : siteKind ⟨before, name, after⟩ = .binding b) :
    bindingInClause name (before ++ (name ++ after)) = some b := by
  obtain ⟨front, c, rfl⟩ := exists_concat hne
  have hc : isIdentifierChar c = false := by simpa using hbefore
  have hfound : hasIdentifier name (front ++ [c] ++ (name ++ after)) = true := by
    have := hasIdentifier_between (u := front) hname.isIdentifier hc hafter
    simpa using this
  cases hsites : identifierSites name (front ++ [c] ++ (name ++ after)) with
  | nil =>
    rw [hasIdentifier, hsites] at hfound
    cases hfound
  | cons site later =>
    have hsite : site ∈ identifierSites name (front ++ [c] ++ (name ++ after)) := by
      rw [hsites]
      exact List.mem_cons_self
    obtain rfl := site_unique hname hsite hbefore hafter once
    have helem : (front ++ [c] ++ (name ++ after)).elem '*' = false := by
      rw [Bool.eq_false_iff]
      exact fun h => star (List.elem_iff.mp h)
    simp only [bindingInClause, helem, hsites, firstBinding, kind, Bool.false_eq_true, if_false]

/-! ## What is cut at a place -/

/-- Trimming takes the blanks at the end, ... -/
theorem trimEnd_append {front gap : Text} (hgap : Blanks gap)
    (hfront : front.getLast?.any isBlank = false) : trimEnd (front ++ gap) = front :=
  dropEndWhile_behind hgap.isBlank hfront

/-- ... and those in front, and nothing else. -/
theorem trimStart_append {gap rest : Text} (hgap : Blanks gap)
    (hrest : rest.head?.any isBlank = false) : trimStart (gap ++ rest) = rest :=
  dropWhile_of_end hgap.isBlank hrest

/-- What a text ends with, character by character from its end. -/
theorem endsWith_concat (word text : Text) (c d : Char) :
    endsWith (word ++ [c]) (text ++ [d]) = (c == d && endsWith word text) := by
  simp [endsWith, List.isPrefixOf]

/-- What stands in front of a binding: nothing, a brace or a comma. -/
def AtBinding (front : Text) : Prop := front.getLast?.all isTight = true

namespace AtBinding

variable {front : Text}

/-- In front of a binding there is nothing, a brace, or a comma. -/
theorem eq_nil_or_concat (h : AtBinding front) : front = [] ∨ ∃ init c, front = init ++ [c] ∧
    (c = '\x7b' ∨ c = '\x7d' ∨ c = ',') := by
  rcases List.eq_nil_or_concat' front with rfl | ⟨init, c, rfl⟩
  · exact .inl rfl
  · exact .inr ⟨init, c, rfl, by simpa [AtBinding, isTight, or_assoc] using h⟩

/-- So there is no white space right in front of its blanks, ... -/
theorem noBlank (h : AtBinding front) : front.getLast?.any isBlank = false := by
  obtain rfl | ⟨init, c, rfl, hc⟩ := h.eq_nil_or_concat
  · rfl
  · rcases hc with rfl | rfl | rfl <;> simp <;> decide

/-- ... no word `as`, ... -/
theorem noAs (h : AtBinding front) : endsWith [' ', 'a', 's'] front = false := by
  obtain rfl | ⟨init, c, rfl, hc⟩ := h.eq_nil_or_concat
  · rfl
  · have hsplit := endsWith_concat [' ', 'a'] init 's' c
    rw [show [' ', 'a'] ++ ['s'] = [' ', 'a', 's'] from rfl] at hsplit
    rw [hsplit]
    rcases hc with rfl | rfl | rfl <;> rfl

/-- ... and no identifier that it would go on. -/
theorem noIdentifier {lead : Text} (h : AtBinding front) (hlead : Blanks lead) :
    (front ++ lead).getLast?.any isIdentifierChar = false := by
  rcases List.eq_nil_or_concat' lead with rfl | ⟨lead, c, rfl⟩
  · rw [List.append_nil]
    obtain rfl | ⟨init, c, rfl, hc⟩ := h.eq_nil_or_concat
    · rfl
    · rcases hc with rfl | rfl | rfl <;> simp <;> decide
  · rw [← List.append_assoc, List.getLast?_concat]
    exact isWordClass_identifier.gap c (hlead.gap c (by simp))

end AtBinding

/-- A symbol in front of a comma goes with the comma and the blanks behind it. -/
theorem siteKind_comma {front lead trail rest : Text} (name : Text) (hfront : AtBinding front)
    (hlead : Blanks lead) (htrail : Blanks trail) :
    siteKind ⟨front ++ lead, name, trail ++ ',' :: rest⟩ =
      .binding ⟨front ++ lead, name ++ trail ++ [','] ++ rest.takeWhile isIndent,
        rest.dropWhile isIndent⟩ := by
  have hcomma : (',' :: rest).head?.any isBlank = false := show isBlank ',' = false by decide
  have hnoAs : List.isPrefixOf ['a', 's', ' '] (',' :: rest) = false := rfl
  simp only [siteKind, trimEnd_append hlead hfront.noBlank, trimStart_append htrail hcomma,
    hfront.noAs, hnoAs, upTo_append, Bool.or_self, Bool.false_eq_true, if_false]

/-- A symbol behind the last comma goes with that comma and the blanks behind it. -/
theorem siteKind_last {front lead trail rest : Text} (name : Text) (hlead : Blanks lead)
    (htrail : Blanks trail) :
    siteKind ⟨front ++ [','] ++ lead, name, trail ++ '\x7d' :: rest⟩ =
      .binding ⟨front, [','] ++ lead ++ name, trail ++ '\x7d' :: rest⟩ := by
  have hfront : AtBinding (front ++ [',']) := by simp [AtBinding, isTight]
  have hbrace : ('\x7d' :: rest).head?.any isBlank = false :=
    show isBlank '\x7d' = false by decide
  have hnoAs : List.isPrefixOf ['a', 's', ' '] ('\x7d' :: rest) = false := rfl
  have hends : endsWith [','] (front ++ [',']) = true := by
    simp [endsWith, List.isPrefixOf]
  simp only [siteKind, trimEnd_append hlead hfront.noBlank, trimStart_append htrail hbrace,
    hfront.noAs, hnoAs, hends, Bool.or_self, Bool.false_eq_true, if_false, if_true,
    List.dropLast_concat, List.drop_left]
  rfl

/-- A symbol alone in the braces goes alone. -/
theorem siteKind_sole {front lead trail rest : Text} (name : Text) (hlead : Blanks lead)
    (htrail : Blanks trail) :
    siteKind ⟨front ++ ['\x7b'] ++ lead, name, trail ++ '\x7d' :: rest⟩ =
      .binding ⟨front ++ ['\x7b'] ++ lead, name, trail ++ '\x7d' :: rest⟩ := by
  have hfront : AtBinding (front ++ ['\x7b']) := by simp [AtBinding, isTight]
  have hbrace : ('\x7d' :: rest).head?.any isBlank = false :=
    show isBlank '\x7d' = false by decide
  have hnoAs : List.isPrefixOf ['a', 's', ' '] ('\x7d' :: rest) = false := rfl
  have hends : endsWith [','] (front ++ ['\x7b']) = false := by
    simp [endsWith, List.isPrefixOf]
  have hopens : endsWith ['\x7b'] (front ++ ['\x7b']) = true := by
    simp [endsWith, List.isPrefixOf]
  simp only [siteKind, trimEnd_append hlead hfront.noBlank, trimStart_append htrail hbrace,
    hfront.noAs, hnoAs, hends, hopens, Bool.or_self, Bool.false_eq_true, if_false, if_true,
    List.head?_cons, beq_self_eq_true, Bool.and_self]
  rfl

/-! ## What is left of a list -/

/-- A binding that is there once is all that goes away with it. -/
theorem filter_of_count {pre post : List Binding} {b : Binding}
    (once : (pre ++ b :: post).count b = 1) :
    (pre ++ b :: post).filter (· ≠ b) = pre ++ post := by
  rw [List.count_append, List.count_cons_self] at once
  have hpre : b ∉ pre := List.count_eq_zero.mp (by omega)
  have hpost : b ∉ post := List.count_eq_zero.mp (by omega)
  have hkeep : ∀ bs : List Binding, b ∉ bs → bs.filter (· ≠ b) = bs := fun bs hbs =>
    List.filter_eq_self.mpr fun d hd => by simpa using fun heq : d = b => hbs (heq ▸ hd)
  rw [List.filter_append, hkeep pre hpre, List.filter_cons_of_neg (by simp), hkeep post hpost]

/-- What stands behind a brace and some bindings can be the next binding. -/
theorem SpellsFront.atBinding {pre : List Binding} {front : Text} (h : SpellsFront pre front)
    (opening : Text) : AtBinding (opening ++ '\x7b' :: front) := by
  by_cases hne : pre = []
  · subst hne
    cases h
    simp [AtBinding, isTight]
  · obtain ⟨list, rfl, -⟩ := h.dropComma hne
    have hsplit : opening ++ '\x7b' :: (list ++ [',']) = (opening ++ '\x7b' :: list) ++ [','] := by
      simp
    rw [hsplit, AtBinding, List.getLast?_concat]
    rfl

/-- **Cutting a binding out of a list** leaves a list of the others. -/
theorem bindingInClause_list {bs : List Binding} {opening list rest symbol : Text}
    (hsymbol : IsName symbol) (spells : SpellsList bs list)
    (names : ∀ b ∈ bs, IsName b.name) (hmem : ⟨symbol, none⟩ ∈ bs)
    (single : bs.count ⟨symbol, none⟩ = 1)
    (once : (runsOf isIdentifierChar (opening ++ braced list rest)).count symbol = 1)
    (star : '*' ∉ opening ++ braced list rest) :
    ∃ b list', bindingInClause symbol (opening ++ braced list rest) = some b ∧
      b.before ++ b.after = opening ++ braced list' rest ∧
      SpellsList (bs.filter (· ≠ ⟨symbol, none⟩)) list' := by
  obtain ⟨pre, post, front, lead, trail, back, rfl, rfl, hfront, hlead, htrail, hback⟩ :=
    spells.split hmem
  rw [filter_of_count single]
  have hsplit : opening ++ braced (front ++ (lead ++ (symbol ++ (trail ++ back)))) rest =
      ((opening ++ '\x7b' :: front) ++ lead) ++
        (symbol ++ (trail ++ (back ++ '\x7d' :: rest))) := by
    simp [braced]
  rw [hsplit] at once star ⊢
  have hbefore := (hfront.atBinding opening).noIdentifier hlead
  have hafter : (trail ++ (back ++ '\x7d' :: rest)).head?.any isIdentifierChar = false :=
    isWordClass_identifier.head htrail.gap fun _ => by cases hback <;> simp <;> decide
  have found := fun {b} =>
    bindingInClause_of_site (b := b) hsymbol (by simp) hbefore hafter once star
  -- which comma goes is told by what stands behind the symbol, and then by what stands in front
  cases hback with
  | @comma bs tail hbs =>
    refine ⟨_, front ++ (lead ++ tail.dropWhile isIndent), found
      (siteKind_comma symbol (hfront.atBinding opening) hlead htrail), ?_, ?_⟩
    · simp [braced, dropWhile_cut (show isIndent '\x7d' = false by decide)]
    · exact hfront.append (hbs.relead (fun b hb => names b (by simp [hb])) hlead)
  | nil =>
    by_cases hne : pre = []
    · subst hne
      cases hfront
      refine ⟨_, lead ++ trail, found (siteKind_sole symbol hlead htrail), ?_,
        .gap (hlead.append htrail)⟩
      simp [braced]
    · obtain ⟨others, rfl, hothers⟩ := hfront.dropComma hne
      have hcomma : opening ++ '\x7b' :: (others ++ [',']) =
          (opening ++ '\x7b' :: others) ++ [','] := by simp
      rw [hcomma] at found ⊢
      refine ⟨_, others ++ trail, found (siteKind_last symbol hlead htrail), ?_, ?_⟩
      · simp [braced]
      · simpa using hothers trail htrail

/-! ## What is left of a clause -/

/-- A symbol is among the words of a binding as often as among its names: `as` is no symbol. -/
theorem Binding.count_words {symbol : Text} (hne : symbol ≠ asWord) (b : Binding) :
    b.words.count symbol = b.names.count symbol := by
  obtain ⟨name, newName⟩ := b
  cases newName with
  | none => rfl
  | some other => simp [Binding.words, Binding.names, List.count_cons, Ne.symm hne]

/-- And so it is for a clause. -/
theorem Clause.count_words {symbol : Text} (hne : symbol ≠ asWord) (c : Clause) :
    c.words.count symbol = c.names.count symbol := by
  simp only [Clause.words, Clause.names, List.count_append, Nat.add_left_cancel_iff]
  induction c.named with
  | nil => rfl
  | cons b bs ih => simp only [List.flatMap_cons, List.count_append, ih, Binding.count_words hne]

/-- A symbol that is bound under its own name is a name each time. -/
theorem count_le_names (symbol : Text) (bs : List Binding) :
    bs.count ⟨symbol, none⟩ ≤ (bs.flatMap Binding.names).count symbol := by
  induction bs with
  | nil => rfl
  | cons b bs ih =>
    rw [List.flatMap_cons, List.count_append, List.count_cons]
    split
    · rename_i heq
      obtain rfl := beq_iff_eq.mp heq
      have : (⟨symbol, none⟩ : Binding).names.count symbol = 1 := by simp [Binding.names]
      omega
    · omega

/-- What is known of a clause that names a symbol once. -/
theorem Clause.binds_cases {c : Clause} {symbol : Text} (once : c.names.count symbol = 1)
    (binds : c.Binds symbol) :
    (c.default = some symbol ∧ c.without symbol = ⟨none, c.named⟩) ∨
      (c.named.count ⟨symbol, none⟩ = 1 ∧
        c.without symbol = ⟨c.default, c.named.filter (· ≠ ⟨symbol, none⟩)⟩) := by
  obtain ⟨default, named⟩ := c
  have hnamed := count_le_names symbol named
  simp only [Clause.names, List.count_append] at once
  rcases binds with rfl | hmem
  · have hself : (some symbol).toList.count symbol = 1 := by simp
    have hnone : ⟨symbol, none⟩ ∉ named := List.count_eq_zero.mp (by omega)
    refine .inl ⟨rfl, ?_⟩
    have hkeep : named.filter (· ≠ ⟨symbol, none⟩) = named :=
      List.filter_eq_self.mpr fun b hb => by
        simpa using fun heq : b = ⟨symbol, none⟩ => hnone (heq ▸ hb)
    simp only [Clause.without, hkeep]
    simp
  · have hpos : 0 < named.count ⟨symbol, none⟩ := List.count_pos_iff.mpr hmem
    refine .inr ⟨show named.count ⟨symbol, none⟩ = 1 by omega, ?_⟩
    have hdefault : default.filter (· ≠ symbol) = default := by
      cases default with
      | none => rfl
      | some name =>
        have hne : name ≠ symbol := by
          rintro rfl
          simp at once
          omega
        simp [hne]
    simp only [Clause.without, hdefault]

/-- **Cutting a binding out of a clause** leaves a clause of the others. -/
theorem bindingInClause_spells {c : Clause} {clause symbol : Text}
    (spells : SpellsClause c clause) (names : ∀ name ∈ c.names, IsPlainName name)
    (once : c.names.count symbol = 1) (binds : c.Binds symbol) (grouped : ',' ∈ clause) :
    ∃ b, bindingInClause symbol clause = some b ∧
      SpellsClause (c.without symbol) (b.before ++ b.after) := by
  have hmem : symbol ∈ c.names := List.count_pos_iff.mp (by omega)
  have hsymbol := names symbol hmem
  have hnames := fun name hname => (names name hname).isName
  have hruns : (runsOf isIdentifierChar clause).count symbol = 1 := by
    rw [spells.runs isWordClass_identifier hnames, Clause.count_words hsymbol.ne_as, once]
  have hstar : '*' ∉ clause := fun h => absurd (spells.chars hnames _ h) (by decide)
  have hlist : ∀ b ∈ c.named, IsName b.name := fun b hb => hnames b.name
    (List.mem_append_right _ (List.mem_flatMap.mpr ⟨b, hb, List.mem_cons_self⟩))
  rcases Clause.binds_cases once binds with ⟨hdefault, hleft⟩ | ⟨hsingle, hleft⟩
  · rw [hleft]
    cases spells with
    | @default name lead trail hlead hne htrail hne' =>
      -- there is no comma in it
      obtain rfl : name = symbol := Option.some.inj hdefault
      have hcomma : isIndent ',' = false := by decide
      have hname : ',' ∉ name := hsymbol.isName.not_mem_signs ',' (by decide)
      simp [hlead.not_mem hcomma, htrail.not_mem hcomma, hname] at grouped
    | named => cases hdefault
    | @both name bs lead gap gap' list trail hlead hne hgap hgap' hbs htrail hne' =>
      obtain rfl : name = symbol := Option.some.inj hdefault
      have hfront : AtBinding [] := rfl
      have hafter : (gap ++ ',' :: (gap' ++ braced list trail)).head?.any isIdentifierChar =
          false :=
        isWordClass_identifier.head hgap.gap fun _ => show isIdentifierChar ',' = false by decide
      refine ⟨_, bindingInClause_of_site hsymbol.isName hne (hfront.noIdentifier hlead) hafter hruns
        hstar (siteKind_comma name hfront hlead hgap), ?_⟩
      have hbrace : isIndent '\x7b' = false := by decide
      simp only [braced, dropWhile_cut hbrace, List.dropWhile_eq_nil_iff.mpr hgap']
      exact .named hlead hbs htrail hne'
  · rw [hleft]
    have hmem := List.count_pos_iff.mp (Nat.lt_of_lt_of_eq Nat.one_pos hsingle.symm)
    cases spells with
    | default => cases hmem
    | @named bs lead list trail hlead hbs htrail hne' =>
      obtain ⟨b, list', hb, hcut, hspells⟩ :=
        bindingInClause_list hsymbol.isName hbs hlist hmem hsingle hruns hstar
      exact ⟨b, hb, hcut ▸ .named hlead hspells htrail hne'⟩
    | @both name bs lead gap gap' list trail hlead hne hgap hgap' hbs htrail hne' =>
      have hopening : lead ++ (name ++ (gap ++ ',' :: (gap' ++ braced list trail))) =
          (lead ++ (name ++ (gap ++ ',' :: gap'))) ++ braced list trail := by simp
      rw [hopening] at hruns hstar ⊢
      obtain ⟨b, list', hb, hcut, hspells⟩ :=
        bindingInClause_list hsymbol.isName hbs hlist hmem hsingle hruns hstar
      refine ⟨b, hb, ?_⟩
      rw [hcut]
      simpa using SpellsClause.both hlead hne hgap hgap' hspells htrail hne'

/-! ## The clause of a line -/

/-- A text without a `from` in it is split at the one behind it. -/
theorem splitClause_of_free {last : Option Char} {clause rest : Text}
    (fits : (fromShape (Shape.behind last clause) rest).isSome = true)
    (plain : ∀ c ∈ clause, ¬ isQuoteMark c ∧ isLineEnd c = false)
    (free : ∀ u c v, clause = u ++ c :: v →
      fromShape (Shape.behind last u) (c :: v ++ rest) = none) :
    splitClause last (clause ++ rest) = some (clause, rest) := by
  induction clause generalizing last with
  | nil =>
    cases rest with
    | nil =>
      obtain ⟨-, rest, hrest, -⟩ := fromShape_isSome.mp fits
      cases hrest
    | cons c rest =>
      have hfits : (fromShape last (c :: rest)).isSome = true := fits
      simp [splitClause, hfits]
  | cons c clause ih =>
    have hnone : fromShape last (c :: (clause ++ rest)) = none := free [] c clause rfl
    obtain ⟨hquote, hend⟩ := plain c (by simp)
    have hstop : (c == '\'' || c == '"' || isLineEnd c) = false := by
      simp only [isQuoteMark, not_or] at hquote
      simp [hquote, hend]
    rw [Shape.behind_cons] at fits
    have hlater := ih fits (fun d hd => plain d (by simp [hd])) fun u d v huv => by
      have := free (c :: u) d v (by rw [huv, List.cons_append])
      rwa [Shape.behind_cons] at this
    simp only [List.cons_append, splitClause, hnone, Option.isSome_none, Bool.false_eq_true,
      if_false, hstop, hlater, Option.map_some]

/-- A text that the search takes for the clause of its line: it stands apart from the words around
    it, and none of its own words is `from`. -/
structure IsClauseText (clause : Text) : Prop where
  starts : clause.head?.any isWordChar = false
  ends : ∃ front b, clause = front ++ [b] ∧ isWordChar b = false
  plain : ∀ c ∈ clause, ¬ isQuoteMark c ∧ isLineEnd c = false
  noFrom : fromWord ∉ runsOf isWordChar clause

/-- What spells a clause is such a text. -/
theorem SpellsClause.isClauseText {c : Clause} {clause : Text} (spells : SpellsClause c clause)
    (names : ∀ name ∈ c.names, IsPlainName name) : IsClauseText clause := by
  have hnames := fun name hname => (names name hname).isName
  refine ⟨by simpa using spells.head isWordClass_word [], ?_,
    fun d hd => plain_of_isClauseChar (spells.chars hnames d hd), fun hfrom => ?_⟩
  · obtain ⟨front, b, hlast, hb⟩ := spells.concat
    have hblank : Blanks [b] := by simpa [Blanks] using hb
    exact ⟨front, b, hlast, isWordClass_word.gap b (hblank.gap b (by simp))⟩
  · rw [spells.runs isWordClass_word hnames] at hfrom
    rcases Clause.mem_words hfrom with hname | has
    · exact (names _ hname).ne_from rfl
    · exact absurd has (by decide)

namespace IsClauseText

variable {clause : Text}

/-- No word `from` starts in a clause. -/
theorem fromShape_eq_none (h : IsClauseText clause) {u v rest : Text} {d : Char}
    (huv : clause = u ++ d :: v) :
    fromShape (Shape.behind (some 't') u) (d :: v ++ (fromWord ++ rest)) = none := by
  by_contra hfits
  obtain ⟨hleft, more, hmore, hright⟩ :=
    fromShape_isSome.mp (Option.isSome_iff_ne_none.mpr hfits)
  -- the last character of the clause is in no word, so the word would end in front of it
  obtain ⟨front, b, hlast, hb⟩ := h.ends
  have hmem : b ∈ d :: v := by
    have := congrArg List.getLast? (hlast.symm.trans huv)
    rw [List.getLast?_concat, List.getLast?_append_of_ne_nil _ (by simp)] at this
    exact List.mem_of_getLast? this.symm
  have hfrom : b ∉ fromWord := fun hb' => by
    rw [isWordChar_of_mem_fromWord b hb'] at hb
    cases hb
  obtain ⟨z, hz, hrest⟩ : ∃ z, d :: v = fromWord ++ z ∧ more = z ++ (fromWord ++ rest) := by
    rcases List.append_eq_append_iff.mp hmore with ⟨z, hz, -⟩ | ⟨z, hz, hrest⟩
    · exact absurd (hz ▸ List.mem_append_left z hmem) hfrom
    · exact ⟨z, hz, hrest⟩
  have hu : u.getLast?.any isWordChar = false := by
    rcases List.eq_nil_or_concat' u with rfl | ⟨u, e, rfl⟩
    · rfl
    · simpa [Shape.behind_concat] using hleft
  have hzhead : z.head?.any isWordChar = false := by
    cases z with
    | nil => exact absurd (List.append_nil fromWord ▸ hz ▸ hmem) hfrom
    | cons e z => simpa [hrest] using hright
  refine h.noFrom ?_
  rw [huv, hz, runsOf_around (by decide) isWordChar_of_mem_fromWord hu hzhead]
  simp

/-- **The clause of a line is what stands in front of its `from`.** -/
theorem splitClause_eq (h : IsClauseText clause) {rest : Text}
    (hrest : rest.head?.any isWordChar = false) :
    splitClause (some 't') (clause ++ (fromWord ++ rest)) = some (clause, fromWord ++ rest) := by
  refine splitClause_of_free ?_ h.plain fun u d v huv => h.fromShape_eq_none huv
  obtain ⟨front, b, hlast, hb⟩ := h.ends
  rw [fromShape_isSome, hlast, Shape.behind_concat]
  exact ⟨hb, rest, rfl, hrest⟩

end IsClauseText

/-- An import line of its parts: what stands in front of the keyword, the clause, and what stands
    behind the word `from`. -/
def importText (indent clause rest : Text) : Text :=
  indent ++ (keyword ++ (clause ++ (fromWord ++ rest)))

/-- A line has the braces of its clause, where none stand behind the word `from`. -/
theorem openBrace_mem_importText {indent clause rest : Text} (hindent : Blanks indent)
    (hrest : '\x7b' ∉ rest) : '\x7b' ∈ importText indent clause rest ↔ '\x7b' ∈ clause := by
  have hblank : '\x7b' ∉ indent := hindent.not_mem (by decide)
  have hkeyword : '\x7b' ∉ keyword := by decide
  have hfrom : '\x7b' ∉ fromWord := by decide
  simp only [importText, List.mem_append, hblank, hkeyword, hfrom, hrest, or_false, false_or]

/-- The clause of a line is what was written as its clause. -/
theorem clauseOf_importText {indent clause rest : Text} (hindent : Blanks indent)
    (hclause : IsClauseText clause) (hrest : rest.head?.any isWordChar = false) :
    clauseOf (importText indent clause rest) =
      some ⟨indent ++ keyword, clause, fromWord ++ rest⟩ := by
  refine clauseOf_append hindent ?_ (hclause.splitClause_eq hrest)
  have ht : isWordChar 't' = true := by decide
  have hstarts : (clause ++ (fromWord ++ rest)).head?.any isWordChar = false := by
    obtain ⟨front, b, rfl, -⟩ := hclause.ends
    have := hclause.starts
    cases front <;> simpa using this
  rw [isBoundary, hstarts, Option.any_some, ht]
  rfl

/-- What is split off as a clause holds no quote and no line end. -/
theorem splitClause_plain {last : Option Char} {text clause rest : Text}
    (h : splitClause last text = some (clause, rest)) :
    ∀ c ∈ clause, ¬ isQuoteMark c ∧ isLineEnd c = false := by
  induction text generalizing last clause with
  | nil => cases h
  | cons c text ih =>
    simp only [splitClause] at h
    split at h
    · cases h
      simp
    · split at h
      · cases h
      · rename_i hstop
        obtain ⟨⟨later, _⟩, hsplit, heq⟩ := Option.map_eq_some_iff.mp h
        cases heq
        rw [Bool.not_eq_true, Bool.or_eq_false_iff, Bool.or_eq_false_iff] at hstop
        refine List.forall_mem_cons.mpr ⟨⟨?_, hstop.2⟩, ih hsplit⟩
        simpa [isQuoteMark] using hstop.1

/-- A clause ends at the first word `from`, so it has none itself. -/
theorem fromWord_not_mem_clause {text clause rest : Text}
    (h : splitClause (some 't') text = some (clause, rest))
    (starts : clause.head?.any isWordChar = false) : fromWord ∉ runsOf isWordChar clause := by
  obtain ⟨-, hfits, hearlier⟩ := splitClause_eq_some h
  obtain ⟨hlast, -⟩ := fromShape_isSome.mp hfits
  intro hfrom
  obtain ⟨u, v, rfl, -, hu, hv⟩ := split_of_mem_runsOf hfrom
  have hfront : (Shape.behind (some 't') u).any isWordChar = false := by
    by_cases hnil : u = []
    · have hf : isWordChar 'f' = true := by decide
      rw [hnil] at starts
      cases hf.symm.trans starts
    · obtain ⟨front, c, rfl⟩ := exists_concat hnil
      simpa [Shape.behind_concat] using hu
  have hback : (v ++ rest).head?.any isWordChar = false := by
    cases v with
    | nil =>
      have hend : u ++ (fromWord ++ []) = (u ++ ['f', 'r', 'o']) ++ ['m'] := by simp [fromWord]
      rw [hend, Shape.behind_concat] at hlast
      exact absurd hlast (by decide)
    | cons c v => exact hv
  have hfound : (fromShape (Shape.behind (some 't') u) (fromWord ++ (v ++ rest))).isSome = true :=
    fromShape_isSome.mpr ⟨hfront, _, rfl, hback⟩
  have hnone := hearlier u 'f' (['r', 'o', 'm'] ++ v) rfl
  rw [Option.isSome_iff_ne_none] at hfound
  exact hfound hnone

/-- **What a search takes for a clause** is one, and the line is put together from it. -/
theorem isClauseText_of_clauseOf {line : Text} {clause : Passage}
    (h : clauseOf line = some clause) :
    ∃ indent rest, clause = ⟨indent ++ keyword, clause.body, fromWord ++ rest⟩ ∧ Blanks indent ∧
      IsClauseText clause.body ∧ rest.head?.any isWordChar = false ∧
      line = importText indent clause.body rest := by
  obtain ⟨indent, hbefore, hindent, hline, hboundary, hsplit⟩ := clauseOf_eq_some h
  obtain ⟨-, hfits, -⟩ := splitClause_eq_some hsplit
  obtain ⟨hlast, rest, hafter, hrest⟩ := fromShape_isSome.mp hfits
  have ht : isWordChar 't' = true := by decide
  have hne : clause.body ≠ [] := by
    intro hnil
    rw [hnil, Shape.behind_nil] at hlast
    cases ht.symm.trans hlast
  have hstarts : clause.body.head?.any isWordChar = false := by
    obtain ⟨c, more, hc⟩ := List.exists_cons_of_ne_nil hne
    simpa [hc, isBoundary, ht] using hboundary
  have hends : ∃ front b, clause.body = front ++ [b] ∧ isWordChar b = false := by
    obtain ⟨front, b, hb⟩ := exists_concat hne
    exact ⟨front, b, hb, by simpa [hb, Shape.behind_concat] using hlast⟩
  refine ⟨indent, rest, ?_, hindent,
    ⟨hstarts, hends, splitClause_plain hsplit, fromWord_not_mem_clause hsplit hstarts⟩, hrest, ?_⟩
  · rw [← hbefore, ← hafter]
  · rw [hline, hbefore, hafter, importText, List.append_assoc]

/-- Where the clause binds a symbol, the line does, and the cut in the line is the one in the
    clause. -/
theorem bindingOnLine_importText {indent clause rest symbol : Text} {b : Passage}
    (hindent : Blanks indent) (hclause : IsClauseText clause)
    (hrest : rest.head?.any isWordChar = false) (hb : bindingInClause symbol clause = some b) :
    ∃ binding, bindingOnLine symbol (importText indent clause rest) = some binding ∧
      binding.before ++ binding.after = importText indent (b.before ++ b.after) rest := by
  have hline : bindingOnLine symbol (importText indent clause rest) =
      some (Passage.inBody ⟨indent ++ keyword, clause, fromWord ++ rest⟩ b) := by
    simp only [bindingOnLine, clauseOf_importText hindent hclause hrest, hb, Option.map_some]
  exact ⟨_, hline, by simp [Passage.inBody, importText]⟩

end RouteLocalizer.Import
