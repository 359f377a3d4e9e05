/-
  What is LEFT OF A LINE when one of its bindings is cut out.

  A list without bindings goes with its braces and the comma in front of it, and a line without
  bindings goes as a whole.  Both are told by a search in the line, and the crux is that the
  searches see the list and the clause that were written: the line has no other brace than those of
  the list (`firstOf_emptyList`, `firstOf_emptyList_eq_none`), and a line whose clause has a word
  does not read as one without (`emptyClause_eq_false`).  So what is left is an import of the other
  bindings (`importText_cut`).

  SPECIFICATION, for a clause with legal names and blanks:
  (1) `emptyBraces_eq_some` — an empty list is blanks within braces, and takes a comma with it;
  (2) `withoutEmptyList_importText` — without that list the line has the bindings it had;
  (3) `importText_cut` — cutting one binding out leaves an import of the others, or nothing.
-/
import RouteLocalizer.Proofs.Excision

namespace RouteLocalizer.Import

open Text

/-! ## A list without bindings -/

/-- A character that may stand between a name and an empty list. -/
def isSeparator (c : Char) : Bool := isIndent c || c == ','

/-- Blanks are separators, ... -/
theorem Blanks.separators {gap : Text} (h : Blanks gap) : ∀ c ∈ gap, isSeparator c = true :=
  fun c hc => by simp [isSeparator, h c hc]

/-- ... and no character of a name is one. -/
theorem IsName.noSeparator {name : Text} (h : IsName name) :
    ∀ c ∈ name, isSeparator c = false := by
  intro c hc
  have hcomma : c ≠ ',' := fun heq => h.not_mem_signs ',' (by decide) (heq ▸ hc)
  simp [isSeparator, h.noIndent c hc, hcomma]

/-- What stands between a name and its list, or between the keyword and a list. -/
inductive IsSeparation : Text → Prop where
  | blank {gap : Text} (hgap : Blanks gap) : IsSeparation gap
  | comma {gap gap' : Text} (hgap : Blanks gap) (hgap' : Blanks gap') :
      IsSeparation (gap ++ ',' :: gap')

/-- Braces with blanks in front of them and between them. -/
def emptyBraces : Shape :=
  Shape.run isIndent <| Shape.literal ['\x7b'] <| Shape.run isIndent <|
    Shape.literal ['\x7d'] Shape.finish

theorem emptyList_eq : emptyList = Shape.run isIndent (Shape.optional ',' emptyBraces) := rfl

/-- **An empty list of names is blanks within braces**, with blanks in front of them. -/
theorem emptyBraces_eq_some {last : Option Char} {text rest : Text}
    (h : emptyBraces last text = some rest) :
    ∃ gap list, text = gap ++ braced list rest ∧ Blanks gap ∧ Blanks list := by
  obtain ⟨gap, more, rfl, hgap, hopen⟩ := Shape.run_eq_some h
  obtain ⟨more, rfl, hrun⟩ := Shape.literal_eq_some.mp hopen
  obtain ⟨list, more, rfl, hlist, hclose⟩ := Shape.run_eq_some hrun
  obtain ⟨more, rfl, hfinish⟩ := Shape.literal_eq_some.mp hclose
  obtain rfl := Shape.finish_eq_some.mp hfinish
  exact ⟨gap, list, rfl, hgap, hlist⟩

/-- What is found as an empty list has blanks and commas in front, and blanks between braces. -/
theorem emptyList_eq_some {last : Option Char} {text rest : Text}
    (h : emptyList last text = some rest) : ∃ gap list, text = gap ++ braced list rest ∧
      (∀ c ∈ gap, isSeparator c = true) ∧ Blanks list := by
  obtain ⟨gap, more, rfl, hgap, hoptional⟩ := Shape.run_eq_some (emptyList_eq ▸ h)
  have hgap : Blanks gap := hgap
  rcases Option.or_eq_some_iff.mp hoptional with hcomma | ⟨-, hnone⟩
  · obtain ⟨more, rfl, hmore⟩ := Shape.literal_eq_some.mp hcomma
    obtain ⟨gap', list, rfl, hgap', hlist⟩ := emptyBraces_eq_some hmore
    refine ⟨gap ++ ',' :: gap', list, by simp, ?_, hlist⟩
    simp only [List.forall_mem_append, List.forall_mem_cons]
    exact ⟨hgap.separators, by decide, hgap'.separators⟩
  · obtain ⟨gap', list, rfl, hgap', hlist⟩ := emptyBraces_eq_some hnone
    exact ⟨gap ++ gap', list, by simp, (hgap.append hgap').separators, hlist⟩

/-- And such a text fits. -/
theorem emptyBraces_fits {last : Option Char} {gap list : Text} (hgap : Blanks gap)
    (hlist : Blanks list) (rest : Text) :
    emptyBraces last (gap ++ braced list rest) = some rest := by
  have hopen : isIndent '\x7b' = false := by decide
  have hclose : isIndent '\x7d' = false := by decide
  rw [emptyBraces, Shape.run_append (Shape.excludes_literal hopen _) hgap _
      (by simp [braced, hopen]), braced, Shape.literal_singleton,
    Shape.run_append (Shape.excludes_literal hclose _) hlist _ (by simp [hclose]),
    Shape.literal_singleton]
  rfl

/-- An empty list fits together with all that separates it. -/
theorem emptyList_fits {last : Option Char} {gap list : Text} (hgap : IsSeparation gap)
    (hlist : Blanks list) (rest : Text) : emptyList last (gap ++ braced list rest) = some rest := by
  rw [emptyList_eq]
  cases hgap with
  | blank hgap =>
    refine Shape.run_of_fits hgap (show isIndent '\x7b' = false by decide) ?_
    have hcomma : ¬ [','] <+: braced list rest := by simp [braced]
    rw [Shape.optional, Shape.literal_eq_none hcomma, Option.none_or]
    exact emptyBraces_fits (show Blanks [] by simp [Blanks]) hlist rest
  | @comma gap gap' hgap hgap' =>
    rw [List.append_assoc, List.cons_append]
    refine Shape.run_of_fits hgap (show isIndent ',' = false by decide) ?_
    rw [Shape.optional, Shape.literal_singleton, emptyBraces_fits hgap' hlist, Option.some_or]

/-- **The empty list of a text** is found, behind a character that does not belong to it. -/
theorem firstOf_emptyList {front gap list : Text} {e : Char} (hgap : IsSeparation gap)
    (hlist : Blanks list) (hbrace : '\x7b' ∉ front) (he : isSeparator e = false)
    (hlast : front.getLast? = some e) (rest : Text) :
    Shape.firstOf emptyList (front ++ (gap ++ braced list rest)) =
      some ⟨front, gap ++ braced list [], rest⟩ := by
  have hbody : gap ++ braced list rest = (gap ++ braced list []) ++ rest := by simp [braced]
  rw [hbody]
  refine Shape.firstFrom_of_fits (hbody ▸ emptyList_fits hgap hlist rest) fun u c v huv => ?_
  by_contra hfits
  obtain ⟨more, hmore⟩ := Option.ne_none_iff_exists'.mp hfits
  obtain ⟨gap', list', htext, hgap', -⟩ := emptyList_eq_some hmore
  -- a find that starts earlier ends in the front, or takes in the last character of it
  have hmem : e ∈ c :: v := by
    rw [huv, List.getLast?_append_of_ne_nil _ (by simp)] at hlast
    exact List.mem_of_getLast? hlast
  have hnot : e ∉ gap' := fun h => by
    rw [hgap' e h] at he
    cases he
  have hopen : '\x7b' ∉ c :: v := fun h => hbrace (huv ▸ List.mem_append_right u h)
  obtain ⟨z, rfl, -⟩ := exists_of_cut hopen htext.symm
  exact hnot (List.mem_append_left z hmem)

/-- Without a brace there is no list to be found. -/
theorem firstOf_emptyList_of_not_mem {text : Text} (h : '\x7b' ∉ text) :
    Shape.firstOf emptyList text = none := by
  refine Shape.firstFrom_of_none fun u v huv => ?_
  by_contra hfits
  obtain ⟨more, hmore⟩ := Option.ne_none_iff_exists'.mp hfits
  obtain ⟨gap, list, rfl, -, -⟩ := emptyList_eq_some hmore
  exact h (by simp [huv, braced])

/-- A list with something in it is no empty list, and there is no other. -/
theorem firstOf_emptyList_eq_none {front list rest : Text} (hfront : '\x7b' ∉ front)
    (hlist : '\x7b' ∉ list) (hrest : '\x7b' ∉ rest) (hclose : '\x7d' ∉ list)
    (hne : ¬ Blanks list) : Shape.firstOf emptyList (front ++ braced list rest) = none := by
  refine Shape.firstFrom_of_none fun u v huv => ?_
  by_contra hfits
  obtain ⟨more, hmore⟩ := Option.ne_none_iff_exists'.mp hfits
  obtain ⟨gap, list', rfl, -, hlist'⟩ := emptyList_eq_some hmore
  have hsplit : (u ++ gap) ++ '\x7b' :: (list' ++ '\x7d' :: more) =
      front ++ '\x7b' :: (list ++ '\x7d' :: rest) := by
    simpa [braced] using huv.symm
  -- the text has one opening brace, and the first closing one behind it ends both lists
  obtain ⟨-, -, hinner⟩ := (List.append_cons_inj_of_notMem hfront (by simp [hlist, hrest])).mp
    hsplit.symm
  have hfree : ∀ text : Text, '\x7d' ∉ text → ∀ c ∈ text, (c != '\x7d') = true :=
    fun text h c hc => by simpa using fun heq : c = '\x7d' => h (heq ▸ hc)
  have hclose' : '\x7d' ∉ list' := hlist'.not_mem (by decide)
  have : list = list' := word_unique hinner (hfree _ hclose) (hfree _ hclose') rfl rfl
  exact hne (this ▸ hlist')

/-- The line without its empty list, if it has one. -/
def withoutEmptyList (line : Text) : Text :=
  match Shape.firstOf emptyList line with
  | some p => p.replaceWith []
  | none => line

theorem lineWithout_eq (binding : Passage) : lineWithout binding =
    if Shape.occursIn emptyClause (withoutEmptyList (binding.before ++ binding.after)) then none
    else some (withoutEmptyList (binding.before ++ binding.after)) := by
  have hcut : binding.replaceWith [] = binding.before ++ binding.after := by
    simp [Passage.replaceWith]
  rw [lineWithout, hcut]
  rfl

/-- A list of bindings is blank only when there is none. -/
theorem SpellsList.eq_nil_of_blanks {bs : List Binding} {list : Text} (spells : SpellsList bs list)
    (names : ∀ b ∈ bs, ∀ name ∈ b.names, IsName name) (h : Blanks list) : bs = [] := by
  have hruns := spells.runs isWordClass_word names
  rw [isWordClass_word.runs_blanks h] at hruns
  cases bs with
  | nil => rfl
  | cons b bs => cases hruns

theorem SpellsList.blanks {list : Text} (spells : SpellsList [] list) : Blanks list := by
  cases spells with
  | gap hgap => exact hgap

/-- A list that is empty goes, and what separates it from the front goes with it. -/
theorem withoutEmptyList_of_blanks {front gap list : Text} {e : Char} (hgap : IsSeparation gap)
    (hlist : Blanks list) (hbrace : '\x7b' ∉ front) (he : isSeparator e = false)
    (hlast : front.getLast? = some e) (rest : Text) :
    withoutEmptyList (front ++ (gap ++ braced list rest)) = front ++ rest := by
  simp [withoutEmptyList, firstOf_emptyList hgap hlist hbrace he hlast, Passage.replaceWith]

/-- A list with a binding stays. -/
theorem withoutEmptyList_of_spells {bs : List Binding} {front list rest : Text}
    (spells : SpellsList bs list) (names : ∀ b ∈ bs, ∀ name ∈ b.names, IsName name) (hne : bs ≠ [])
    (hbrace : '\x7b' ∉ front) (hrest : '\x7b' ∉ rest) :
    withoutEmptyList (front ++ braced list rest) = front ++ braced list rest := by
  have hopen : '\x7b' ∉ list := fun h => absurd (spells.chars names _ h) (by decide)
  have hclose : '\x7d' ∉ list := fun h => absurd (spells.chars names _ h) (by decide)
  rw [withoutEmptyList, firstOf_emptyList_eq_none hbrace hopen hrest hclose fun hblank =>
    hne (spells.eq_nil_of_blanks names hblank)]

/-- **What is left of a line without its empty list** is a line with the same bindings, or one with
    a blank clause when there is none. -/
theorem withoutEmptyList_importText {c : Clause} {indent clause rest : Text}
    (hindent : Blanks indent) (spells : SpellsClause c clause)
    (names : ∀ name ∈ c.names, IsPlainName name) (hrest : '\x7b' ∉ rest) :
    ∃ clause', withoutEmptyList (importText indent clause rest) = importText indent clause' rest ∧
      (c = ⟨none, []⟩ ∧ Blanks clause' ∨
        c ≠ ⟨none, []⟩ ∧ SpellsClause c clause' ∧ (c.named = [] → '\x7b' ∉ clause')) := by
  have hnames := fun name hname => (names name hname).isName
  have hblank : ∀ {gap : Text}, Blanks gap → '\x7b' ∉ gap := fun hgap =>
    hgap.not_mem (by decide)
  have hname : ∀ name ∈ c.names, '\x7b' ∉ name := fun name h =>
    (hnames name h).not_mem_signs _ (by decide)
  have hkeyword : '\x7b' ∉ keyword := by decide
  have hfrom : '\x7b' ∉ fromWord := by decide
  have htail : ∀ {trail : Text}, Blanks trail → '\x7b' ∉ trail ++ (fromWord ++ rest) :=
    fun htrail => by simp [hblank htrail, hfrom, hrest]
  cases spells with
  | @default name lead trail hlead hne htrail hne' =>
    have hclause : '\x7b' ∉ lead ++ (name ++ trail) := by
      simp [hblank hlead, hblank htrail, hname name List.mem_cons_self]
    have hline : '\x7b' ∉ importText indent (lead ++ (name ++ trail)) rest := fun h =>
      hclause ((openBrace_mem_importText hindent hrest).mp h)
    refine ⟨_, by rw [withoutEmptyList, firstOf_emptyList_of_not_mem hline], .inr ⟨by simp,
      .default hlead hne htrail hne', fun _ => hclause⟩⟩
  | @named bs lead list trail hlead hlist htrail hne' =>
    by_cases hbs : bs = []
    · -- what is left of the clause are the blanks behind the braces
      subst hbs
      have hlast : (indent ++ keyword).getLast? = some 't' := by
        rw [List.getLast?_append_of_ne_nil _ (by decide)]
        rfl
      have hdrop := withoutEmptyList_of_blanks (.blank hlead) hlist.blanks
        (by simp [hblank hindent, hkeyword]) (by decide) hlast (trail ++ (fromWord ++ rest))
      exact ⟨trail, by simpa [importText, braced] using hdrop, .inl ⟨rfl, htrail⟩⟩
    · have hfront : '\x7b' ∉ indent ++ (keyword ++ lead) := by
        simp [hblank hindent, hkeyword, hblank hlead]
      have hkeep := withoutEmptyList_of_spells hlist (Clause.names_named hnames) hbs hfront
        (htail htrail)
      exact ⟨lead ++ braced list trail, by simpa [importText, braced] using hkeep,
        .inr ⟨by simpa using hbs, .named hlead hlist htrail hne', fun h => absurd h hbs⟩⟩
  | @both name bs lead gap gap' list trail hlead hne hgap hgap' hlist htrail hne' =>
    have hmem : name ∈ (⟨some name, bs⟩ : Clause).names := List.mem_cons_self
    by_cases hbs : bs = []
    · -- the comma goes with the braces, and the default name is left
      subst hbs
      obtain ⟨init, e, rfl⟩ := exists_concat (hnames name hmem).nonempty
      have he : isSeparator e = false := (hnames _ hmem).noSeparator e (by simp)
      have hlast : (indent ++ (keyword ++ (lead ++ (init ++ [e])))).getLast? = some e := by
        simp [← List.append_assoc]
      have hdrop := withoutEmptyList_of_blanks (.comma hgap hgap') hlist.blanks
        (by simpa [hblank hindent, hkeyword, hblank hlead] using hname _ hmem) he hlast
        (trail ++ (fromWord ++ rest))
      refine ⟨lead ++ ((init ++ [e]) ++ trail), by simpa [importText, braced] using hdrop,
        .inr ⟨by simp, .default hlead hne htrail hne', fun _ => ?_⟩⟩
      simpa [hblank hlead, hblank htrail] using hname _ hmem
    · have hfront : '\x7b' ∉ indent ++ (keyword ++ (lead ++ (name ++ (gap ++ ',' :: gap')))) := by
        simp [hblank hindent, hkeyword, hblank hlead, hname _ hmem, hblank hgap, hblank hgap']
      have hkeep := withoutEmptyList_of_spells hlist (Clause.names_named hnames) hbs hfront
        (htail htrail)
      exact ⟨lead ++ (name ++ (gap ++ ',' :: (gap' ++ braced list trail))),
        by simpa [importText, braced] using hkeep,
        .inr ⟨by simp, .both hlead hne hgap hgap' hlist htrail hne', fun h => absurd h hbs⟩⟩

/-! ## A clause without bindings -/

/-- Blanks and the keyword are read off the front of a line. -/
theorem run_indent_keyword {next : Shape} {last : Option Char} {indent : Text}
    (hindent : Blanks indent) (rest : Text) :
    Shape.run isIndent (Shape.literal keyword next) last (indent ++ (keyword ++ rest)) =
      next (Shape.behind (Shape.behind last indent) keyword) rest := by
  have hi : isIndent 'i' = false := by decide
  have hkeyword : (Shape.literal keyword next).Excludes isIndent := Shape.excludes_literal hi _
  rw [Shape.run_append hkeyword hindent _ (by simp [keyword, hi]), Shape.literal_append]

/-- A line whose clause is blank is found. -/
theorem emptyClause_of_blanks {indent gap rest : Text} (hindent : Blanks indent)
    (hgap : Blanks gap) (hrest : rest.head?.any isWordChar = false) :
    Shape.occursIn emptyClause (importText indent gap rest) = true := by
  have hf : isIndent 'f' = false := by decide
  have hfrom : ∀ next : Shape, (Shape.literal fromWord next).Excludes isIndent :=
    fun _ => Shape.excludes_literal hf _
  rw [emptyClause, Shape.occursIn_textStart, importText, run_indent_keyword hindent,
    Shape.run_append (hfrom _) hgap _ (by simp [fromWord, hf]), Shape.literal_append]
  exact Option.isSome_iff_exists.mpr
    ⟨rest, Shape.boundary_eq_some.mpr ⟨(isBoundary_fromWord _ _).mpr hrest, rfl⟩⟩

/-- A clause binds nothing, or it has words. -/
theorem Clause.words_cases (c : Clause) : c = ⟨none, []⟩ ∨ c.words ≠ [] := by
  obtain ⟨default, named⟩ := c
  cases default with
  | some name => exact .inr (List.cons_ne_nil _ _)
  | none =>
    cases named with
    | nil => exact .inl rfl
    | cons b bs => exact .inr (List.cons_ne_nil _ _)

/-- A line that reads as one without bindings has a blank clause. -/
theorem blanks_of_emptyClause {indent clause rest : Text} (hindent : Blanks indent)
    (hclause : IsClauseText clause)
    (h : Shape.occursIn emptyClause (importText indent clause rest) = true) : Blanks clause := by
  rw [emptyClause, Shape.occursIn_textStart] at h
  obtain ⟨_, hsome⟩ := Option.isSome_iff_exists.mp h
  obtain ⟨indent', _, htext, hindent', hkeyword⟩ := Shape.run_eq_some hsome
  obtain ⟨_, rfl, hrun⟩ := Shape.literal_eq_some.mp hkeyword
  obtain ⟨gap, _, rfl, hgap, hfrom⟩ := Shape.run_eq_some hrun
  obtain ⟨rest', rfl, hboundary⟩ := Shape.literal_eq_some.mp hfrom
  have hindent' : Blanks indent' := hindent'
  have hgap : Blanks gap := hgap
  have hparts : clause ++ (fromWord ++ rest) = gap ++ (fromWord ++ rest') :=
    eq_of_indent htext hindent.isBlank hindent'.isBlank
  have hrest' := (isBoundary_fromWord _ _).mp (Shape.boundary_eq_some.mp hboundary).1
  rcases List.append_eq_append_iff.mp hparts with ⟨z, rfl, -⟩ | ⟨z, rfl, hfromz⟩
  · exact fun c hc => hgap c (List.mem_append_left z hc)
  · cases z with
    | nil => simpa using hgap
    | cons d z =>
      -- the clause would go on over its own word `from`
      have hfits : (fromShape (Shape.behind (some 't') gap) (d :: z ++ (fromWord ++ rest))).isSome =
          true := by
        rw [← hfromz]
        refine fromShape_isSome.mpr ⟨?_, rest', rfl, hrest'⟩
        by_cases hnil : gap = []
        · obtain rfl : 'f' = d := (List.cons.inj hfromz).1
          rw [hnil] at hclause
          exact absurd hclause.starts (by simp; decide)
        · obtain ⟨front, b, rfl⟩ := exists_concat hnil
          rw [Shape.behind_concat]
          exact isWordChar_of_isBlank (hgap.isBlank b (by simp))
      rw [hclause.fromShape_eq_none rfl] at hfits
      cases hfits

/-- **A line with a binding** is none without. -/
theorem emptyClause_eq_false {c : Clause} {indent clause rest : Text} (hindent : Blanks indent)
    (spells : SpellsClause c clause) (names : ∀ name ∈ c.names, IsPlainName name)
    (binds : c ≠ ⟨none, []⟩) :
    Shape.occursIn emptyClause (importText indent clause rest) = false := by
  rw [Bool.eq_false_iff]
  intro h
  have hblanks := blanks_of_emptyClause hindent (spells.isClauseText names) h
  have hruns := spells.runs isWordClass_word fun name hname => (names name hname).isName
  rw [isWordClass_word.runs_blanks hblanks] at hruns
  exact c.words_cases.resolve_left binds hruns.symm

/-! ## A line without one of its bindings -/

/-- **Cutting a binding out of its line** leaves an import of the others, with the same text in
    front of the clause and behind it, and no braces where no list is left.  Where no binding is
    left, no line is left. -/
theorem importText_cut {c : Clause} {indent clause rest symbol : Text} (hindent : Blanks indent)
    (spells : SpellsClause c clause) (names : ∀ name ∈ c.names, IsPlainName name)
    (once : c.names.count symbol = 1) (binds : c.Binds symbol) (grouped : ',' ∈ clause)
    (hrest : rest.head?.any isWordChar = false) (hbrace : '\x7b' ∉ rest) :
    ∃ b, bindingOnLine symbol (importText indent clause rest) = some b ∧
      (c.without symbol = ⟨none, []⟩ ∧ lineWithout b = none ∨
        ∃ clause', lineWithout b = some (importText indent clause' rest) ∧
          SpellsClause (c.without symbol) clause' ∧
          ((c.without symbol).named = [] → '\x7b' ∉ clause')) := by
  obtain ⟨site, hsite, hleft⟩ := bindingInClause_spells spells names once binds grouped
  obtain ⟨b, hb, hcut⟩ :=
    bindingOnLine_importText hindent (spells.isClauseText names) hrest hsite
  have names' : ∀ name ∈ (c.without symbol).names, IsPlainName name := fun name hname =>
    names name (c.names_without symbol hname)
  obtain ⟨clause', hline, hclause⟩ := withoutEmptyList_importText hindent hleft names' hbrace
  refine ⟨b, hb, ?_⟩
  rw [lineWithout_eq, hcut, hline]
  rcases hclause with ⟨hnone, hblank⟩ | ⟨hsome, hspells, hbraces⟩
  · rw [emptyClause_of_blanks hindent hblank hrest]
    exact .inl ⟨hnone, rfl⟩
  · rw [emptyClause_eq_false hindent hspells names' hsome]
    exact .inr ⟨clause', rfl, hspells, hbraces⟩

end RouteLocalizer.Import
