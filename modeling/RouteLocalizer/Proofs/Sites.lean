/-
  The SITES of a name, told part by part.

  A character that is no part of an identifier cuts a text for the search of a name: no occurrence
  runs over it, and what stands on the other side of it does not bound a site.  So the sites of a
  text are those in front of such a character and those behind it (`identifierSites_append`).

  A text between two cuts is a word, and its only site is the word itself
  (`identifierSites_word`).  From the two it follows that the search finds the name wherever it
  stands between two ends of words (`mem_identifierSites`).

  Said without the search: the sites are, from left to right, the RUNS of identifier characters that
  are the name (`identifierSites_runs`).  The search skips what overlaps the occurrence before, also
  when that one is no site.  Nothing is missed: what is skipped starts behind a character of the
  name, and so it is only a part of a run.
-/
import RouteLocalizer.Proofs.Runs
import RouteLocalizer.Text.Identifier

namespace RouteLocalizer

/-- The same passage, found in a text that has more behind. -/
def Passage.followedBy (p : Passage) (text : Text) : Passage := { p with after := p.after ++ text }

namespace Text

/-- A name that is made of identifier characters. -/
structure IsIdentifier (name : Text) : Prop where
  nonempty : name ≠ []
  chars : ∀ c ∈ name, isIdentifierChar c = true

instance (name : Text) : Decidable (IsIdentifier name) :=
  decidable_of_iff (name ≠ [] ∧ ∀ c ∈ name, isIdentifierChar c = true)
    ⟨fun ⟨nonempty, chars⟩ => ⟨nonempty, chars⟩, fun h => ⟨h.nonempty, h.chars⟩⟩

theorem isBounded_iff {last next : Option Char} : isBounded last next = true ↔
    last.any isIdentifierChar = false ∧ next.any isIdentifierChar = false := by
  simp [isBounded]

/-! ## What a site is -/

/-- One step of the search: it goes on behind the first character, and if the name stands here on
    its own, here is a site. -/
theorem identifierSitesFrom_cons (name : Text) (skip : Nat) (passed : Text) (c : Char) (cs : Text) :
    ∃ k, identifierSitesFrom name skip passed (c :: cs) =
          identifierSitesFrom name k (c :: passed) cs ∨
        ∃ rest, c :: cs = name ++ rest ∧ isBounded passed.head? rest.head? = true ∧
          identifierSitesFrom name skip passed (c :: cs) =
            ⟨passed.reverse, name, rest⟩ :: identifierSitesFrom name k (c :: passed) cs := by
  cases skip with
  | succ k => exact ⟨k, .inl rfl⟩
  | zero =>
    cases hword : afterWord name (c :: cs) with
    | none => exact ⟨0, .inl (by simp only [identifierSitesFrom, hword])⟩
    | some rest =>
      refine ⟨name.length - 1, ?_⟩
      simp only [identifierSitesFrom, hword]
      by_cases hbounded : isBounded passed.head? rest.head? = true
      · exact .inr ⟨rest, afterWord_eq_some_iff.mp hword, hbounded, if_pos hbounded⟩
      · exact .inl (if_neg hbounded)

theorem identifierSitesFrom_eq {name : Text} {p : Passage} {skip : Nat} {passed text : Text}
    (h : p ∈ identifierSitesFrom name skip passed text) :
    p.before ++ (p.body ++ p.after) = passed.reverse ++ text ∧ p.body = name ∧
      isBounded p.before.getLast? p.after.head? = true := by
  induction text generalizing skip passed with
  | nil =>
    simp only [identifierSitesFrom] at h
    split at h
    · rename_i hall
      obtain ⟨-, rfl, hbounded⟩ := hall
      obtain rfl := List.mem_singleton.mp h
      exact ⟨by simp, rfl, by simpa [List.getLast?_reverse] using hbounded⟩
    · cases h
  | cons c cs ih =>
    have later : ∀ {k}, p ∈ identifierSitesFrom name k (c :: passed) cs →
        p.before ++ (p.body ++ p.after) = passed.reverse ++ c :: cs ∧ p.body = name ∧
          isBounded p.before.getLast? p.after.head? = true := by
      intro k hk
      obtain ⟨htext, hname, hbounded⟩ := ih hk
      exact ⟨by simpa using htext, hname, hbounded⟩
    obtain ⟨k, hstep | ⟨rest, htext, hbounded, hstep⟩⟩ :=
      identifierSitesFrom_cons name skip passed c cs
    · rw [hstep] at h
      exact later h
    · rw [hstep] at h
      rcases List.mem_cons.mp h with rfl | h
      · exact ⟨by rw [htext], rfl, by simpa [List.getLast?_reverse] using hbounded⟩
      · exact later h

/-- **A site of a name** is the name at its place, with no identifier character beside it. -/
theorem identifierSites_eq {name text : Text} {p : Passage} (h : p ∈ identifierSites name text) :
    p.before ++ (p.body ++ p.after) = text ∧ p.body = name ∧
      isBounded p.before.getLast? p.after.head? = true := by
  simpa using identifierSitesFrom_eq h

/-! ## Cutting a text -/

variable {name : Text}

/-- What was passed long ago moves the sites and changes nothing else. -/
theorem identifierSitesFrom_passed (hne : name ≠ []) {passed more : Text}
    (h : passed = [] → more.head?.any isIdentifierChar = false) (skip : Nat) (text : Text) :
    identifierSitesFrom name skip (passed ++ more) text =
      (identifierSitesFrom name skip passed text).map (·.behind more.reverse) := by
  induction text generalizing skip passed with
  | nil => simp [identifierSitesFrom, hne]
  | cons c text ih =>
    have later : ∀ skip, identifierSitesFrom name skip (c :: (passed ++ more)) text =
        (identifierSitesFrom name skip (c :: passed) text).map (·.behind more.reverse) := by
      intro skip
      rw [← List.cons_append]
      exact ih (fun hnil => by cases hnil) skip
    have hlast : ∀ next, isBounded (passed ++ more).head? next =
        isBounded passed.head? next := by
      intro next
      cases passed with
      | nil => simp [isBounded, h rfl]
      | cons d passed => rfl
    cases skip with
    | succ k => exact later k
    | zero =>
      cases hword : afterWord name (c :: text) with
      | none => simpa [identifierSitesFrom, hword] using later 0
      | some rest =>
        simp only [identifierSitesFrom, hword, later, hlast]
        cases isBounded passed.head? rest.head? <;> simp [Passage.behind]

/-- Up to a character that no name has, the search does not look behind it. -/
theorem identifierSitesFrom_append (hname : IsIdentifier name) {c : Char}
    (hc : isIdentifierChar c = false) (v : Text) {u : Text}
    {skip : Nat} (hskip : skip ≤ u.length) (passed : Text) :
    identifierSitesFrom name skip passed (u ++ c :: v) =
      (identifierSitesFrom name skip passed u).map (·.followedBy (c :: v)) ++
        identifierSitesFrom name 0 (c :: (u.reverse ++ passed)) v := by
  have hfree : c ∉ name := fun hmem => by simp [hname.chars c hmem] at hc
  induction u generalizing skip passed with
  | nil =>
    obtain rfl : skip = 0 := by simpa using hskip
    have hnone : afterWord name (c :: v) = none := by
      obtain ⟨d, name, rfl⟩ := List.exists_cons_of_ne_nil hname.nonempty
      have hdc : d ≠ c := fun heq => hfree (by simp [heq])
      simp [afterWord, hdc]
    simp [identifierSitesFrom, hnone, hname.nonempty]
  | cons d u ih =>
    have later : ∀ {skip}, skip ≤ u.length →
        identifierSitesFrom name skip (d :: passed) (u ++ c :: v) =
          (identifierSitesFrom name skip (d :: passed) u).map (·.followedBy (c :: v)) ++
            identifierSitesFrom name 0 (c :: ((d :: u).reverse ++ passed)) v := by
      intro skip hskip
      simpa using ih hskip (d :: passed)
    cases skip with
    | succ k => exact later (by simpa using hskip)
    | zero =>
      cases hword : afterWord name (d :: u) with
      | none =>
        -- an occurrence that ends behind the character would have it
        have hnone : afterWord name (d :: (u ++ c :: v)) = none := by
          refine Option.eq_none_iff_forall_not_mem.mpr fun rest hrest => ?_
          have hsplit : d :: u ++ c :: v = name ++ rest := afterWord_eq_some_iff.mp hrest
          obtain ⟨z, hz, -⟩ := exists_of_cut hfree hsplit
          rw [afterWord_eq_some_iff.mpr hz] at hword
          cases hword
        simpa [identifierSitesFrom, hword, hnone] using later (Nat.zero_le _)
      | some rest =>
        have hsplit : d :: u = name ++ rest := afterWord_eq_some_iff.mp hword
        have hwhole : afterWord name (d :: (u ++ c :: v)) = some (rest ++ c :: v) :=
          afterWord_eq_some_iff.mpr (by rw [← List.cons_append, hsplit, List.append_assoc])
        have hlength : name.length - 1 ≤ u.length := by
          have := congrArg List.length hsplit
          simp only [List.length_cons, List.length_append] at this
          omega
        have hnext : isBounded passed.head? (rest ++ c :: v).head? =
            isBounded passed.head? rest.head? := by
          cases rest with
          | nil => simp [isBounded, hc]
          | cons e rest => rfl
        simp only [List.cons_append, identifierSitesFrom, hword, hwhole, later hlength, hnext]
        cases isBounded passed.head? rest.head? <;> simp [Passage.followedBy]

/-- **The sites of a text are those on both sides of a cut.** -/
theorem identifierSites_append (hname : IsIdentifier name) {c : Char}
    (hc : isIdentifierChar c = false) (u v : Text) :
    identifierSites name (u ++ c :: v) =
      (identifierSites name u).map (·.followedBy (c :: v)) ++
        (identifierSites name v).map (·.behind (u ++ [c])) := by
  have hbehind : identifierSitesFrom name 0 ([] ++ c :: u.reverse) v =
      (identifierSites name v).map (·.behind (c :: u.reverse).reverse) := by
    refine identifierSitesFrom_passed hname.nonempty (fun _ => ?_) 0 v
    simpa using hc
  rw [identifierSites, identifierSitesFrom_append hname hc v (Nat.zero_le _) [],
    List.append_nil, ← List.nil_append (c :: u.reverse), hbehind]
  simp [identifierSites]

/-- An occurrence that goes on to the end of the text leaves no room for another one. -/
theorem identifierSitesFrom_length (hne : name ≠ []) (passed text : Text) :
    identifierSitesFrom name text.length passed text = [] := by
  induction text generalizing passed with
  | nil => simp [identifierSitesFrom, hne]
  | cons c text ih => exact ih (c :: passed)

/-- The only site in a word is the word. -/
theorem identifierSites_word (hne : name ≠ []) {word : Text}
    (hword : ∀ c ∈ word, isIdentifierChar c = true) :
    identifierSites name word = if word = name then [⟨[], name, []⟩] else [] := by
  split
  · rename_i heq
    obtain ⟨c, rest, rfl⟩ := List.exists_cons_of_ne_nil hne
    have hself : afterWord (c :: rest) (c :: rest) = some [] :=
      afterWord_eq_some_iff.mpr (List.append_nil _).symm
    have hlater := identifierSitesFrom_length hne [c] rest
    subst heq
    simp only [identifierSites, identifierSitesFrom, hself, List.length_cons,
      Nat.add_sub_cancel, hlater]
    rfl
  · rename_i hother
    rw [List.eq_nil_iff_forall_not_mem]
    intro p hp
    obtain ⟨htext, hbody, hbounded⟩ := identifierSites_eq hp
    obtain ⟨hbefore, hafter⟩ := isBounded_iff.mp hbounded
    -- a character beside the name would be one of the word
    have hbefore : p.before = [] := by
      by_contra hnil
      have hmem := List.getLast_mem hnil
      rw [List.getLast?_eq_some_getLast hnil, Option.any_some,
        hword _ (htext ▸ List.mem_append_left _ hmem)] at hbefore
      cases hbefore
    have hafter : p.after = [] := by
      by_contra hnil
      obtain ⟨c, rest, hrest⟩ := List.exists_cons_of_ne_nil hnil
      rw [hrest, List.head?_cons, Option.any_some, hword c (htext ▸ by simp [hrest])] at hafter
      cases hafter
    exact hother (by rw [← htext, hbody, hbefore, hafter, List.append_nil, List.nil_append])

/-- A word at the start of a text, and the sites behind it. -/
theorem identifierSites_word_append (hname : IsIdentifier name) {word : Text}
    (hword : ∀ c ∈ word, isIdentifierChar c = true) {c : Char}
    (hc : isIdentifierChar c = false) (rest : Text) :
    identifierSites name (word ++ c :: rest) =
      (if word = name then [⟨[], name, c :: rest⟩] else []) ++
        (identifierSites name rest).map (·.behind (word ++ [c])) := by
  rw [identifierSites_append hname hc, identifierSites_word hname.nonempty hword]
  split <;> rfl

/-! ## Where a name stands in a text -/

/-- **The search finds every place** where a name stands with no identifier character beside it. -/
theorem mem_identifierSites (hname : IsIdentifier name) {before after : Text}
    (hbounded : isBounded before.getLast? after.head? = true) :
    ⟨before, name, after⟩ ∈ identifierSites name (before ++ (name ++ after)) := by
  obtain ⟨hbefore, hafter⟩ := isBounded_iff.mp hbounded
  -- the name is a word between the two cuts beside it
  have hword : ⟨[], name, after⟩ ∈ identifierSites name (name ++ after) := by
    cases after with
    | nil => simp [identifierSites_word hname.nonempty hname.chars]
    | cons c after => simp [identifierSites_word_append hname hname.chars hafter]
  by_cases hnil : before = []
  · rw [hnil]
    exact hword
  · obtain ⟨before, c, rfl⟩ := exists_concat hnil
    have hc : isIdentifierChar c = false := by simpa using hbefore
    rw [List.append_assoc, List.singleton_append, identifierSites_append hname hc]
    have hbehind := List.mem_map_of_mem (f := (Passage.behind · (before ++ [c]))) hword
    exact List.mem_append_right _ (by simpa [Passage.behind] using hbehind)

/-- Whether a name stands somewhere in a text with no identifier character beside it. -/
def StandsIn (name text : Text) : Prop :=
  ∃ before after, text = before ++ (name ++ after) ∧
    isBounded before.getLast? after.head? = true

theorem hasIdentifier_iff_exists (name text : Text) :
    hasIdentifier name text = true ↔ ∃ site, site ∈ identifierSites name text := by
  have hne : hasIdentifier name text = true ↔ identifierSites name text ≠ [] := by
    simp [hasIdentifier]
  rw [hne, ne_eq, List.eq_nil_iff_forall_not_mem, not_forall_not]

/-- **The search finds every name that stands in a text**, and nothing else. -/
theorem hasIdentifier_iff (hname : IsIdentifier name) (text : Text) :
    hasIdentifier name text = true ↔ StandsIn name text := by
  rw [hasIdentifier_iff_exists]
  constructor
  · rintro ⟨site, hsite⟩
    obtain ⟨htext, hbody, hbounded⟩ := identifierSites_eq hsite
    exact ⟨site.before, site.after, by rw [← htext, hbody], hbounded⟩
  · rintro ⟨before, after, rfl, hbounded⟩
    exact ⟨_, mem_identifierSites hname hbounded⟩

/-- A name between two characters that are no part of a name is found. -/
theorem hasIdentifier_between {u v : Text} {c : Char} (hname : IsIdentifier name)
    (hc : isIdentifierChar c = false) (hv : v.head?.any isIdentifierChar = false) :
    hasIdentifier name (u ++ c :: (name ++ v)) = true := by
  refine (hasIdentifier_iff hname _).mpr ⟨u ++ [c], v, by simp, ?_⟩
  rw [List.getLast?_concat]
  exact isBounded_iff.mpr ⟨hc, hv⟩

/-! ## The runs of identifier characters -/

/-- A stretch of identifier characters in a text. -/
structure IsStretch (text : Text) (p : Passage) : Prop where
  whole : p.whole = text
  isIdentifier : IsIdentifier p.body

/-- A run of identifier characters: no other stretch reaches over it. -/
structure IsIdentifierRun (text : Text) (run : Passage) : Prop extends IsStretch text run where
  maximal : ∀ longer, IsStretch text longer → longer.before <+: run.before →
    longer.after <:+ run.after → longer = run

/-- A stretch cannot be made longer exactly when no identifier character stands beside it. -/
theorem isIdentifierRun_iff {text : Text} {p : Passage} (h : IsStretch text p) :
    IsIdentifierRun text p ↔ isBounded p.before.getLast? p.after.head? = true := by
  obtain ⟨before, body, after⟩ := p
  obtain ⟨rfl, hbody⟩ := h
  rw [isBounded_iff]
  constructor
  · intro hrun
    constructor
    · cases hlast : before.getLast? with
      | none => rfl
      | some c =>
        obtain ⟨front, rfl⟩ := List.getLast?_eq_some_iff.mp hlast
        by_contra hc
        have hc : isIdentifierChar c = true := by simpa using hc
        -- the character in front could be taken in
        have hlonger := hrun.maximal ⟨front, c :: body, after⟩
          ⟨by simp [Passage.whole], by simp, by simpa [hc] using hbody.chars⟩
          (List.prefix_append _ _) List.suffix_rfl
        simp at hlonger
    · cases after with
      | nil => rfl
      | cons c rest =>
        by_contra hc
        have hc : isIdentifierChar c = true := by simpa using hc
        have hlonger := hrun.maximal ⟨before, body ++ [c], rest⟩
          ⟨by simp [Passage.whole], by simp, by simpa [or_imp, forall_and, hc] using hbody.chars⟩
          List.prefix_rfl (List.suffix_cons _ _)
        simp at hlonger
  · rintro ⟨hbefore, hafter⟩
    refine ⟨⟨rfl, hbody⟩, ?_⟩
    rintro ⟨before', body', after'⟩ hlonger ⟨front, rfl⟩ ⟨behind, rfl⟩
    have hwhole : body' = front ++ (body ++ behind) := by
      have := hlonger.whole
      simp only [Passage.whole, List.append_assoc, List.append_cancel_left_eq] at this
      simpa [← List.append_assoc] using this
    have hchars := hlonger.isIdentifier.chars
    -- a character that the longer stretch takes in stands beside the run
    have hfront : front = [] := by
      by_contra hne
      obtain ⟨front, c, rfl⟩ := exists_concat hne
      have hc := hchars c (by simp [hwhole])
      simp [← List.append_assoc, hc] at hbefore
    have hbehind : behind = [] := by
      by_contra hne
      obtain ⟨c, behind, rfl⟩ := List.exists_cons_of_ne_nil hne
      have hc := hchars c (by simp [hwhole])
      simp [hc] at hafter
    simp [hwhole, hfront, hbehind]

/-- **The sites of a name are the runs that are the name.** -/
theorem mem_identifierSites_iff (hname : IsIdentifier name) {text : Text} {run : Passage} :
    run ∈ identifierSites name text ↔ IsIdentifierRun text run ∧ run.body = name := by
  constructor
  · intro hsite
    obtain ⟨htext, hbody, hbounded⟩ := identifierSites_eq hsite
    have hstretch : IsStretch text run := by
      constructor
      · rw [← htext, Passage.whole, List.append_assoc]
      · rw [hbody]
        exact hname
    exact ⟨(isIdentifierRun_iff hstretch).mpr hbounded, hbody⟩
  · rintro ⟨hrun, rfl⟩
    have hbounded := (isIdentifierRun_iff hrun.toIsStretch).mp hrun
    have hsite := mem_identifierSites hname hbounded
    rw [← List.append_assoc, ← Passage.whole, hrun.whole] at hsite
    exact hsite

/-- What was passed stands in front of every site that is still to come. -/
theorem passed_of_mem_identifierSitesFrom {p : Passage} {skip : Nat} {passed text : Text}
    (h : p ∈ identifierSitesFrom name skip passed text) : passed.reverse <+: p.before := by
  induction text generalizing skip passed with
  | nil =>
    simp only [identifierSitesFrom] at h
    split at h
    · obtain rfl := List.mem_singleton.mp h
      exact List.prefix_rfl
    · cases h
  | cons c cs ih =>
    have later : ∀ {k}, p ∈ identifierSitesFrom name k (c :: passed) cs →
        passed.reverse <+: p.before := by
      intro k hk
      have hmore := ih hk
      rw [List.reverse_cons] at hmore
      exact (List.prefix_append _ _).trans hmore
    obtain ⟨k, hstep | ⟨rest, -, -, hstep⟩⟩ := identifierSitesFrom_cons name skip passed c cs
    · rw [hstep] at h
      exact later h
    · rw [hstep] at h
      rcases List.mem_cons.mp h with rfl | h
      · exact List.prefix_rfl
      · exact later h

/-- **The search goes from left to right.** -/
theorem pairwise_identifierSitesFrom (name : Text) (skip : Nat) (passed text : Text) :
    (identifierSitesFrom name skip passed text).Pairwise fun p q => p.span.1 < q.span.1 := by
  induction text generalizing skip passed with
  | nil =>
    simp only [identifierSitesFrom]
    split <;> simp
  | cons c cs ih =>
    obtain ⟨k, hstep | ⟨rest, -, -, hstep⟩⟩ := identifierSitesFrom_cons name skip passed c cs
    · rw [hstep]
      exact ih k (c :: passed)
    · rw [hstep, List.pairwise_cons]
      refine ⟨?_, ih k (c :: passed)⟩
      intro q hq
      obtain ⟨more, hmore⟩ := passed_of_mem_identifierSitesFrom hq
      show byteSize passed.reverse < byteSize q.before
      rw [← hmore, List.reverse_cons]
      simp only [byteSize_append, byteSize_cons]
      have hpos := c.utf8Size_pos
      omega

/-- **The search misses nothing, though it skips what overlaps.**  The places that it lists grow,
    and they are the places of the runs that are the name; so the name is found exactly if there is
    such a run. -/
theorem identifierSites_runs (hname : IsIdentifier name) (text : Text) :
    ((identifierSites name text).map (·.span.1)).Pairwise (· < ·) ∧
      (∀ offset, offset ∈ (identifierSites name text).map (·.span.1) ↔
        ∃ run, IsIdentifierRun text run ∧ run.body = name ∧ run.span.1 = offset) ∧
      (hasIdentifier name text = true ↔ ∃ run, IsIdentifierRun text run ∧ run.body = name) := by
  refine ⟨?_, ?_, ?_⟩
  · rw [List.pairwise_map]
    exact pairwise_identifierSitesFrom name 0 [] text
  · intro offset
    rw [List.mem_map]
    constructor
    · rintro ⟨run, hsite, hoffset⟩
      obtain ⟨hrun, hbody⟩ := (mem_identifierSites_iff hname).mp hsite
      exact ⟨run, hrun, hbody, hoffset⟩
    · rintro ⟨run, hrun, hbody, hoffset⟩
      exact ⟨run, (mem_identifierSites_iff hname).mpr ⟨hrun, hbody⟩, hoffset⟩
  · rw [hasIdentifier_iff_exists]
    exact exists_congr fun run => mem_identifierSites_iff hname

/-- A name that overlaps itself: of the three places where it stands, two lie in a longer run. -/
theorem identifierSites_runs_sample :
    IsIdentifier "a$a" ∧
      (identifierSites "a$a" "ä:a$a$a:a$a").map (·.span.1) = [9] ∧
      (∃ run, IsIdentifierRun "ä:a$a$a:a$a" run ∧ run.body = "a$a".toList ∧ run.span.1 = 9) ∧
      (¬ ∃ run, IsIdentifierRun "ä:a$a$a:a$a" run ∧ run.body = "a$a".toList ∧ run.span.1 = 5) ∧
      hasIdentifier "a$a" "ä:a$a$a" = false := by
  have hname : IsIdentifier "a$a" := by decide
  have hsites : (identifierSites "a$a" "ä:a$a$a:a$a").map (·.span.1) = [9] := by decide
  obtain ⟨-, hplaces, -⟩ := identifierSites_runs hname "ä:a$a$a:a$a"
  refine ⟨hname, hsites, (hplaces 9).mp ?_, fun hrun => ?_, by decide⟩
  · rw [hsites]
    simp
  · have hmem := (hplaces 5).mpr hrun
    rw [hsites] at hmem
    simp at hmem

end Text

end RouteLocalizer
