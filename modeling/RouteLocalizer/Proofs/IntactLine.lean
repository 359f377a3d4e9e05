/-
  A line from which a binding was cut: how much of it is left INTACT.

  The cut takes a symbol and a comma out of the clause, and then the first list without bindings
  that it finds on the line.  Two things can go wrong there, and nothing else.  Words that stood on
  both sides of what is cut can run together, and the list that is found can stand behind the word
  `from`, in the code that follows on the same line.  Where neither happens (`CutsClean`), the line
  is an import line as before: keyword, clause and `from` are words of their own, the text from
  `from` on is the same, and the words are those that stood around the binding.  Or it is dropped,
  and then no binding was left.

  The crux is that cutting makes no word `from` in the clause.  The site of a symbol is bounded by
  characters that no identifier has, or by its comma, so what stands beside it does not end where
  the word would.
-/
import RouteLocalizer.Proofs.Remainder

namespace RouteLocalizer.Import

open Text

/-! ## Cutting a passage out of a clause -/

/-- The words on both sides of a passage do not run together without it. -/
def KeepsApart (p : Passage) : Prop :=
  p.before.getLast?.any isWordChar = false ∨ p.after.head?.any isWordChar = false

instance (p : Passage) : Decidable (KeepsApart p) := inferInstanceAs (Decidable (_ ∨ _))

theorem runsOf_around_cut {p : Passage} (h : KeepsApart p) :
    runsOf isWordChar (p.before ++ p.after) =
      runsOf isWordChar p.before ++ runsOf isWordChar p.after := runsOf_append h

variable {front mid back : Text}

/-- A word `from` in front of a cut was one before, unless it ends at the cut. -/
theorem fromWord_not_mem_front (h : fromWord ∉ runsOf isWordChar (front ++ mid))
    (edge : front.getLast?.any isIdentifierChar = false ∨ mid.head?.any isWordChar = false) :
    fromWord ∉ runsOf isWordChar front := by
  intro hmem
  obtain ⟨u, v, rfl, -, hu, hv⟩ := split_of_mem_runsOf hmem
  have hright : (v ++ mid).head?.any isWordChar = false := by
    cases v with
    | cons c v => exact hv
    | nil =>
      refine edge.resolve_left fun hlast => ?_
      have hm : isIdentifierChar 'm' = true := by decide
      simp [fromWord, hm] at hlast
  refine h ?_
  rw [List.append_assoc, List.append_assoc,
    runsOf_around (by decide) isWordChar_of_mem_fromWord hu hright]
  simp

/-- A word `from` behind a cut was one before, unless it starts at the cut. -/
theorem fromWord_not_mem_back (h : fromWord ∉ runsOf isWordChar (mid ++ back))
    (edge : back.head?.any isIdentifierChar = false ∨ mid.getLast?.any isWordChar = false) :
    fromWord ∉ runsOf isWordChar back := by
  intro hmem
  obtain ⟨u, v, rfl, -, hu, hv⟩ := split_of_mem_runsOf hmem
  have hleft : (mid ++ u).getLast?.any isWordChar = false := by
    by_cases hnil : u = []
    · subst hnil
      rw [List.append_nil]
      refine edge.resolve_left fun hhead => ?_
      have hf : isIdentifierChar 'f' = true := by decide
      simp [fromWord, hf] at hhead
    · obtain ⟨u, c, rfl⟩ := exists_concat hnil
      simpa [← List.append_assoc] using hu
  refine h ?_
  rw [← List.append_assoc, runsOf_around (by decide) isWordChar_of_mem_fromWord hleft hv]
  simp

variable {indent rest : Text}

/-- What is cut out of a clause keeps apart: where nothing is left on one side, what is left on the
    other does not touch the word there, the keyword or `from`. -/
theorem KeepsApart.seam
    (h : KeepsApart ⟨(indent ++ keyword) ++ front, mid, back ++ (fromWord ++ rest)⟩) :
    (front = [] → back ≠ [] ∧ back.head?.any isWordChar = false) ∧
      (back = [] → front ≠ [] ∧ front.getLast?.any isWordChar = false) ∧
      (front.getLast?.any isWordChar = false ∨ back.head?.any isWordChar = false) := by
  have ht : isWordChar 't' = true := by decide
  have hf : isWordChar 'f' = true := by decide
  have hleft : ((indent ++ keyword) ++ front).getLast?.any isWordChar = false →
      front ≠ [] ∧ front.getLast?.any isWordChar = false := by
    intro hlast
    by_cases hnil : front = []
    · have hkeyword :
          (indent ++ keyword) ++ front = (indent ++ ['i', 'm', 'p', 'o', 'r']) ++ ['t'] := by
        simp [hnil, keyword]
      rw [hkeyword, List.getLast?_concat] at hlast
      cases ht.symm.trans hlast
    · obtain ⟨front, c, rfl⟩ := exists_concat hnil
      exact ⟨hnil, by simpa [← List.append_assoc] using hlast⟩
  have hright : (back ++ (fromWord ++ rest)).head?.any isWordChar = false →
      back ≠ [] ∧ back.head?.any isWordChar = false := by
    intro hhead
    cases back with
    | nil => cases hf.symm.trans hhead
    | cons c back => exact ⟨by simp, hhead⟩
  rcases h with h | h
  · obtain ⟨hne, hlast⟩ := hleft h
    exact ⟨fun hnil => absurd hnil hne, fun _ => ⟨hne, hlast⟩, .inl hlast⟩
  · obtain ⟨hne, hhead⟩ := hright h
    exact ⟨fun _ => ⟨hne, hhead⟩, fun hnil => absurd hnil hne, .inr hhead⟩

/-- **A clause that something is cut out of** is one as before, when no words run together and none
    is a word `from`. -/
theorem IsClauseText.cut (h : IsClauseText (front ++ (mid ++ back)))
    (apart : KeepsApart ⟨(indent ++ keyword) ++ front, mid, back ++ (fromWord ++ rest)⟩)
    (hfront : fromWord ∉ runsOf isWordChar front) (hback : fromWord ∉ runsOf isWordChar back) :
    IsClauseText (front ++ back) := by
  obtain ⟨hempty, hempty', hseam⟩ := apart.seam
  constructor
  case starts =>
    cases front with
    | nil => exact (hempty rfl).2
    | cons c front => exact h.starts
  case ends =>
    by_cases hnil : back = []
    · obtain ⟨hne, hlast⟩ := hempty' hnil
      obtain ⟨front, c, rfl⟩ := exists_concat hne
      exact ⟨front, c, by simp [hnil], by simpa using hlast⟩
    · obtain ⟨before, b, heq, hb⟩ := h.ends
      obtain ⟨back, c, rfl⟩ := exists_concat hnil
      have hsplit : (front ++ (mid ++ back)) ++ [c] = before ++ [b] := by simpa using heq
      obtain rfl : c = b := by simpa using (List.append_inj' hsplit rfl).2
      exact ⟨front ++ back, c, by simp, hb⟩
  case plain =>
    intro c hc
    refine h.plain c ?_
    rcases List.mem_append.mp hc with hc | hc <;> simp [hc]
  case noFrom =>
    rw [runsOf_append hseam, List.mem_append, not_or]
    exact ⟨hfront, hback⟩

/-- The words of a line are those of its clause between the keyword and what starts with `from`. -/
theorem runsOf_importText {clause : Text} (hindent : Blanks indent) (h : IsClauseText clause) :
    runsOf isWordChar (importText indent clause rest) =
      keyword :: (runsOf isWordChar clause ++ runsOf isWordChar (fromWord ++ rest)) := by
  obtain ⟨front, b, rfl, hb⟩ := h.ends
  have hhead : ((front ++ [b]) ++ (fromWord ++ rest)).head?.any isWordChar = false := by
    have := h.starts
    cases front <;> simpa using this
  rw [importText, runsOf_gap fun c hc => isWordClass_word.gap c (hindent.gap c hc),
    runsOf_append (.inr hhead), runsOf_word (by decide) isWordChar_of_mem_keyword,
    runsOf_append (.inl (by simpa using hb))]
  rfl

/-! ## The two cuts -/

/-- **The first cut**, of the binding: the rest is a clause. -/
theorem bindingOnLine_cut {symbol line : Text} {clause binding : Passage}
    (hclause : clauseOf line = some clause) (hbinding : bindingOnLine symbol line = some binding)
    (apart : KeepsApart binding) : ∃ indent cut rest,
      clause = ⟨indent ++ keyword, clause.body, fromWord ++ rest⟩ ∧ Blanks indent ∧
      rest.head?.any isWordChar = false ∧ IsClauseText cut ∧
      binding.before ++ binding.after = importText indent cut rest := by
  obtain ⟨indent, rest, hparts, hindent, htext, hrest, -⟩ := isClauseText_of_clauseOf hclause
  obtain ⟨clause', p, hclause', hp, rfl⟩ := bindingOnLine_eq_some hbinding
  obtain rfl : clause = clause' := Option.some.inj (hclause.symm.trans hclause')
  obtain ⟨hwhole, hleft, hright⟩ := bindingInClause_eq_some hp
  have hbody : clause.body = p.before ++ (p.body ++ p.after) := by
    rw [← hwhole, Passage.whole, List.append_assoc]
  refine ⟨indent, p.before ++ p.after, rest, hparts, hindent, hrest, ?_, ?_⟩
  · rw [hbody] at htext
    rw [hparts] at apart
    have hfree : fromWord ∉ runsOf isWordChar ((p.before ++ p.body) ++ p.after) := by
      simpa using htext.noFrom
    refine htext.cut apart (fromWord_not_mem_front htext.noFrom ?_) (fromWord_not_mem_back hfree ?_)
    · rcases hleft with hleft | ⟨c, hc, hword⟩
      · exact .inl hleft
      · rw [List.head?_append, hc]
        exact .inr hword
    · rcases hright with hright | ⟨c, hc, hword⟩
      · exact .inl hright
      · rw [List.getLast?_append, hc]
        exact .inr hword
  · rw [hparts]
    simp [Passage.inBody, importText]

/-- A character of a clause without bindings. -/
def isBareChar (c : Char) : Bool := isIndent c || isTight c

theorem isWordChar_of_isBareChar {c : Char} (h : isBareChar c = true) : isWordChar c = false := by
  have hc : c = ' ' ∨ c = '\t' ∨ c = '\x7b' ∨ c = '\x7d' ∨ c = ',' := by
    simpa [isBareChar, isIndent, isTight, or_assoc] using h
  rcases hc with rfl | rfl | rfl | rfl | rfl <;> decide

/-- The list that is found in a line stands in its clause and can be cut out of it. -/
def ListCutsClean (clause : Passage) (line : Text) : Prop :=
  ∀ list ∈ Shape.firstOf emptyList line, clause.after <:+ list.after ∧
    (KeepsApart list ∨ list.before = clause.before ∧ list.after = clause.after)

instance (clause : Passage) (line : Text) : Decidable (ListCutsClean clause line) :=
  inferInstanceAs (Decidable (∀ list ∈ Shape.firstOf emptyList line, _ ∧ _))

/-- A list without bindings that stands in front of `from`, as a passage of the clause. -/
theorem emptyList_inClause {cut : Text} {list : Passage} (hindent : Blanks indent)
    (hlist : Shape.firstOf emptyList (importText indent cut rest) = some list)
    (hsuffix : fromWord ++ rest <:+ list.after) : ∃ front back,
      list = ⟨(indent ++ keyword) ++ front, list.body, back ++ (fromWord ++ rest)⟩ ∧
      cut = front ++ (list.body ++ back) ∧ list.body ≠ [] ∧
      (∀ c ∈ list.body, isBareChar c = true) := by
  obtain ⟨hwhole, hfits, -⟩ := Shape.firstFrom_eq_some emptyList_reads hlist
  obtain ⟨gap, inner, hparts, hgap, hinner⟩ := emptyList_eq_some hfits
  have hbody : list.body = gap ++ '\x7b' :: (inner ++ ['\x7d']) :=
    (List.append_left_inj list.after).mp (by rw [hparts]; simp [braced])
  have hchars : ∀ c ∈ list.body, isBareChar c = true := by
    intro c hc
    have hc : c ∈ gap ∨ c = '\x7b' ∨ c ∈ inner ∨ c = '\x7d' := by simpa [hbody] using hc
    rcases hc with hc | rfl | hc | rfl
    · rcases Bool.or_eq_true_iff.mp (hgap c hc) with h | h <;> simp [isBareChar, isTight, h]
    · decide
    · simp [isBareChar, hinner c hc]
    · decide
  have hbrace : '\x7b' ∈ list.body := by simp [hbody]
  obtain ⟨back, hback⟩ := hsuffix
  have hsplit : (indent ++ keyword) ++ cut = list.before ++ (list.body ++ back) := by
    refine (List.append_left_inj (fromWord ++ rest)).mp ?_
    rw [importText] at hwhole
    simpa [← hback] using hwhole
  rcases List.append_eq_append_iff.mp hsplit with ⟨front, hfront, hcut⟩ | ⟨z, hz, hcut⟩
  · exact ⟨front, back, by rw [← hfront, hback], hcut, by simp [hbody], hchars⟩
  · by_cases hnil : z = []
    · subst hnil
      refine ⟨[], back, ?_, hcut.symm, by simp [hbody], hchars⟩
      rw [hback, List.append_nil, hz, List.append_nil]
    -- the list would start in front of the keyword's end, and it holds no letter
    obtain ⟨z, t, rfl⟩ := exists_concat hnil
    obtain rfl : t = 't' := by
      have hlast := congrArg List.getLast? hz
      rw [← List.append_assoc, List.getLast?_concat] at hlast
      simpa [keyword, List.getLast?_append] using hlast.symm
    rcases List.append_eq_append_iff.mp hcut with ⟨w, hw, -⟩ | ⟨w, hw, -⟩
    · have hmem : '\x7b' ∈ indent ++ keyword := by
        rw [hz, hw]
        simp [hbrace]
      have hblank : '\x7b' ∉ indent := hindent.not_mem (by decide)
      simp [hblank, keyword] at hmem
    · exact absurd (hchars 't' (by simp [hw])) (by decide)

/-- **The second cut**, of a list without bindings: the rest is a clause, or there is none. -/
theorem withoutEmptyList_cut {cut : Text} (hindent : Blanks indent) (hcut : IsClauseText cut)
    (clean : ListCutsClean ⟨indent ++ keyword, mid, fromWord ++ rest⟩
      (importText indent cut rest)) :
    ∃ bare, withoutEmptyList (importText indent cut rest) = importText indent bare rest ∧
      (bare = [] ∨ IsClauseText bare) ∧ runsOf isWordChar bare = runsOf isWordChar cut ∧
      (Blanks bare → ∀ c ∈ cut, isBareChar c = true) := by
  cases hlist : Shape.firstOf emptyList (importText indent cut rest) with
  | none =>
    refine ⟨cut, by simp only [withoutEmptyList, hlist], .inr hcut, rfl, fun hblanks c hc => ?_⟩
    rw [isBareChar, hblanks c hc, Bool.true_or]
  | some list =>
    obtain ⟨hsuffix, hapart⟩ := clean list hlist
    obtain ⟨front, back, hparts, rfl, hne, hchars⟩ := emptyList_inClause hindent hlist hsuffix
    have hgap : ∀ c ∈ list.body, isWordChar c = false := fun c hc =>
      isWordChar_of_isBareChar (hchars c hc)
    have hruns : runsOf isWordChar (front ++ (list.body ++ back)) =
        runsOf isWordChar front ++ runsOf isWordChar back := by
      have hhead : (list.body ++ back).head?.any isWordChar = false := by
        obtain ⟨c, body, hc⟩ := List.exists_cons_of_ne_nil hne
        simpa [hc] using hgap c (by simp [hc])
      rw [runsOf_append (.inr hhead), runsOf_gap hgap]
    have hdrop : withoutEmptyList (importText indent (front ++ (list.body ++ back)) rest) =
        importText indent (front ++ back) rest := by
      simp only [withoutEmptyList, hlist, Passage.replaceWith]
      rw [hparts]
      simp [importText]
    have hblank : Blanks (front ++ back) → ∀ c ∈ front ++ (list.body ++ back),
        isBareChar c = true := by
      intro hblanks c hc
      have hc : c ∈ front ++ back ∨ c ∈ list.body := by
        simp only [List.mem_append] at hc ⊢
        tauto
      rcases hc with hc | hc
      · rw [isBareChar, hblanks c hc, Bool.true_or]
      · exact hchars c hc
    rw [hparts] at hapart
    rcases hapart with hapart | ⟨hbefore, hafter⟩
    · have hfree := hcut.noFrom
      rw [hruns, List.mem_append, not_or] at hfree
      exact ⟨front ++ back, hdrop, .inr (hcut.cut hapart hfree.1 hfree.2),
        by rw [hruns, runsOf_append hapart.seam.2.2], hblank⟩
    · obtain rfl : front = [] := by simpa using hbefore
      obtain rfl : back = [] := by simpa using hafter
      exact ⟨[], hdrop, .inl rfl, by rw [hruns]; rfl, hblank⟩

/-! ## The line that is left -/

/-- Cutting a binding out of its line cuts nothing apart and runs no words together. -/
structure CutsClean (clause binding : Passage) : Prop where
  words : KeepsApart binding
  list : ListCutsClean clause (binding.before ++ binding.after)

instance (clause binding : Passage) : Decidable (CutsClean clause binding) :=
  decidable_of_iff (KeepsApart binding ∧ ListCutsClean clause (binding.before ++ binding.after))
    ⟨fun ⟨words, list⟩ => ⟨words, list⟩, fun h => ⟨h.words, h.list⟩⟩

/-- What is left of a line with a clause: the line of another clause, with the same text from `from`
    on. -/
structure IsIntact (clause : Passage) (clause' line : Text) : Prop where
  text : line = clause.before ++ (clause' ++ clause.after)
  reads : clauseOf line = some ⟨clause.before, clause', clause.after⟩

theorem findGrouped_eq_some {symbol text : Text} {line binding : Passage}
    (h : findGrouped symbol text = some (.grouped line binding)) :
    bindingOnLine symbol line.body = some binding := by
  unfold findGrouped at h
  split at h
  · obtain ⟨b, hb, heq⟩ := Option.map_eq_some_iff.mp h
    cases heq
    exact hb
  · cases h

/-- **A line from which a binding is cut cleanly** is dropped when no binding is left, and else it
    is again an import line with the same text from `from` on. -/
theorem exciseBinding_intact {symbol text : Text} {line clause binding : Passage}
    (found : findGrouped symbol text = some (.grouped line binding))
    (hclause : clauseOf line.body = some clause) (clean : CutsClean clause binding) :
    (∃ cut, binding.before ++ binding.after = clause.before ++ (cut ++ clause.after) ∧
        (∀ c ∈ cut, isBareChar c = true) ∧
        exciseBinding line binding = line.before ++ dropLineEnd line.after) ∨
      ∃ clause' rest, IsIntact clause clause' rest ∧
        exciseBinding line binding = line.replaceWith rest ∧
        runsOf isWordChar rest =
          runsOf isWordChar binding.before ++ runsOf isWordChar binding.after := by
  obtain ⟨indent, cut, rest, hparts, hindent, hrest, hcut, hline⟩ :=
    bindingOnLine_cut hclause (findGrouped_eq_some found) clean.words
  have hwords := runsOf_around_cut clean.words
  have hlist := clean.list
  rw [hparts, hline] at hlist
  obtain ⟨bare, hdrop, hbare, hruns, hblank⟩ := withoutEmptyList_cut hindent hcut hlist
  have hexcise := lineWithout_eq binding
  rw [hline, hdrop] at hexcise
  rw [hline] at hwords
  by_cases hempty : Shape.occursIn emptyClause (importText indent bare rest) = true
  · -- no binding is left
    have hblanks : Blanks bare := by
      rcases hbare with rfl | hbare
      · simp [Blanks]
      · exact blanks_of_emptyClause hindent hbare hempty
    rw [if_pos hempty] at hexcise
    refine .inl ⟨cut, ?_, hblank hblanks, by simp only [exciseBinding, hexcise]⟩
    rw [hline, hparts]
    simp [importText]
  · rw [if_neg hempty] at hexcise
    have hbare : IsClauseText bare := hbare.resolve_left fun hnil => by
      rw [hnil] at hempty
      exact hempty (emptyClause_of_blanks hindent (by simp [Blanks]) hrest)
    refine .inr ⟨bare, importText indent bare rest, ⟨?_, ?_⟩, by simp only [exciseBinding, hexcise],
      ?_⟩
    · rw [hparts]
      simp [importText]
    · rw [clauseOf_importText hindent hbare hrest, hparts]
    · rw [runsOf_importText hindent hbare, hruns, ← runsOf_importText hindent hcut, hwords]

/-- A line whose list goes with the comma in front of it, and other braces behind the word
    `from`. -/
theorem exciseBinding_intact_sample :
    let rest : Text := "from './\x7b\x7d/m' // \x7b\x7d"
    let line : Passage := ⟨"// S\n", "import A,\x7b S \x7d " ++ rest, "\nS()"⟩
    let clause : Passage := ⟨"import", " A,\x7b S \x7d ", rest⟩
    let binding : Passage := ⟨"import A,\x7b ", "S", " \x7d " ++ rest⟩
    ∃ clause' rest, IsIntact clause clause' rest ∧
      exciseBinding line binding = line.replaceWith rest := by
  intro rest line clause binding
  have found : findGrouped "S" line.whole = some (.grouped line binding) := by decide +kernel
  have hclause : clauseOf line.body = some clause := by decide +kernel
  rcases exciseBinding_intact found hclause (by decide +kernel) with
    ⟨-, -, -, dropped⟩ | ⟨clause', rest', intact, hline, -⟩
  · exact absurd dropped (by decide +kernel)
  · exact ⟨clause', rest', intact, hline⟩

/-- **Two lines that are damaged**: an object behind the import is taken for its list, and a name
    runs together with the word `from`. -/
theorem exciseBinding_damages :
    let line : Passage := ⟨[], "import \x7b A, S \x7d from 'm'; const x = \x7b\x7d", "\n"⟩
    let binding : Passage := ⟨"import \x7b A", ", S", " \x7d from 'm'; const x = \x7b\x7d"⟩
    let line' : Passage := ⟨[], "import X,\x7bS\x7dfrom 'm'", "\n"⟩
    let binding' : Passage := ⟨"import X,\x7b", "S", "\x7dfrom 'm'"⟩
    (findGrouped "S" line.whole = some (.grouped line binding) ∧
      exciseBinding line binding = ("import \x7b A \x7d from 'm'; const x =\n" : Text) ∧
      (clauseOf line.body).map Passage.after = some "from 'm'; const x = \x7b\x7d".toList ∧
      (clauseOf "import \x7b A \x7d from 'm'; const x =").map Passage.after =
        some "from 'm'; const x =".toList) ∧
    findGrouped "S" line'.whole = some (.grouped line' binding') ∧
      exciseBinding line' binding' = ("import Xfrom 'm'\n" : Text) ∧
      clauseOf "import Xfrom 'm'" = none := by
  decide +kernel

end RouteLocalizer.Import
