/-
  A place that is MISTAKEN is found.  With `LeftAlone` this says when an import statement is left
  alone: a name that it only renames, a namespace or a name with a modifier stays where it is,
  unless its place is mistaken (`Statement.find_provide_of_isAside`).

  1. A word between pieces is taken for a binding exactly where `IsTaken` says so
     (`siteKind_of_isTaken`, the converse of `isTaken_of_siteKind`).
  2. The pieces around a mistaken place are of that kind (`Statement.exists_taken`, from one lemma
     for a binding and one for a list).
  3. The search sees the whole clause of a statement with plain words, no star and no quotes
     (`Statement.isClauseText`), and a symbol that stands there once is seen at its place.
-/
import RouteLocalizer.Proofs.LeftAlone

namespace RouteLocalizer.Import

open Text

/-! ## What is taken for a binding -/

variable {a b : List Piece} {g w : Text}

/-- In front of a word there is no part of a word, also at the start of the text. -/
theorem IsSpelling.last_front (h : IsSpelling (a ++ ⟨g, .word w⟩ :: b)) :
    (spell a ++ g).getLast?.any isNameChar = false := by
  by_cases hnil : a = []
  · subst hnil
    have hg : Blanks g := h.gaps ⟨g, .word w⟩ (by simp)
    cases hlast : g.getLast? with
    | none => simp [hlast]
    | some c => simpa [hlast] using isNameChar_of_isIndent (hg c (List.mem_of_getLast? hlast))
  · obtain ⟨front, c, hfront, hc⟩ := h.last_before hnil
    rw [hfront, List.getLast?_concat]
    simpa using hc

/-- A text of pieces ends with no blank, so a blank in front of a word is in its gap. -/
theorem last_gap (h : IsSpelling a) (hlast : (spell a ++ g).getLast? = some ' ') :
    g.getLast? = some ' ' := by
  by_cases hnil : g = []
  · rw [hnil, List.append_nil] at hlast
    rcases List.eq_nil_or_concat' a with rfl | ⟨a, p, rfl⟩
    · cases hlast
    · have hlegal := h.tokens p (by simp)
      have htext : (spell (a ++ [p])).getLast? = p.token.text.getLast? := by
        simp [← List.append_assoc, List.getLast?_append_of_ne_nil _ (Token.text_ne_nil hlegal)]
      have hblank := (Token.noBlank hlegal).2
      rw [← htext, hlast] at hblank
      exact absurd hblank (by decide)
  · rwa [List.getLast?_append_of_ne_nil _ hnil] at hlast

/-- In front of a word, a text ends with a space and `as` only where these are the blanks in front
    of a word `as`. -/
theorem as_of_endsWith (h : IsSpelling (a ++ ⟨g, .word w⟩ :: b))
    (hends : endsWith [' ', 'a', 's'] (trimEnd (spell a ++ g)) = true) :
    ∃ a' gap, a = a' ++ [⟨gap, .word asWord⟩] ∧ gap.getLast? = some ' ' := by
  have hg : Blanks g := h.gaps ⟨g, .word w⟩ (by simp)
  rcases List.eq_nil_or_concat' a with rfl | ⟨a, ⟨gap, t⟩, rfl⟩
  · rw [spell_nil, trimEnd_append hg rfl] at hends
    cases hends
  · have hlegal : t.IsLegal := h.tokens ⟨gap, t⟩ (by simp)
    rw [trimEnd_spell hlegal hg] at hends
    obtain ⟨front, hfront⟩ := endsWith_iff.mp hends
    have hlast := congrArg List.getLast? hfront
    rw [List.getLast?_append_of_ne_nil _ (by simp), ← List.append_assoc,
      List.getLast?_append_of_ne_nil _ (Token.text_ne_nil hlegal)] at hlast
    cases t with
    | sign c =>
      obtain rfl : 's' = c := by simpa [Token.text] using hlast
      exact absurd hlegal (by decide)
    | quoted quote content =>
      rw [Token.text, ← List.cons_append, List.getLast?_concat] at hlast
      obtain rfl : 's' = quote := by simpa using hlast
      exact absurd hlegal.1 (by decide)
    | word v =>
      have hfree : ' ' ∉ v := fun hc => absurd (hlegal.2 ' ' hc) (by decide)
      have hpair : IsSpelling (a ++ ⟨gap, .word v⟩ :: ⟨g, .word w⟩ :: b) := by simpa using h
      have hname := hpair.last_front
      have hcut : (front ++ [' ']) ++ ['a', 's'] = (spell a ++ gap) ++ v := by
        simpa [Token.text] using hfront
      -- the word is the `as`, for it has no blank, and no part of a word stands in front of it
      obtain ⟨rfl, hgap⟩ : v = asWord ∧ spell a ++ gap = front ++ [' '] := by
        rcases List.append_eq_append_iff.mp hcut with ⟨z, hz, hv⟩ | ⟨z, hz, hv⟩
        · rcases z with _ | ⟨c, _ | ⟨d, z⟩⟩
          · exact ⟨hv.symm, by simpa using hz⟩
          · obtain ⟨rfl, -⟩ := List.cons.inj hv
            rw [hz, List.getLast?_concat] at hname
            exact absurd hname (by decide)
          · obtain ⟨-, -, -, hnil⟩ : 'a' = c ∧ 's' = d ∧ z = [] ∧ v = [] := by simpa using hv
            exact absurd hnil hlegal.1
        · rcases List.eq_nil_or_concat' z with rfl | ⟨z, c, rfl⟩
          · exact ⟨hv, by simpa using hz.symm⟩
          · obtain rfl : ' ' = c := by
              have := congrArg List.getLast? hz
              simpa [← List.append_assoc] using this
            exact absurd (by simp [hv]) hfree
      exact ⟨a, gap, rfl, last_gap hpair.left (by rw [hgap, List.getLast?_concat])⟩

/-- Behind a word, a text starts with `as` and a space only where a word `as` stands there and the
    space behind it. -/
theorem as_of_startsWith {fromGap : Text} (h : IsSpelling b) (hgap : Blanks fromGap)
    (hstarts : ['a', 's', ' '] <+: trimStart (spell b ++ fromGap)) :
    ∃ gap b', b = ⟨gap, .word asWord⟩ :: b' ∧ (spell b' ++ fromGap).head? = some ' ' := by
  obtain ⟨z, hz⟩ := hstarts
  cases b with
  | nil =>
    have hnil : trimStart (fromGap ++ []) = [] := trimStart_append hgap rfl
    rw [List.append_nil] at hnil
    rw [spell_nil, List.nil_append, hnil] at hz
    cases hz
  | cons p b =>
    obtain ⟨gap, t⟩ := p
    have hlegal : t.IsLegal := h.tokens ⟨gap, t⟩ (by simp)
    rw [trimStart_spell hlegal (h.gaps ⟨gap, t⟩ (by simp))] at hz
    cases t with
    | sign c =>
      obtain rfl : 'a' = c := (List.cons.inj hz).1
      exact absurd hlegal (by decide)
    | quoted quote content =>
      obtain rfl : 'a' = quote := (List.cons.inj hz).1
      exact absurd hlegal.1 (by decide)
    | word v =>
      have hfree : ' ' ∉ v := fun hc => absurd (hlegal.2 ' ' hc) (by decide)
      have hname : (spell b ++ fromGap).head?.any isNameChar = false :=
        h.head_behind (head?_blanks hgap)
      rcases List.append_eq_append_iff.mp hz with ⟨m, hm, -⟩ | ⟨m, hm, hrest⟩
      · have hv : v = ['a', 's', ' '] ++ m := hm
        exact absurd (by simp [hv]) hfree
      · have hcut : ['a', 's', ' '] = v ++ m := hm
        rcases v with _ | ⟨c, _ | ⟨d, _ | ⟨e, v⟩⟩⟩
        · exact absurd rfl hlegal.1
        · obtain ⟨rfl, rfl⟩ : 'a' = c ∧ ['s', ' '] = m := by simpa using hcut
          rw [hrest] at hname
          exact absurd hname (by simp; decide)
        · obtain ⟨rfl, rfl, rfl⟩ : 'a' = c ∧ 's' = d ∧ [' '] = m := by simpa using hcut
          exact ⟨gap, b, rfl, by simp [hrest]⟩
        · obtain ⟨-, -, rfl, -⟩ : 'a' = c ∧ 's' = d ∧ ' ' = e ∧ [] = v ++ m := by simpa using hcut
          exact absurd (by simp) hfree

/-! ## What a site is taken for -/

/-- What is taken for a binding, read off the text around it. -/
theorem exists_siteKind {site : Passage}
    (hfront : endsWith [' ', 'a', 's'] (trimEnd site.before) = false)
    (hbehind : ¬['a', 's', ' '] <+: trimStart site.after)
    (hbeside : (trimStart site.after).head? = some ',' ∨
      (trimEnd site.before).getLast? = some ',' ∨
        ((trimEnd site.before).getLast? = some '\x7b' ∧
          (trimStart site.after).head? = some '\x7d')) :
    ∃ p, siteKind site = .binding p := by
  have hends : ∀ {c : Char} {text : Text}, text.getLast? = some c → endsWith [c] text = true := by
    intro c text h
    obtain ⟨front, rfl⟩ := List.getLast?_eq_some_iff.mp h
    exact endsWith_iff.mpr (List.suffix_append front [c])
  have hstarts : List.isPrefixOf ['a', 's', ' '] (trimStart site.after) = false := by
    rw [Bool.eq_false_iff]
    exact fun h => hbehind (List.isPrefixOf_iff_prefix.mp h)
  unfold siteKind
  simp only [hfront, hstarts, Bool.or_false, Bool.false_eq_true, if_false]
  split
  · exact ⟨_, rfl⟩
  · rename_i hcomma
    rcases hbeside with h | h | ⟨h, h'⟩
    · obtain ⟨rest, hrest⟩ := List.head?_eq_some_iff.mp h
      exact absurd hrest (hcomma rest)
    · simp [hends h]
    · split
      · exact ⟨_, rfl⟩
      · simp [hends h, h']

theorem head?_trimStart_sign {c : Char} (h : IsSpelling b) (hsign : StartsWithSign c b)
    (tail : Text) : (trimStart (spell b ++ tail)).head? = some c := by
  obtain ⟨gap, b, rfl⟩ := hsign
  rw [trimStart_spell (h.tokens ⟨gap, .sign c⟩ (by simp)) (h.gaps ⟨gap, .sign c⟩ (by simp))]
  rfl

theorem getLast?_trimEnd_sign {c : Char} (h : IsSpelling (a ++ ⟨g, .word w⟩ :: b))
    (hsign : EndsWithSign c a) : (trimEnd (spell a ++ g)).getLast? = some c := by
  obtain ⟨front, gap, rfl⟩ := hsign
  rw [trimEnd_spell (h.tokens ⟨gap, .sign c⟩ (by simp)) (h.gaps ⟨g, .word w⟩ (by simp)),
    ← List.append_assoc, Token.text, List.getLast?_concat]

/-- **A word that is taken for a binding** is one for the search, if the search sees all that stands
    in front of the last word. -/
theorem siteKind_of_isTaken {site : Passage} {p : Piece} (h : IsTaken a (b ++ [p]))
    (hword : p.token.isWord = true) (hspells : IsSpelling (a ++ ⟨g, .word w⟩ :: (b ++ [p])))
    (hbefore : site.before = spell a ++ g) (hafter : site.after = spell b ++ p.gap) :
    ∃ q, siteKind site = .binding q := by
  have hb : IsSpelling (b ++ [p]) :=
    IsSpelling.right (a := a ++ [⟨g, .word w⟩]) (by simpa using hspells)
  have hgap : Blanks p.gap := hb.gaps p (by simp)
  have hstarts : ∀ {c : Char}, StartsWithSign c (b ++ [p]) →
      (trimStart site.after).head? = some c := by
    rintro c ⟨gap, back, hback⟩
    cases b with
    | nil =>
      obtain ⟨rfl, -⟩ := List.cons.inj hback
      cases hword
    | cons q b =>
      obtain ⟨rfl, -⟩ := List.cons.inj hback
      exact hafter ▸ head?_trimStart_sign hb.left ⟨gap, b, rfl⟩ p.gap
  refine exists_siteKind ?_ (fun hprefix => ?_) ?_
  · by_contra hends
    obtain ⟨a', gap, rfl, hspace⟩ := as_of_endsWith hspells
      (by rw [← hbefore]; simpa using hends)
    exact h.noAs a' gap rfl hspace
  · rw [hafter] at hprefix
    obtain ⟨gap, b, rfl, hspace⟩ := as_of_startsWith hb.left hgap hprefix
    cases b with
    | nil => exact h.noAs' gap p [] rfl (by simpa using hspace)
    | cons q b =>
      refine h.noAs' gap q (b ++ [p]) rfl ?_
      have hlegal := hb.tokens q (by simp)
      cases hq : q.gap with
      | nil =>
        have hblank := (Token.noBlank hlegal).1
        rw [spell_cons, hq, List.nil_append, List.append_assoc,
          List.head?_append_of_ne_nil _ (Token.text_ne_nil hlegal)] at hspace
        rw [hspace] at hblank
        exact absurd hblank (by decide)
      | cons c gap => simpa [hq] using hspace
  · rcases h.beside with hcomma | hcomma | ⟨hopen, hclose⟩
    · exact .inl (hstarts hcomma)
    · exact .inr (.inl (hbefore ▸ getLast?_trimEnd_sign hspells hcomma))
    · exact .inr (.inr ⟨hbefore ▸ getLast?_trimEnd_sign hspells hopen, hstarts hclose⟩)

/-! ## Mistaken places -/

section

variable {symbol : Text} {under commaFront commaBehind : Bool} {front back : List Piece}

theorem EndsWithSign.noAs {c : Char} (h : EndsWithSign c a) {a' : List Piece} {gap : Text} :
    a ≠ a' ++ [⟨gap, .word asWord⟩] := by
  rintro rfl
  exact not_endsWithSign_word a' ⟨gap, asWord⟩ c h

theorem StartsWithSign.noAs {c : Char} (h : StartsWithSign c b) {b' : List Piece} {gap : Text} :
    b ≠ ⟨gap, .word asWord⟩ :: b' := by
  rintro rfl
  obtain ⟨_, _, hsign⟩ := h
  cases hsign

theorem name_of_last {m : Word} {a' : List Piece} {gap : Text}
    (h : front ++ [m.piece] = a' ++ [⟨gap, .word asWord⟩]) : m.name = asWord := by
  have hpiece : m.piece = ⟨gap, .word asWord⟩ := by simpa using List.append_inj_right' h rfl
  simpa [Word.piece] using congrArg Piece.token hpiece

/-- A name without a new one is taken in front of a comma, and without a modifier also at the end of
    a list. -/
theorem Element.exists_taken_of_noNewName {e : Element} (hnew : e.newName = none)
    (hname : e.name = .word symbol) (hcase : e.modifier.isSome = true → commaBehind = true)
    (hmodifier : ∀ m ∈ e.modifier, m.name ≠ asWord)
    (hfront : EndsWithSign (if commaFront then ',' else '\x7b') front)
    (hback : StartsWithSign (if commaBehind then ',' else '\x7d') back) :
    ∃ a g b, e.pieces = a ++ ⟨g, .word symbol⟩ :: b ∧ IsTaken (front ++ a) (b ++ back) := by
  refine ⟨e.front, e.gap, [], by simp [Element.pieces, Element.back, hnew, hname,
    ImportedName.token], ?_⟩
  cases hm : e.modifier with
  | none =>
    have hnil : e.front = [] := by simp [Element.front, hm]
    rw [hnil, List.append_nil, List.nil_append]
    refine ⟨?_, fun _ _ h => absurd h hfront.noAs, fun _ _ _ h => absurd h hback.noAs⟩
    cases commaBehind with
    | true => exact .inl hback
    | false =>
      cases commaFront with
      | true => exact .inr (.inl hfront)
      | false => exact .inr (.inr ⟨hfront, hback⟩)
  | some m =>
    have hone : e.front = [m.piece] := by simp [Element.front, hm]
    obtain rfl : commaBehind = true := hcase (by simp [hm])
    rw [hone, List.nil_append]
    exact ⟨.inl hback, fun _ _ h => absurd (name_of_last h) (hmodifier m (by simp [hm])),
      fun _ _ _ h => absurd h hback.noAs⟩

/-- A name is taken behind a comma, when a tab follows the `as` behind it. -/
theorem Element.exists_taken_of_name {e : Element} {n : NewName} (hnew : e.newName = some n)
    (hname : e.name = .word symbol) (hm : e.modifier = none) (htab : n.gap.head? = some '\t')
    (hfront : EndsWithSign ',' front) :
    ∃ a g b, e.pieces = a ++ ⟨g, .word symbol⟩ :: b ∧ IsTaken (front ++ a) (b ++ back) := by
  have hnil : e.front = [] := by simp [Element.front, hm]
  refine ⟨[], e.gap, n.pieces, by simp [Element.pieces, Element.back, hnil, hnew, hname,
    ImportedName.token], ?_⟩
  rw [List.append_nil]
  refine ⟨.inr (.inl hfront), fun _ _ h => absurd h hfront.noAs, fun gap q b' h => ?_⟩
  obtain ⟨-, rfl, -⟩ : n.asGap = gap ∧ n.piece = q ∧ back = b' := by
    simpa [NewName.pieces] using h
  rw [show n.piece.gap = n.gap from rfl, htab]
  decide

/-- A new name is taken in front of a comma, when a tab stands in front of its `as`. -/
theorem Element.exists_taken_of_newName {e : Element} {n : NewName} (hnew : e.newName = some n)
    (hname : n.name = symbol) (htab : n.asGap.getLast? = some '\t')
    (hback : StartsWithSign ',' back) :
    ∃ a g b, e.pieces = a ++ ⟨g, .word symbol⟩ :: b ∧ IsTaken (front ++ a) (b ++ back) := by
  refine ⟨e.front ++ [⟨e.gap, e.name.token⟩, ⟨n.asGap, .word asWord⟩], n.gap, [], by
    simp [Element.pieces, Element.back, hnew, NewName.pieces, Word.piece, hname], ?_⟩
  refine ⟨.inl hback, fun a' gap h => ?_, fun _ _ _ h => absurd h hback.noAs⟩
  have hlast : (front ++ (e.front ++ [⟨e.gap, e.name.token⟩])) ++ [⟨n.asGap, .word asWord⟩] =
      a' ++ [⟨gap, .word asWord⟩] := by simpa using h
  obtain rfl : n.asGap = gap := by simpa using List.append_inj_right' hlast rfl
  rw [htab]
  decide

/-- A mistaken binding has a word that is taken for one of its own. -/
theorem Element.exists_taken {e : Element}
    (hmistaken : e.isMistaken symbol under commaFront commaBehind = true)
    (hmodifier : ∀ m ∈ e.modifier, m.name ≠ asWord)
    (hfront : EndsWithSign (if commaFront then ',' else '\x7b') front)
    (hback : StartsWithSign (if commaBehind then ',' else '\x7d') back) :
    ∃ a g b, e.pieces = a ++ ⟨g, .word symbol⟩ :: b ∧ IsTaken (front ++ a) (b ++ back) := by
  unfold Element.isMistaken at hmistaken
  cases hnew : e.newName with
  | none =>
    obtain ⟨hname, hcase⟩ : e.name = .word symbol ∧
        (if e.modifier.isSome then commaBehind else under) = true := by
      simpa [hnew] using hmistaken
    exact Element.exists_taken_of_noNewName hnew hname (fun hm => by rwa [if_pos hm] at hcase)
      hmodifier hfront hback
  | some n =>
    have hcases : (e.name = .word symbol ∧ e.modifier = none ∧ n.gap.head? = some '\t' ∧
        commaFront = true) ∨ (n.name = symbol ∧ n.asGap.getLast? = some '\t' ∧
          commaBehind = true) := by
      simpa [hnew, and_assoc] using hmistaken
    rcases hcases with ⟨hname, hm, htab, rfl⟩ | ⟨hname, htab, rfl⟩
    · exact Element.exists_taken_of_name hnew hname hm htab hfront
    · exact Element.exists_taken_of_newName hnew hname htab hback

/-- A list with a mistaken binding has a word that is taken for one of its own. -/
theorem exists_taken_list {trailing : Bool} {elements : List Element} (front : List Piece)
    (hmistaken : listIsMistaken symbol under trailing commaFront elements = true)
    (hmodifier : ∀ e ∈ elements, ∀ m ∈ e.modifier, m.name ≠ asWord)
    (hfront : EndsWithSign (if commaFront then ',' else '\x7b') front)
    (hback : StartsWithSign '\x7d' back) :
    ∃ a g b, listPieces trailing elements = a ++ ⟨g, .word symbol⟩ :: b ∧
      IsTaken (front ++ a) (b ++ back) := by
  induction elements generalizing front commaFront with
  | nil => cases hmistaken
  | cons e es ih =>
    simp only [listIsMistaken, Bool.or_eq_true] at hmistaken
    rcases hmistaken with hmistaken | hmistaken
    · have hcomma : StartsWithSign (if (!es.isEmpty || trailing) then ',' else '\x7d')
          (commaPiece e.commaGap (!es.isEmpty || trailing) ++
            (listPieces trailing es ++ back)) := by
        cases hflag : !es.isEmpty || trailing with
        | true => exact ⟨e.commaGap, _, rfl⟩
        | false =>
          obtain ⟨rfl, rfl⟩ : es = [] ∧ trailing = false := by simpa using hflag
          simpa [commaPiece, listPieces] using hback
      obtain ⟨a, g, b, hpieces, htaken⟩ :=
        Element.exists_taken hmistaken (hmodifier e (by simp)) hfront hcomma
      refine ⟨a, g, b ++ (commaPiece e.commaGap (!es.isEmpty || trailing) ++
        listPieces trailing es), ?_, by simpa using htaken⟩
      simp [listPieces, hpieces]
    · have hflag : (!es.isEmpty || trailing) = true := by
        cases es with
        | nil => cases hmistaken
        | cons e' es => rfl
      obtain ⟨a, g, b, hpieces, htaken⟩ := ih (front ++ (e.pieces ++ [⟨e.commaGap, .sign ','⟩]))
        hmistaken (fun e he => hmodifier e (by simp [he])) ⟨front ++ e.pieces, e.commaGap, by simp⟩
      exact ⟨e.pieces ++ (⟨e.commaGap, .sign ','⟩ :: a), g, b,
        by simp [listPieces, hflag, commaPiece, hpieces], by simpa using htaken⟩

end

/-! ## Statements with plain words -/

/-- **A word that there is once stands in one place.** -/
theorem place_unique {ps a' b' : List Piece} {symbol g' : Text}
    (once : (wordsOf ps).count symbol = 1)
    (h : ps = a ++ ⟨g, .word symbol⟩ :: b) (h' : ps = a' ++ ⟨g', .word symbol⟩ :: b') :
    a = a' ∧ g = g' ∧ b = b' := by
  have twice : ∀ (front mid back : List Piece) (u v : Text),
      ps ≠ front ++ ⟨u, .word symbol⟩ :: (mid ++ ⟨v, .word symbol⟩ :: back) := by
    rintro front mid back u v rfl
    simp only [wordsOf_append, wordsOf_word, List.count_append, List.count_cons_self] at once
    omega
  rcases append_eq_append_cons (h.symm.trans h') with ⟨z, rfl, -⟩ | ⟨z, hz, rfl⟩
  · exact absurd (by simp [h]) (twice a' z b g' g)
  · cases z with
    | nil =>
      obtain ⟨hpiece, rfl⟩ := List.cons.inj hz
      exact ⟨by simp, by simpa using hpiece, rfl⟩
    | cons q z =>
      obtain ⟨rfl, rfl⟩ := List.cons.inj hz
      exact absurd h (twice a z b' g g')

/-- A word, or a sign of a list. -/
def Token.isPlain : Token → Bool
  | .word _ => true
  | .sign c => c != '*'
  | .quoted _ _ => false

namespace Statement

variable {s : Statement} {symbol : Text}

/-- The modifiers of the bindings and of the whole clause. -/
def modifiers (s : Statement) : List Text :=
  s.modifier.toList.map Word.name ++ s.bindings.elim [] fun
    | .star _ _ _ => []
    | .list _ elements _ _ => elements.flatMap fun e => e.modifier.toList.map Word.name

/-- The search sees the whole clause, and each of its words as one. -/
structure IsPlain (s : Statement) : Prop where
  words : ∀ word ∈ s.words, word ≠ fromWord ∧
    ∀ c ∈ word, isIdentifierChar c = true ∧ isWordChar c = true
  tokens : ∀ p ∈ s.clause, p.token.isPlain = true
  modifiers : ∀ name ∈ s.modifiers, name ≠ asWord

instance (s : Statement) : Decidable s.IsPlain :=
  decidable_of_iff ((∀ word ∈ s.words, word ≠ fromWord ∧
      ∀ c ∈ word, isIdentifierChar c = true ∧ isWordChar c = true) ∧
      (∀ p ∈ s.clause, p.token.isPlain = true) ∧ ∀ name ∈ s.modifiers, name ≠ asWord)
    ⟨fun ⟨words, tokens, modifiers⟩ => ⟨words, tokens, modifiers⟩,
      fun h => ⟨h.words, h.tokens, h.modifiers⟩⟩

/-- A mistaken statement has a word that is taken for a binding of its own. -/
theorem exists_taken (hmistaken : s.isMistaken symbol = true) (hplain : s.IsPlain) :
    ∃ a g b, s.clause = a ++ ⟨g, .word symbol⟩ :: b ∧
      IsTaken a (b ++ [⟨s.fromGap, .word fromWord⟩]) := by
  unfold clause
  rcases Bool.or_eq_true_iff.mp hmistaken with hdefault | hbindings
  · obtain ⟨⟨m, hm⟩, ⟨d, hd, rfl⟩, bindings, hs⟩ : (∃ m, s.modifier = some m) ∧
        (∃ d, s.default = some d ∧ d.name = symbol) ∧ ∃ bindings, s.bindings = some bindings := by
      simpa [Option.isSome_iff_exists, Option.any_eq_true, and_assoc] using hdefault
    refine ⟨[m.piece], d.gap, ⟨s.commaGap, .sign ','⟩ :: bindings.pieces, ?_, ?_⟩
    · simp [hm, hd, hs, commaPiece, Word.piece]
    · have hcomma : StartsWithSign ',' ((⟨s.commaGap, .sign ','⟩ :: bindings.pieces) ++
          [⟨s.fromGap, .word fromWord⟩]) := ⟨s.commaGap, _, rfl⟩
      refine ⟨.inl hcomma, fun a' gap h => ?_, fun _ _ _ h => absurd h hcomma.noAs⟩
      have has : m.name = asWord := name_of_last (show [] ++ [m.piece] = a' ++ _ from h)
      exact absurd has (hplain.modifiers m.name (by simp [modifiers, hm]))
  · obtain ⟨bindings, hs, hlist⟩ := (Option.any_eq_true _ _).mp hbindings
    cases bindings with
    | star starGap asGap name => cases hlist
    | list openGap elements trailing closeGap =>
      have hmodifier : ∀ e ∈ elements, ∀ m ∈ e.modifier, m.name ≠ asWord := by
        intro e he m hm
        refine hplain.modifiers m.name (List.mem_append_right _ ?_)
        rw [hs]
        exact List.mem_flatMap.mpr ⟨e, he, by simp [Option.mem_def.mp hm]⟩
      obtain ⟨a, g, b, hpieces, htaken⟩ := exists_taken_list
        ((s.modifier.toList.map Word.piece ++ (s.default.toList.map Word.piece ++
          commaPiece s.commaGap (s.default.isSome && s.bindings.isSome))) ++
            [⟨openGap, .sign '\x7b'⟩])
        hlist hmodifier ⟨_, openGap, rfl⟩ ⟨closeGap, [⟨s.fromGap, .word fromWord⟩], rfl⟩
      refine ⟨_, g, b ++ [⟨closeGap, .sign '\x7d'⟩], ?_, by simpa using htaken⟩
      simp [hs, Bindings.pieces, hpieces]

/-! ## The clause that is seen -/

theorem IsPlain.wordChars (h : s.IsPlain) {p : Piece} (hp : p ∈ s.clause) {word : Text}
    (hword : p.token = .word word) : ∀ c ∈ word, isIdentifierChar c = true ∧ isWordChar c = true :=
  (h.words word (List.mem_filterMap.mpr ⟨p, hp, by rw [hword]⟩)).2

/-- The clause is made of words, blanks, commas and braces. -/
theorem mem_clause (h : s.IsLegal) (hplain : s.IsPlain) {c : Char}
    (hc : c ∈ spell s.clause ++ s.fromGap) :
    isNameChar c = true ∨ isIndent c = true ∨ isTight c = true := by
  have hspells : IsSpelling s.clause := h.tail.left
  rcases List.mem_append.mp hc with hc | hc
  · obtain ⟨⟨gap, t⟩, hp, hc⟩ := List.mem_flatMap.mp hc
    rcases List.mem_append.mp hc with hc | hc
    · exact .inr (.inl (hspells.gaps _ hp c hc))
    · have hlegal : t.IsLegal := hspells.tokens _ hp
      cases t with
      | word word => exact .inl (hlegal.2 c hc)
      | sign d =>
        obtain rfl := List.mem_singleton.mp hc
        have hstar : c ≠ '*' := by simpa [Token.isPlain] using hplain.tokens _ hp
        have hsigns : ∀ c ∈ clauseSigns, c ≠ '*' → isTight c = true := by decide
        exact .inr (.inr (hsigns c hlegal hstar))
      | quoted quote content => cases hplain.tokens _ hp
  · exact .inr (.inl (h.fromGap c hc))

theorem not_mem_clause (h : s.IsLegal) (hplain : s.IsPlain) {c : Char}
    (hname : isNameChar c = false) (hindent : isIndent c = false) (htight : isTight c = false) :
    c ∉ spell s.clause ++ s.fromGap := by
  intro hc
  have := mem_clause h hplain hc
  simp [hname, hindent, htight] at this

end Statement

/-- The words of a text are those of its pieces. -/
theorem runsOf_spell {ps : List Piece} {tail : Text} (h : IsSpelling ps)
    (hwords : ∀ p ∈ ps, ∀ word, p.token = .word word → ∀ c ∈ word, isWordChar c = true)
    (hplain : ∀ p ∈ ps, p.token.isPlain = true)
    (htail : tail.head?.any isNameChar = false) :
    runsOf isWordChar (spell ps ++ tail) = wordsOf ps ++ runsOf isWordChar tail := by
  induction ps with
  | nil => rfl
  | cons p ps ih =>
    obtain ⟨gap, t⟩ := p
    have hlater : runsOf isWordChar (spell ps ++ tail) = wordsOf ps ++ runsOf isWordChar tail :=
      ih (IsSpelling.right (a := [⟨gap, t⟩]) h) (fun p hp => hwords p (by simp [hp]))
        fun p hp => hplain p (by simp [hp])
    have hgap : ∀ c ∈ gap, isWordChar c = false := fun c hc =>
      (gapFacts ((h.gaps ⟨gap, t⟩ (by simp)).gap c hc)).word
    have hlegal : t.IsLegal := h.tokens ⟨gap, t⟩ (by simp)
    rw [spell_cons, List.append_assoc, List.append_assoc, runsOf_gap hgap]
    cases t with
    | sign c =>
      have hsigns : ∀ c ∈ clauseSigns, isWordChar c = false := by decide
      rw [Token.text, List.singleton_append, runsOf_gap_cons (hsigns c hlegal), hlater]
      rfl
    | quoted quote content => cases hplain ⟨gap, .quoted quote content⟩ (by simp)
    | word word =>
      have hword := runsOf_word hlegal.1 (hwords ⟨gap, .word word⟩ (by simp) word rfl)
      rw [Token.text, runsOf_append (.inr (any_of_isNameChar (h.head_behind htail)).1), hword,
        hlater, wordsOf_word]
      rfl

namespace Statement

variable {s : Statement} {symbol : Text}

/-- **The clause of a statement with plain words** is the clause that is searched. -/
theorem isClauseText (h : s.IsLegal) (hplain : s.IsPlain) :
    IsClauseText (spell s.clause ++ s.fromGap) := by
  have hlast := last_of_clause h
  have hne : spell s.clause ++ s.fromGap ≠ [] := by
    intro hnil
    rw [hnil] at hlast
    exact absurd hlast (by decide)
  obtain ⟨front, c, hconcat⟩ := exists_concat hne
  refine ⟨?_, ⟨front, c, hconcat, ?_⟩, fun c hc => ⟨?_, ?_⟩, ?_⟩
  · have hhead := IsSpelling.head_behind h.spells h.behind.head
    rw [spell_tail, List.head?_append_of_ne_nil _ hne] at hhead
    exact (any_of_isNameChar hhead).1
  · rw [hconcat] at hlast
    simpa [Shape.behind] using hlast
  · rintro (rfl | rfl) <;> exact absurd hc (not_mem_clause h hplain (by decide) rfl rfl)
  · refine h.oneLine c ?_
    rw [text_eq]
    simp only [List.mem_append] at hc ⊢
    tauto
  · have hblank : runsOf isWordChar s.fromGap = [] :=
      runsOf_eq_nil.mpr fun c hc => (gapFacts (h.fromGap.gap c hc)).word
    rw [runsOf_spell h.tail.left (fun p hp word hword c hc => (hplain.wordChars hp hword c hc).2)
      hplain.tokens (head?_blanks h.fromGap), hblank, List.append_nil]
    exact fun hmem => (hplain.words _ hmem).1 rfl

/-- **A mistaken place is found** in a statement with plain words, if it is the only one. -/
theorem find_ne_none (h : s.IsLegal) (hplain : s.IsPlain) (once : s.words.count symbol = 1)
    (hmistaken : s.isMistaken symbol = true) : find symbol s.text ≠ none := by
  have hmem : symbol ∈ s.words := List.count_pos_iff.mp (by omega)
  obtain ⟨a, g, b, hclause, htaken⟩ := exists_taken hmistaken hplain
  have hspells : IsSpelling (a ++ ⟨g, .word symbol⟩ :: (b ++ [⟨s.fromGap, .word fromWord⟩])) := by
    simpa [hclause] using h.tail
  have hlegal : (Token.word symbol).IsLegal := hspells.tokens ⟨g, .word symbol⟩ (by simp)
  have hidentifier : IsIdentifier symbol := ⟨hlegal.1, fun c hc => ((hplain.words _ hmem).2 c hc).1⟩
  have htext : s.text = importText s.indent (spell s.clause ++ s.fromGap) s.behind := by
    rw [text_eq, importText, List.append_assoc]
  have hparts : clauseOf s.text = some ⟨s.indent ++ keyword, spell s.clause ++ s.fromGap,
      fromWord ++ s.behind⟩ := by
    rw [htext]
    exact clauseOf_importText h.indent (isClauseText h hplain) (any_of_isNameChar h.behind.head).1
  have hhides : ∀ word ∈ s.words, word ≠ symbol → ¬Hides symbol word := fun word hword hne hhides =>
    hne (hhides.eq_of_plain hlegal.1 (hplain.words word hword).2)
  -- the symbol has a site, and each of its sites is the mistaken place
  have hsites : identifierSites symbol (spell s.clause ++ s.fromGap) ≠ [] := by
    have hright : IsSpelling (⟨g, .word symbol⟩ :: b) :=
      IsSpelling.right (a := a) (hclause ▸ h.tail.left)
    have hstands : StandsIn symbol (spell s.clause ++ s.fromGap) :=
      ⟨spell a ++ g, spell b ++ s.fromGap, by simp [hclause, Token.text], isBounded_iff.mpr
        ⟨(any_of_isNameChar hspells.last_front).2,
          (any_of_isNameChar (hright.head_behind (head?_blanks h.fromGap))).2⟩⟩
    simpa [hasIdentifier] using (hasIdentifier_iff hidentifier _).mpr hstands
  obtain ⟨site, later, hsite⟩ := List.exists_cons_of_ne_nil hsites
  obtain ⟨a', g', b', hplace, hb', hbefore, hafter⟩ :=
    place_of_site h hlegal hhides hparts (hsite ▸ List.mem_cons_self)
  have hkind : ∃ q, siteKind site = .binding q := by
    obtain ⟨b'', hclause', rfl⟩ := append_concat_eq_append_cons hplace hb'
    obtain ⟨rfl, rfl, rfl⟩ := place_unique once hclause hclause'
    have hcut : site.after ++ (fromWord ++ s.behind) =
        (spell b ++ s.fromGap) ++ (fromWord ++ s.behind) := by
      rw [hafter]
      simp [Token.text]
    exact siteKind_of_isTaken htaken rfl hspells hbefore (List.append_cancel_right hcut)
  obtain ⟨q, hq⟩ := hkind
  have hstar : '*' ∉ spell s.clause ++ s.fromGap := not_mem_clause h hplain (by decide) rfl rfl
  have hbinding : bindingInClause symbol (spell s.clause ++ s.fromGap) = some q := by
    rw [bindingInClause, if_neg (by simpa using hstar), hsite, firstBinding, hq]
  have hline : bindingOnLine symbol s.text =
      some (Passage.inBody ⟨s.indent ++ keyword, spell s.clause ++ s.fromGap,
        fromWord ++ s.behind⟩ q) := by
    rw [bindingOnLine, hparts]
    simp only [hbinding, Option.map_some]
  have hwhole : WholeLine s.text ⟨[], s.text, []⟩ := ⟨by simp, .inl rfl, h.oneLine, .inl rfl⟩
  exact fun hnone => findGrouped_ne_none hwhole hline (Option.or_eq_none_iff.mp hnone).2

/-! ## The answer of the search -/

/-- **Renamed names, namespaces and names with a modifier are left alone unless they are mistaken.**
    A symbol that is aside and not mistaken is not found on the line of the statement, and wherever
    the line stands, providing the symbol keeps it.  A mistaken symbol is found, if the words of the
    statement are plain and it stands there once. -/
theorem find_provide_of_isAside (h : s.IsLegal) (haside : s.IsAside symbol) :
    (s.isMistaken symbol = false → find symbol s.text = none ∧
      ∀ (front behind new : Text), IsLine front s.text behind → ∃ front' behind',
        provide symbol new (front ++ (s.text ++ behind)) = front' ++ (s.text ++ behind') ∧
          IsLine front' s.text behind') ∧
    (s.isMistaken symbol = true → s.IsPlain → s.words.count symbol = 1 →
      find symbol s.text ≠ none) := by
  refine ⟨fun hclear => ?_, fun hmistaken hplain once => find_ne_none h hplain once hmistaken⟩
  have hsymbol : ∀ c ∈ symbol, isLineEnd c = false := fun c hc =>
    isLineEnd_of_isNameChar (haside.word.2 c hc)
  have hnone := find_eq_none h haside hclear
  exact ⟨hnone, fun front behind new hline => provide_keeps_line hsymbol hline hnone new⟩

/-- Two bindings of a list, the first renamed from `S` and the second renamed to it. -/
def sample : Statement where
  default := some ⟨" ", "D"⟩
  bindings := some (.list " "
    [{ gap := " ", name := .word "S", newName := some ⟨⟨" ", "t"⟩, "\t"⟩ },
      { gap := " ", name := .word "x", newName := some ⟨⟨"\t", "S"⟩, " "⟩ }] false " ")
  fromGap := " "
  behind := " 'm'"

theorem find_provide_of_isAside_sample :
    sample.text = ("import D, \x7b S\tas t, x as\tS \x7d from 'm'" : Text) ∧ sample.IsLegal ∧
      sample.IsAside "S" ∧ find "S" sample.text = none ∧
      ∃ front' behind', provide "S" "import S from 'n'" ("// S\n" ++ (sample.text ++ "\nS()")) =
        front' ++ (sample.text ++ behind') ∧ IsLine front' sample.text behind' := by
  have hlegal : sample.IsLegal := by decide +kernel
  have hwords : ∀ word ∈ sample.words, ∀ c ∈ word,
      isIdentifierChar c = true ∧ isWordChar c = true := by decide +kernel
  have haside : sample.IsAside "S" := ⟨by decide +kernel, by decide +kernel,
    fun word hword hne hhides => hne (hhides.eq_of_plain (by decide) (hwords word hword))⟩
  obtain ⟨hnone, hkeeps⟩ := (find_provide_of_isAside hlegal haside).1 (by decide +kernel)
  have hline : IsLine "// S\n" sample.text "\nS()" :=
    ⟨by decide, hlegal.oneLine, by rintro c ⟨⟩; rfl, by rintro c ⟨⟩; rfl⟩
  exact ⟨by decide +kernel, hlegal, haside, hnone, hkeeps _ _ _ hline⟩

/-- Statements in which `S` is mistaken for a binding of its own: a type in front of another
    binding, a list of types, and two names with a tab beside the `as`. -/
def mistakenSamples : List Statement :=
  [{ bindings := some (.list " "
      [{ modifier := some ⟨" ", "type"⟩, gap := " ", name := .word "S" },
        { gap := " ", name := .word "X" }] false " "), fromGap := " ", behind := " 'm'" },
    { modifier := some ⟨" ", "type"⟩,
      bindings := some (.list " " [{ gap := " ", name := .word "S" }] false " "),
      fromGap := " ", behind := " 'm'" },
    { bindings := some (.list " "
      [{ gap := " ", name := .word "X" },
        { gap := " ", name := .word "S", newName := some ⟨⟨"\t", "t"⟩, " "⟩ }] false " "),
      fromGap := " ", behind := " 'm'" },
    { bindings := some (.list " "
      [{ gap := " ", name := .word "x", newName := some ⟨⟨" ", "S"⟩, "\t"⟩ },
        { gap := " ", name := .word "Y" }] false " "), fromGap := " ", behind := " 'm'" }]

/-- **Places that are mistaken** are found, and cutting them out changes the statement: behind a
    type it makes a type of the next binding. -/
theorem find_mistaken :
    mistakenSamples.map Statement.text = ["import \x7b type S, X \x7d from 'm'",
      "import type \x7b S \x7d from 'm'", "import \x7b X, S as\tt \x7d from 'm'",
      "import \x7b x\tas S, Y \x7d from 'm'"].map String.toList ∧
    (∀ s ∈ mistakenSamples, s.IsLegal ∧ s.IsPlain ∧ s.words.count ("S" : Text) = 1 ∧
      ("S" : Text) ∉ s.exposed ∧ find "S" s.text ≠ none) ∧
    provide "S" "import S from 'n'" "import \x7b type S, X \x7d from 'm'\n" =
      ("import \x7b type X \x7d from 'm'\nimport S from 'n'\n" : Text) := by
  decide +kernel

end Statement

end RouteLocalizer.Import
