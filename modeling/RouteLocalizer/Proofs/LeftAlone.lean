/-
  Names that an import statement RENAMES, a namespace and names with a type modifier are LEFT ALONE:
  the search for an import does not find them (`Statement.find_eq_none`).

  PROGRAM: the search looks for a line that imports the symbol alone, and then for the symbol in the
  clause between `import` and `from`, at every site in it, by the text around the site.
  SPECIFICATION: a statement is its pieces, legal when they are spelt legally and a quoted module
  stands behind the word `from` (`Statement.IsLegal`).  The symbol is aside (`Statement.IsAside`)
  when no word that stands for itself is the symbol, and none hides it.  Then it is not found,
  unless a piece beside it is one that the search mistakes for the end of a binding
  (`Statement.isMistaken`).

  1. The clause that is searched ends at the word `from` of the statement or earlier
     (`Statement.clause_parts`), and a site of the symbol in it is a word of the statement, or the
     word hides the symbol (`Statement.place_of_site`).
  2. What keeps the search from a place keeps it from that site (`Harmless.not_binding`).
  3. A line that imports the symbol alone has only braces and blanks beside it, so the symbol is not
     renamed and has no modifier (`Harmless.not_alone`).
-/
import RouteLocalizer.Proofs.KeptLines
import RouteLocalizer.Proofs.Statement

namespace RouteLocalizer.Import

open Text

/-! ## Legal statements -/

/-- What follows the word `from`: the name of a module in quotes, and the rest of the line. -/
structure StartsQuoted (text : Text) : Prop where
  quoted : (text.dropWhile isIndent).head?.any (fun c => decide (isQuoteMark c)) = true
  oneLine : ∀ c ∈ text, isLineEnd c = false

instance (text : Text) : Decidable (StartsQuoted text) :=
  decidable_of_iff ((text.dropWhile isIndent).head?.any (fun c => decide (isQuoteMark c)) = true ∧
      ∀ c ∈ text, isLineEnd c = false)
    ⟨fun ⟨quoted, oneLine⟩ => ⟨quoted, oneLine⟩, fun h => ⟨h.quoted, h.oneLine⟩⟩

/-- The blanks, the quote that opens the name of the module, and the rest. -/
theorem StartsQuoted.parts {text : Text} (h : StartsQuoted text) :
    ∃ gap quote rest, Blanks gap ∧ isQuoteMark quote ∧ text = gap ++ quote :: rest := by
  obtain ⟨quote, hhead, hquote⟩ := (Option.any_eq_true _ _).mp h.quoted
  obtain ⟨rest, hrest⟩ := List.head?_eq_some_iff.mp hhead
  refine ⟨text.takeWhile isIndent, quote, rest, fun c hc => List.mem_takeWhile_imp hc,
    by simpa using hquote, ?_⟩
  rw [← hrest, List.takeWhile_append_dropWhile]

/-- So no word goes on behind `from`. -/
theorem StartsQuoted.head {text : Text} (h : StartsQuoted text) :
    text.head?.any isNameChar = false := by
  obtain ⟨gap, quote, rest, hgap, hquote, rfl⟩ := h.parts
  cases gap with
  | nil =>
    have hname : isNameChar quote = false := by rcases hquote with rfl | rfl <;> decide
    simpa using hname
  | cons c gap => simpa using isNameChar_of_isIndent (hgap c (by simp))

/-- Where no word goes on, none goes on for either search. -/
theorem any_of_isNameChar {next : Option Char} (h : next.any isNameChar = false) :
    next.any isWordChar = false ∧ next.any isIdentifierChar = false := by
  cases next with
  | none => exact ⟨rfl, rfl⟩
  | some c => simpa [isNameChar, and_comm] using h

/-- The search finds the symbol inside of a longer word: between two characters that are no part of
    an identifier for it, or in front of a `from` that it sees in the word. -/
def Hides (symbol word : Text) : Prop :=
  ∃ part rest, word = part ++ rest ∧ (rest = [] ∨ (fromShape part.getLast? rest).isSome = true) ∧
    StandsIn symbol part

/-- A word of ASCII letters, or of others that every search takes for a part of a word, hides no
    symbol. -/
theorem Hides.eq_of_plain {symbol word : Text} (h : Hides symbol word) (hne : symbol ≠ [])
    (hplain : ∀ c ∈ word, isIdentifierChar c = true ∧ isWordChar c = true) : word = symbol := by
  obtain ⟨part, rest, rfl, hrest, before, after, rfl, hbounded⟩ := h
  obtain ⟨hbefore, hafter⟩ := isBounded_iff.mp hbounded
  obtain rfl : before = [] := by
    rcases List.eq_nil_or_concat' before with hnil | ⟨before, c, rfl⟩
    · exact hnil
    · have hc := (hplain c (by simp)).1
      simp [hc] at hbefore
  obtain rfl : after = [] := by
    cases after with
    | nil => rfl
    | cons c after =>
      have hc := (hplain c (by simp)).1
      simp [hc] at hafter
  rcases hrest with rfl | hfits
  · simp
  · -- the symbol would end in front of the word `from`
    obtain ⟨symbol, c, rfl⟩ := exists_concat hne
    have hc := (hplain c (by simp)).2
    have hlast := (fromShape_isSome.mp hfits).1
    simp [hc] at hlast

namespace Statement

variable {s : Statement} {symbol : Text}

/-- A statement that is spelt legally, with a module in quotes behind it. -/
structure IsLegal (s : Statement) : Prop where
  spells : IsSpelling s.pieces
  behind : StartsQuoted s.behind

instance (s : Statement) : Decidable s.IsLegal :=
  decidable_of_iff (IsSpelling s.pieces ∧ StartsQuoted s.behind)
    ⟨fun ⟨spells, behind⟩ => ⟨spells, behind⟩, fun h => ⟨h.spells, h.behind⟩⟩

/-- The words between `import` and `from`. -/
def words (s : Statement) : List Text := wordsOf s.clause

/-- The text of a statement, part by part. -/
theorem text_eq (s : Statement) : s.text = s.indent ++ (keyword ++
    (spell s.clause ++ (s.fromGap ++ (fromWord ++ s.behind)))) := by
  simp [text, pieces, Token.text]

/-- The pieces behind the word `import`. -/
theorem IsLegal.tail (h : s.IsLegal) : IsSpelling (s.clause ++ [⟨s.fromGap, .word fromWord⟩]) :=
  IsSpelling.right (a := [⟨s.indent, .word keyword⟩]) h.spells

/-- The word `from` as the last of its pieces. -/
theorem spell_tail (s : Statement) : spell (s.clause ++ [⟨s.fromGap, .word fromWord⟩]) ++ s.behind =
    (spell s.clause ++ s.fromGap) ++ (fromWord ++ s.behind) := by
  simp [Token.text]

theorem IsLegal.fromGap (h : s.IsLegal) : Blanks s.fromGap :=
  h.tail.gaps ⟨s.fromGap, .word fromWord⟩ (by simp)

theorem IsLegal.indent (h : s.IsLegal) : Blanks s.indent :=
  h.spells.gaps ⟨s.indent, .word keyword⟩ (by simp [pieces])

/-- **A legal statement stands on one line.** -/
theorem IsLegal.oneLine (h : s.IsLegal) : ∀ c ∈ s.text, isLineEnd c = false := by
  intro c hc
  rcases List.mem_append.mp hc with hc | hc
  · exact h.spells.oneLine c hc
  · exact h.behind.oneLine c hc

/-! ## The clause that is searched -/

/-- In front of the word `from` of the statement there is no part of a word. -/
theorem last_of_clause (h : s.IsLegal) :
    (Shape.behind (some 't') (spell s.clause ++ s.fromGap)).any isWordChar = false := by
  have hspells : IsSpelling ((⟨s.indent, .word keyword⟩ :: s.clause) ++
      ⟨s.fromGap, .word fromWord⟩ :: []) := h.spells
  obtain ⟨front, c, hlast, hc⟩ := hspells.last_before (by simp)
  have hfront : (s.indent ++ keyword).getLast? = some 't' := by
    rw [List.getLast?_append_of_ne_nil _ (by decide)]
    rfl
  have hbehind : Shape.behind (some 't') (spell s.clause ++ s.fromGap) = some c := by
    rw [Shape.behind, ← hfront, ← List.getLast?_append]
    simpa [Token.text] using congrArg List.getLast? hlast
  rw [hbehind]
  exact (any_of_isNameChar (show (some c).any isNameChar = false by simpa using hc)).1

/-- **The clause ends at the word `from` of the statement or earlier.** -/
theorem clause_parts (h : s.IsLegal) {p : Passage} (hp : clauseOf s.text = some p) :
    ∃ mid, spell s.clause ++ s.fromGap = p.body ++ mid ∧
      p.after = mid ++ (fromWord ++ s.behind) := by
  obtain ⟨indent, hbefore, hindent, hline, -, hsplit⟩ := clauseOf_eq_some hp
  have hrest : spell s.clause ++ (s.fromGap ++ (fromWord ++ s.behind)) = p.body ++ p.after := by
    rw [text_eq, hbefore, List.append_assoc] at hline
    exact eq_of_indent hline h.indent.isBlank fun c hc => isBlank_of_isIndent (hindent c hc)
  rw [← List.append_assoc] at hrest
  rcases List.append_eq_append_iff.mp hrest with ⟨mid, hbody, hbehind⟩ | ⟨mid, hclause, hafter⟩
  · cases mid with
    | nil => exact ⟨[], by simpa using hbody.symm, by simpa using hbehind.symm⟩
    | cons c mid =>
      -- the clause would go on behind the word `from`
      have hnone := (splitClause_eq_some hsplit).2.2 _ c mid hbody
      rw [← hbehind] at hnone
      have hfits := fromShape_isSome.mpr
        ⟨last_of_clause h, s.behind, rfl, (any_of_isNameChar h.behind.head).1⟩
      rw [hnone] at hfits
      cases hfits
  · exact ⟨mid, hclause, hafter⟩

/-! ## Sites in the clause -/

/-- A word `from` ends with the word that it starts in. -/
theorem from_of_append {z more behind : Text} (h : z ++ more = fromWord ++ behind)
    (hbehind : behind.head?.any isWordChar = false) (hmore : more.head?.any isNameChar = false) :
    ∃ rest, z = fromWord ++ rest ∧ rest.head?.any isWordChar = false := by
  have hname : ∀ c ∈ fromWord, isNameChar c = true := by decide
  obtain ⟨rest, rfl, rfl⟩ := exists_of_end hname hmore h
  exact ⟨rest, rfl, any_head?_of_isPrefix (List.prefix_append rest more) hbehind⟩

/-- A site of the symbol in a word is the word, or the word hides the symbol. -/
theorem hides_of_site {front x y after rest more : Text} {last : Option Char} (hne : symbol ≠ [])
    (hbounded : isBounded (front ++ x).getLast? after.head? = true)
    (hfits : (fromShape (Shape.behind last (front ++ (x ++ (symbol ++ after)))) rest).isSome = true)
    (hafter : after ++ rest = y ++ more) (hmore : more.head?.any isNameChar = false) :
    Hides symbol (x ++ (symbol ++ y)) := by
  obtain ⟨hfront, hnext⟩ := isBounded_iff.mp hbounded
  have hx : x.getLast?.any isIdentifierChar = false := by
    by_cases hnil : x = []
    · rw [hnil]
      rfl
    · rwa [List.getLast?_append_of_ne_nil _ hnil] at hfront
  rcases List.append_eq_append_iff.mp hafter with ⟨z, rfl, hrest⟩ | ⟨z, rfl, hz⟩
  · -- the clause ends in the word
    obtain ⟨hlast, behind, hfrom, hbehind⟩ := fromShape_isSome.mp hfits
    by_cases hz : z = []
    · exact ⟨x ++ (symbol ++ after), [], by simp [hz], .inl rfl, x, after, rfl,
        isBounded_iff.mpr ⟨hx, hnext⟩⟩
    · refine ⟨x ++ (symbol ++ after), z, by simp, .inr (fromShape_isSome.mpr ⟨?_, ?_⟩), x, after,
        rfl, isBounded_iff.mpr ⟨hx, hnext⟩⟩
      · obtain ⟨part, c, hpart⟩ := exists_concat (show x ++ (symbol ++ after) ≠ [] by simp [hne])
        rw [Shape.behind, List.getLast?_append_of_ne_nil _ (by simp [hne]), hpart] at hlast
        simpa [hpart] using hlast
      · exact from_of_append (hrest.symm.trans hfrom) hbehind hmore
  · refine ⟨x ++ (symbol ++ y), [], by simp, .inl rfl, x, y, rfl, isBounded_iff.mpr ⟨hx, ?_⟩⟩
    cases y with
    | nil => rfl
    | cons c y => exact hnext

/-- **A site of the symbol in the clause is a word of the statement**, in front of its `from`. -/
theorem place_of_site (h : s.IsLegal) (hsymbol : (Token.word symbol).IsLegal)
    (hhides : ∀ word ∈ s.words, word ≠ symbol → ¬Hides symbol word) {p site : Passage}
    (hp : clauseOf s.text = some p) (hsite : site ∈ identifierSites symbol p.body) :
    ∃ a g b, s.clause ++ [⟨s.fromGap, .word fromWord⟩] = a ++ ⟨g, .word symbol⟩ :: b ∧ b ≠ [] ∧
      site.before = spell a ++ g ∧ site.after ++ p.after = spell b ++ s.behind := by
  obtain ⟨mid, hclause, hafter⟩ := clause_parts h hp
  obtain ⟨-, -, -, -, -, hsplit⟩ := clauseOf_eq_some hp
  obtain ⟨hwhole, hbody, hbounded⟩ := identifierSites_eq hsite
  rw [hbody] at hwhole
  have htext : spell (s.clause ++ [⟨s.fromGap, .word fromWord⟩]) ++ s.behind =
      site.before ++ (symbol ++ (site.after ++ p.after)) := by
    rw [spell_tail, hclause, List.append_assoc, ← hafter, ← hwhole]
    simp
  have hlength := congrArg List.length hclause
  have hlength' := congrArg List.length hwhole
  have hpos : 0 < symbol.length := List.length_pos_iff.mpr hsymbol.1
  simp only [List.length_append] at hlength hlength'
  have hquote : ∀ c ∈ site.before, ¬ isQuoteMark c := fun c hc =>
    (splitClause_plain hsplit c (by simp [← hwhole, hc])).1
  rcases exists_place h.tail hsymbol.1 hsymbol.2 h.behind.head hquote htext with
    ⟨a, g, w, b, x, y, hpieces, hw, hbefore, hrest⟩ | hprefix
  · have hb : b ≠ [] := by
      -- the word would be the `from` behind the clause
      rintro rfl
      obtain ⟨rfl, hlast⟩ := List.append_inj' hpieces rfl
      obtain ⟨rfl, -⟩ : s.fromGap = g ∧ fromWord = w := by simpa using hlast
      simp only [hbefore, List.length_append] at hlength hlength'
      omega
    have hsame : w = symbol := by
      by_contra hne
      refine hhides w ?_ hne ?_
      · obtain ⟨b', hword, -⟩ := append_concat_eq_append_cons hpieces hb
        simp [words, hword]
      · rw [hw]
        have hfits := (splitClause_eq_some hsplit).2.1
        rw [← hwhole, hbefore, ← List.append_assoc (spell a), List.append_assoc _ x] at hfits
        rw [hbefore, ← List.append_assoc] at hbounded
        have hspells : IsSpelling (⟨g, .word w⟩ :: b) := by
          have htail := h.tail
          rw [hpieces] at htail
          exact htail.right
        exact hides_of_site hsymbol.1 hbounded hfits hrest (hspells.head_behind h.behind.head)
    subst hsame
    obtain ⟨rfl, rfl⟩ : x = [] ∧ y = [] := by
      have := congrArg List.length hw
      simp only [List.length_append] at this
      exact ⟨List.length_eq_zero_iff.mp (by omega), List.length_eq_zero_iff.mp (by omega)⟩
    exact ⟨a, g, b, hpieces, hb, by simpa using hbefore, by simpa using hrest⟩
  · -- the site would stand behind the clause
    have := hprefix.length_le
    simp only [spell_append, List.length_append] at this
    simp [Token.text, fromWord] at this
    omega

end Statement

/-! ## What keeps the search away -/

variable {a b : List Piece} {indent : Text}

theorem mem_spell {p : Piece} {c : Char} (hp : p ∈ a) (hc : c ∈ p.token.text) : c ∈ spell a :=
  List.mem_flatMap.mpr ⟨p, hp, List.mem_append_right _ hc⟩

/-- Pieces in front do not change what the last one is. -/
theorem EndsWithSign.cons {c : Char} (h : EndsWithSign c a) (p : Piece) :
    EndsWithSign c (p :: a) := by
  obtain ⟨front, gap, rfl⟩ := h
  exact ⟨p :: front, gap, rfl⟩

/-- The last pieces of some behind a word. -/
theorem concat_of_cons {p q : Piece} {a' : List Piece} (h : p :: a = a' ++ [q]) :
    (a' = [] ∧ q = p) ∨ ∃ front, a = front ++ [q] := by
  cases a' with
  | nil => exact .inl ⟨rfl, (List.cons.inj h).1.symm⟩
  | cons p' front => exact .inr ⟨front, (List.cons.inj h).2⟩

/-- **What keeps the search from a place keeps it from its site**: the site is not taken for a
    binding, or a star or a quote stands in the clause. -/
theorem Harmless.not_binding {g w rest tail : Text} {site p : Passage}
    (h : Harmless (⟨indent, .word keyword⟩ :: a) b) (hkind : siteKind site = .binding p)
    (hspells : IsSpelling (a ++ ⟨g, .word w⟩ :: b)) (hb : b ≠ [])
    (hbefore : site.before = spell a ++ g) (hafter : site.after ++ 'f' :: rest = spell b ++ tail)
    (hstar : '*' ∉ site.before) (hquote : ∀ c ∈ site.before, ¬ isQuoteMark c) : False := by
  obtain ⟨hsigns, hnoAs, hnoAs'⟩ := isTaken_of_siteKind hkind hspells hb hbefore hafter
  have hmem : ∀ {q : Piece} {c : Char}, q ∈ a → c ∈ q.token.text → c ∈ site.before :=
    fun hq hc => by rw [hbefore]; exact List.mem_append_left _ (mem_spell hq hc)
  cases h with
  | star hq htoken =>
    rcases List.mem_cons.mp hq with rfl | hq
    · cases htoken
    · exact hstar (hmem hq (by simp [htoken, Token.text]))
  | @quoted q quote content hq htoken =>
    rcases List.mem_cons.mp hq with rfl | hq
    · cases htoken
    · have hlegal := hspells.tokens q (by simp [hq])
      rw [htoken] at hlegal
      exact hquote quote (hmem hq (by simp [htoken, Token.text])) hlegal.1
  | renamed hb' hspace =>
    refine hnoAs' _ _ _ hb' (hspace ?_)
    rcases hsigns with ⟨_, _, hcomma⟩ | hcomma | ⟨-, _, _, hclose⟩
    · rw [hb'] at hcomma
      cases hcomma
    · exact hcomma.cons _
    · rw [hb'] at hclose
      cases hclose
  | newName ha hspace =>
    rcases concat_of_cons ha with ⟨-, hword⟩ | ⟨front, rfl⟩
    · cases hword
    · refine hnoAs _ _ rfl (hspace ?_)
      rcases hsigns with hcomma | hcomma | ⟨hopen, -⟩
      · exact hcomma
      · exact absurd hcomma (not_endsWithSign_word front ⟨_, asWord⟩ ',')
      · exact absurd hopen (not_endsWithSign_word front ⟨_, asWord⟩ '\x7b')
  | operand ha hne hcomma =>
    rcases concat_of_cons ha with ⟨rfl, -⟩ | ⟨front, rfl⟩
    · exact hne rfl
    · rcases hsigns with hcomma' | hcomma' | ⟨hopen, -⟩
      · exact hcomma hcomma'
      · exact not_endsWithSign_word front _ ',' hcomma'
      · exact not_endsWithSign_word front _ '\x7b' hopen

theorem isNameChar_of_isBesideAlone {c : Char} (h : isBesideAlone c = true) :
    isNameChar c = false := by
  have := gapFacts (isBesideAlone_gap h).1
  simp [isNameChar, this.word, this.identifier]

/-- **What keeps the search from a place keeps it from a line that imports the symbol alone**: there
    only braces and blanks stand in front of the symbol and behind it. -/
theorem Harmless.not_alone {g w gap rest tail : Text}
    (h : Harmless (⟨indent, .word keyword⟩ :: a) b) (hspells : IsSpelling (a ++ ⟨g, .word w⟩ :: b))
    (hfront : ∀ c ∈ spell a, isBesideAlone c = true) (hgap : ∀ c ∈ gap, isBesideAlone c = true)
    (hback : gap ++ (fromWord ++ rest) = spell b ++ tail) : False := by
  cases h with
  | star hq htoken =>
    rcases List.mem_cons.mp hq with rfl | hq
    · cases htoken
    · exact absurd (hfront '*' (mem_spell hq (by simp [htoken, Token.text]))) (by decide)
  | @quoted q quote content hq htoken =>
    rcases List.mem_cons.mp hq with rfl | hq
    · cases htoken
    · have hlegal := hspells.tokens q (by simp [hq])
      rw [htoken] at hlegal
      have hclass := hfront quote (mem_spell hq (by simp [htoken, Token.text]))
      rcases hlegal.1 with rfl | rfl <;> exact absurd hclass (by decide)
  | @renamed g' q b' hb hspace =>
    subst hb
    have hg' : Blanks g' := hspells.gaps ⟨g', .word asWord⟩ (by simp)
    have hback : gap ++ (fromWord ++ rest) = g' ++ (asWord ++ (spell (q :: b') ++ tail)) := by
      simpa [Token.text] using hback
    have hword : fromWord ++ rest = asWord ++ (spell (q :: b') ++ tail) :=
      rest_unique hback hgap (fun c hc => isBesideAlone_of_isIndent (hg' c hc)) rfl rfl
    cases hword
  | @newName a' gap' ha hspace =>
    rcases concat_of_cons ha with ⟨-, hword⟩ | ⟨front, rfl⟩
    · cases hword
    · exact absurd (hfront 'a' (mem_spell (p := ⟨gap', .word asWord⟩) (by simp)
        (by simp [Token.text, asWord]))) (by decide)
  | @operand a' v ha hne hcomma =>
    rcases concat_of_cons ha with ⟨rfl, -⟩ | ⟨front, rfl⟩
    · exact hne rfl
    · have hlegal := hspells.tokens v.piece (by simp)
      obtain ⟨c, name, hname⟩ := List.exists_cons_of_ne_nil hlegal.1
      have hc : isBesideAlone c = true := hfront c (mem_spell (p := v.piece) (by simp)
        (by simp [Word.piece, Token.text, hname]))
      have hname' : isNameChar c = true := hlegal.2 c (by simp [hname])
      rw [isNameChar_of_isBesideAlone hc] at hname'
      cases hname'

/-! ## Searching a statement -/

/-- A line of a text without line ends is the text. -/
theorem WholeLine.body_eq {text : Text} {p : Passage} (h : WholeLine text p)
    (plain : ∀ c ∈ text, isLineEnd c = false) : p.body = text := by
  have hbefore : p.before = [] := by
    rcases h.starts with hnil | ⟨front, hfront⟩
    · exact hnil
    · exact absurd (plain '\n' (by simp [h.whole, hfront])) (by decide)
  have hafter : p.after = [] := by
    rcases h.ends with hnil | ⟨rest, hrest | hrest⟩
    · exact hnil
    · exact absurd (plain '\n' (by simp [h.whole, hrest])) (by decide)
    · exact absurd (plain '\n' (by simp [h.whole, hrest])) (by decide)
  rw [h.whole, hbefore, hafter, List.nil_append, List.append_nil]

/-- What stands behind the module's word goes on with a quote, and not with another `from`. -/
theorem StartsQuoted.ne_fromWord {text gap rest : Text} (h : StartsQuoted text)
    (hgap : ∀ c ∈ gap, isBesideAlone c = true) : text ≠ gap ++ (fromWord ++ rest) := by
  intro htext
  obtain ⟨gap', quote, more, hgap', hmark, hparts⟩ := h.parts
  have hquote : isBesideAlone quote = false := by rcases hmark with rfl | rfl <;> rfl
  have hfrom : fromWord ++ rest = quote :: more :=
    rest_unique (p := isBesideAlone) (htext.symm.trans hparts) hgap
      (fun c hc => isBesideAlone_of_isIndent (hgap' c hc)) rfl (by simpa using hquote)
  have hf : 'f' = quote := (List.cons.inj hfrom).1
  rcases hmark with rfl | rfl <;> cases hf

/-- No part of a longer word stands between blanks and braces. -/
theorem eq_nil_of_between {x symbol y gap more back : Text}
    (hword : ∀ c ∈ x ++ (symbol ++ y), isNameChar c = true) (hx : ∀ c ∈ x, isNameChar c = false)
    (hne : gap ≠ []) (hgap : ∀ c ∈ gap, isNameChar c = false) (hback : gap ++ more = y ++ back) :
    x = [] ∧ y = [] := by
  constructor
  · cases x with
    | nil => rfl
    | cons c x =>
      have hc := hword c (by simp)
      rw [hx c (by simp)] at hc
      cases hc
  · cases y with
    | nil => rfl
    | cons c y =>
      obtain ⟨d, gap, rfl⟩ := List.exists_cons_of_ne_nil hne
      obtain rfl : d = c := (List.cons.inj hback).1
      have hd := hword d (by simp)
      rw [hgap d (by simp)] at hd
      cases hd

namespace Statement

variable {s : Statement} {symbol : Text}

/-- The symbol is no word that stands for itself, and no other word hides it. -/
structure IsAside (s : Statement) (symbol : Text) : Prop where
  word : (Token.word symbol).IsLegal
  notExposed : symbol ∉ s.exposed
  notHidden : ∀ word ∈ s.words, word ≠ symbol → ¬Hides symbol word

/-- A place of the symbol behind the word `import`, with something to keep the search away. -/
theorem IsAside.harmless (haside : s.IsAside symbol) (h : s.IsLegal)
    (hclear : s.isMistaken symbol = false) {a b : List Piece}
    {g : Text} (hpieces : s.clause ++ [⟨s.fromGap, .word fromWord⟩] = a ++ ⟨g, .word symbol⟩ :: b)
    (hb : b ≠ []) :
    Harmless (⟨s.indent, .word keyword⟩ :: a) b ∧ IsSpelling (a ++ ⟨g, .word symbol⟩ :: b) := by
  have hplace : s.pieces = (⟨s.indent, .word keyword⟩ :: a) ++ ⟨g, .word symbol⟩ :: b := by
    rw [pieces, hpieces, List.cons_append]
  exact ⟨Statement.harmless h.spells haside.notExposed hclear hplace (by simp) hb,
    hpieces ▸ h.tail⟩

/-- **No binding of it is found among others**: every site is a place of the symbol, and something
    keeps the search from it. -/
theorem bindingOnLine_eq_none (h : s.IsLegal) (haside : s.IsAside symbol)
    (hclear : s.isMistaken symbol = false) :
    bindingOnLine symbol s.text = none := by
  by_contra hfound
  obtain ⟨found, hfound⟩ := Option.ne_none_iff_exists'.mp hfound
  obtain ⟨clause, p, hclause, hp, -⟩ := bindingOnLine_eq_some hfound
  unfold bindingInClause at hp
  split at hp
  · cases hp
  · rename_i hstar
    obtain ⟨site, hsite, hkind⟩ := firstBinding_eq_some hp
    obtain ⟨a, g, b, hpieces, hb, hbefore, hafter⟩ :=
      place_of_site h haside.word haside.notHidden hclause hsite
    obtain ⟨hharmless, hspells⟩ := haside.harmless h hclear hpieces hb
    obtain ⟨-, -, -, -, -, hsplit⟩ := clauseOf_eq_some hclause
    obtain ⟨-, rest, hfrom, -⟩ := fromShape_isSome.mp (splitClause_eq_some hsplit).2.1
    have hmem : ∀ c ∈ site.before, c ∈ clause.body := fun c hc => by
      rw [← (identifierSites_eq hsite).1]
      exact List.mem_append_left _ hc
    have hcut : site.after ++ 'f' :: ("rom".toList ++ rest) = spell b ++ s.behind := by
      rw [← hafter, hfrom]
      rfl
    exact hharmless.not_binding hkind hspells hb hbefore hcut
      (fun hc => hstar (by simpa using hmem '*' hc))
      fun c hc => (splitClause_plain hsplit c (hmem c hc)).1

/-- **No line that imports it alone is found**: its words would be the statement's, with blanks and
    braces beside the symbol. -/
theorem findStandalone_eq_none (h : s.IsLegal) (haside : s.IsAside symbol)
    (hclear : s.isMistaken symbol = false) :
    findStandalone symbol s.text = none := by
  by_contra hfound
  obtain ⟨found, hfound⟩ := Option.ne_none_iff_exists'.mp hfound
  obtain ⟨p, -, rfl⟩ := Option.map_eq_some_iff.mp hfound
  have hwhole := standalone_wholeLine
    (fun c hc => isLineEnd_of_isNameChar (haside.word.2 c hc)) (endsPaired_of_noLineEnd h.oneLine)
    hfound
  obtain ⟨indent, gap₁, gap₂, rest, hbody, hne₁, hne₂, hindent, hgap₁, hgap₂, -⟩ :=
    standalone_body hfound
  rw [hwhole.body_eq h.oneLine, text_eq] at hbody
  have hrest : spell (s.clause ++ [⟨s.fromGap, .word fromWord⟩]) ++ s.behind =
      gap₁ ++ (symbol ++ (gap₂ ++ (fromWord ++ rest))) := by
    have := eq_of_indent hbody h.indent.isBlank fun c hc => isBlank_of_isIndent (hindent c hc)
    simpa [Token.text] using this
  have hgaps := isBesideAlone_of_gaps hgap₁ hgap₂
  have hfree : ∀ c ∈ gap₁ ++ gap₂, isNameChar c = false := fun c hc =>
    isNameChar_of_isBesideAlone (hgaps c hc)
  have hquote : ∀ c ∈ gap₁, ¬ isQuoteMark c := fun c hc hmark => by
    obtain ⟨hsingle, hdouble⟩ := (gapFacts (isBesideAlone_gap (hgaps c (by simp [hc]))).1).quote
    exact hmark.elim hsingle hdouble
  rcases exists_place h.tail haside.word.1 haside.word.2 h.behind.head hquote hrest with
    ⟨a, g, w, b, x, y, hpieces, hw, rfl, hback⟩ | hprefix
  · have hlegal : (Token.word w).IsLegal := h.tail.tokens ⟨g, .word w⟩ (by simp [hpieces])
    obtain ⟨rfl, rfl⟩ := eq_nil_of_between (fun c hc => hlegal.2 c (hw ▸ hc))
      (fun c hc => hfree c (by simp [hc])) hne₂ (fun c hc => hfree c (by simp [hc])) hback
    obtain rfl : w = symbol := by simpa using hw
    by_cases hb : b = []
    · -- the word would be the `from` behind the clause, and a second one would follow
      have hbehind : s.behind ≠ gap₂ ++ (fromWord ++ rest) :=
        h.behind.ne_fromWord fun c hc => hgaps c (by simp [hc])
      exact absurd (by simpa [hb] using hback.symm) hbehind
    · obtain ⟨hharmless, hspells⟩ := haside.harmless h hclear hpieces hb
      exact hharmless.not_alone hspells (fun c hc => hgaps c (by simp [hc]))
        (fun c hc => hgaps c (by simp [hc])) hback
  · have hf : 'f' ∈ gap₁ := hprefix.subset (by simp [Token.text, fromWord])
    have hname : isNameChar 'f' = true := by decide
    rw [hfree 'f' (by simp [hf])] at hname
    cases hname

/-- **A symbol that is aside and not mistaken is not found.** -/
theorem find_eq_none (h : s.IsLegal) (haside : s.IsAside symbol)
    (hclear : s.isMistaken symbol = false) :
    find symbol s.text = none := by
  by_contra hfound
  obtain ⟨site, hsite⟩ := Option.ne_none_iff_exists'.mp hfound
  rcases find_eq_some hsite with ⟨p, -, halone⟩ | ⟨p, b, -, hgrouped⟩
  · rw [findStandalone_eq_none h haside hclear] at halone
    cases halone
  · obtain ⟨hwhole, hbound⟩ := grouped_found (endsPaired_of_noLineEnd h.oneLine) hgrouped
    rw [hwhole.body_eq h.oneLine, bindingOnLine_eq_none h haside hclear] at hbound
    cases hbound

end Statement

end RouteLocalizer.Import
