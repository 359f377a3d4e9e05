/-
  A line as a list of PIECES: words, signs and quoted texts, each with the blanks in front of it.

  The pieces are a way to write a text down, and any blanks are legal as long as two words do not
  touch.  They are the grammar that the searches are judged by; the searches themselves know of no
  pieces and go by characters.

  SPECIFICATION:
  (1) `spell` — the text of some pieces, and `IsSpelling` — when they are a legal way to write it;
  (2) `exists_place` — an occurrence of a name in front of the first quote is a part of some word,
      so a search that looks at the text around it looks at the pieces around that word;
  (3) `isTaken_of_siteKind` — and it takes the occurrence for a binding only by what those pieces
      are.

  The crux of (2) is that a sign and a blank are no part of a name: going through the text piece by
  piece, an occurrence either starts behind the piece or lies within it.
-/
import Mathlib.Data.List.Chain
import RouteLocalizer.Proofs.Excision

namespace RouteLocalizer.Import

open Text

/-! ## Pieces and their spelling -/

/-- A character that a word is made of, for one search or the other. -/
def isNameChar (c : Char) : Bool := isIdentifierChar c || isWordChar c

/-- The signs of an import clause. -/
def clauseSigns : Text := "*\x7b\x7d,".toList

/-- A word, a sign of the clause, or a text in quotes. -/
inductive Token where
  | word (text : Text)
  | sign (c : Char)
  | quoted (quote : Char) (content : Text)
deriving DecidableEq

namespace Token

/-- How a token is written. -/
def text : Token → Text
  | word text => text
  | sign c => [c]
  | quoted quote content => quote :: (content ++ [quote])

/-- Whether a token is a word. -/
def isWord : Token → Bool
  | word _ => true
  | _ => false

/-- What a token may be made of. -/
def IsLegal : Token → Prop
  | word text => text ≠ [] ∧ ∀ c ∈ text, isNameChar c = true
  | sign c => c ∈ clauseSigns
  | quoted quote content => (quote = '\'' ∨ quote = '"') ∧ ∀ c ∈ content, isLineEnd c = false

instance : DecidablePred IsLegal
  | word _ => inferInstanceAs (Decidable (_ ∧ _))
  | sign _ => inferInstanceAs (Decidable (_ ∈ _))
  | quoted _ _ => inferInstanceAs (Decidable (_ ∧ _))

end Token

/-- A token with the blanks in front of it. -/
structure Piece where
  gap : Text
  token : Token
deriving DecidableEq

/-- How a piece is written: blanks and the token. -/
def Piece.text (p : Piece) : Text := p.gap ++ p.token.text

/-- The text of some pieces. -/
def spell (ps : List Piece) : Text := ps.flatMap Piece.text

@[simp] theorem spell_nil : spell [] = [] := rfl

@[simp] theorem spell_cons (p : Piece) (ps : List Piece) :
    spell (p :: ps) = p.gap ++ (p.token.text ++ spell ps) := by
  simp [spell, Piece.text]

@[simp] theorem spell_append (a b : List Piece) : spell (a ++ b) = spell a ++ spell b :=
  List.flatMap_append

/-- The words among some pieces. -/
def wordsOf (ps : List Piece) : List Text :=
  ps.filterMap fun p => match p.token with
    | .word word => some word
    | _ => none

@[simp] theorem wordsOf_append (a b : List Piece) : wordsOf (a ++ b) = wordsOf a ++ wordsOf b :=
  List.filterMap_append

@[simp] theorem wordsOf_word (gap word : Text) (ps : List Piece) :
    wordsOf (⟨gap, .word word⟩ :: ps) = word :: wordsOf ps := rfl

/-- Two words side by side have blanks between them. -/
def KeepsGap (p q : Piece) : Prop :=
  p.token.isWord = true → q.token.isWord = true → q.gap ≠ []

instance (p q : Piece) : Decidable (KeepsGap p q) :=
  inferInstanceAs (Decidable (_ → _))

/-- Pieces with legal blanks. -/
structure IsSpelling (ps : List Piece) : Prop where
  tokens : ∀ p ∈ ps, p.token.IsLegal
  gaps : ∀ p ∈ ps, Blanks p.gap
  apart : ps.IsChain KeepsGap

instance (ps : List Piece) : Decidable (IsSpelling ps) :=
  decidable_of_iff ((∀ p ∈ ps, p.token.IsLegal) ∧ (∀ p ∈ ps, Blanks p.gap) ∧ ps.IsChain KeepsGap)
    ⟨fun ⟨tokens, gaps, apart⟩ => ⟨tokens, gaps, apart⟩, fun h => ⟨h.tokens, h.gaps, h.apart⟩⟩

namespace IsSpelling

variable {a b : List Piece} {p : Piece}

/-- The front pieces of a legal spelling are one, ... -/
theorem left (h : IsSpelling (a ++ b)) : IsSpelling a :=
  ⟨fun p hp => h.tokens p (List.mem_append_left _ hp),
    fun p hp => h.gaps p (List.mem_append_left _ hp), (List.isChain_append.mp h.apart).1⟩

/-- ... and so are the pieces behind. -/
theorem right (h : IsSpelling (a ++ b)) : IsSpelling b :=
  ⟨fun p hp => h.tokens p (List.mem_append_right _ hp),
    fun p hp => h.gaps p (List.mem_append_right _ hp), (List.isChain_append.mp h.apart).2.1⟩

end IsSpelling

/-! ## The characters of a token -/

/-- Blanks are no part of a name, ... -/
theorem isNameChar_of_isIndent {c : Char} (h : isIndent c = true) : isNameChar c = false := by
  have := gapFacts (isInk_of_isBlank (isBlank_of_isIndent h))
  simp [isNameChar, this.word, this.identifier]

theorem head?_blanks {gap : Text} (h : Blanks gap) : gap.head?.any isNameChar = false := by
  cases gap with
  | nil => rfl
  | cons c gap => simpa using isNameChar_of_isIndent (h c (by simp))

theorem isBlank_of_isNameChar {c : Char} (h : isNameChar c = true) : isBlank c = false := by
  by_contra hblank
  have := gapFacts (isInk_of_isBlank (show isBlank c = true by simpa using hblank))
  simp [isNameChar, this.word, this.identifier] at h

/-- No name has a line end in it, ... -/
theorem isLineEnd_of_isNameChar {c : Char} (h : isNameChar c = true) : isLineEnd c = false := by
  rw [Bool.eq_false_iff]
  intro hend
  have : c = '\r' ∨ c = '\n' := by simpa [isLineEnd] using hend
  rcases this with rfl | rfl <;> exact absurd h (by decide)

/-- ... and neither are signs. -/
theorem isNameChar_of_sign {c : Char} (h : c ∈ clauseSigns) : isNameChar c = false := by
  have hsigns : ∀ c ∈ clauseSigns, isNameChar c = false := by decide
  exact hsigns c h

/-- ... so no token has one. -/
theorem Token.oneLine {t : Token} (h : t.IsLegal) : ∀ c ∈ t.text, isLineEnd c = false := by
  cases t with
  | word w => exact fun c hc => isLineEnd_of_isNameChar (h.2 c hc)
  | sign d =>
    have hsigns : ∀ c ∈ clauseSigns, isLineEnd c = false := by decide
    exact fun c hc => hsigns c (List.mem_singleton.mp hc ▸ h)
  | quoted quote content =>
    have hquote : isLineEnd quote = false := by rcases h.1 with rfl | rfl <;> decide
    simp only [text, List.mem_cons, List.mem_append, List.not_mem_nil, or_false]
    rintro c (rfl | hc | rfl)
    · exact hquote
    · exact h.2 c hc
    · exact hquote

/-- The pieces of a line have no line end. -/
theorem IsSpelling.oneLine {ps : List Piece} (h : IsSpelling ps) :
    ∀ c ∈ spell ps, isLineEnd c = false := by
  intro c hc
  obtain ⟨p, hp, hc⟩ := List.mem_flatMap.mp hc
  rcases List.mem_append.mp hc with hc | hc
  · exact (isBesideAlone_gap (isBesideAlone_of_isIndent (h.gaps p hp c hc))).2
  · exact Token.oneLine (h.tokens p hp) c hc

/-- A token is never empty. -/
theorem Token.text_ne_nil {t : Token} (h : t.IsLegal) : t.text ≠ [] := by
  cases t with
  | word w => exact h.1
  | sign c => simp [text]
  | quoted quote content => simp [text]

/-- A sign and a quoted text start with no part of a name. -/
theorem Token.head_text {t : Token} (h : t.IsLegal) (hword : t.isWord = false) :
    ∃ c rest, t.text = c :: rest ∧ isNameChar c = false := by
  cases t with
  | word w => cases hword
  | sign c => exact ⟨c, [], rfl, isNameChar_of_sign h⟩
  | quoted quote content =>
    refine ⟨quote, content ++ [quote], rfl, ?_⟩
    rcases h.1 with rfl | rfl <;> decide

/-- A sign and a quoted text end with no part of a name. -/
theorem Token.last_text {t : Token} (h : t.IsLegal) (hword : t.isWord = false) :
    ∃ rest c, t.text = rest ++ [c] ∧ isNameChar c = false := by
  cases t with
  | word w => cases hword
  | sign c => exact ⟨[], c, rfl, isNameChar_of_sign h⟩
  | quoted quote content =>
    refine ⟨quote :: content, quote, rfl, ?_⟩
    rcases h.1 with rfl | rfl <;> decide

/-- No token starts with a blank or ends with one. -/
theorem Token.noBlank {t : Token} (h : t.IsLegal) :
    t.text.head?.any isBlank = false ∧ t.text.getLast?.any isBlank = false := by
  cases t with
  | word w =>
    have hblank : ∀ c ∈ w, isBlank c = false := fun c hc => isBlank_of_isNameChar (h.2 c hc)
    constructor
    · cases hhead : w.head? with
      | none => simp [text, hhead]
      | some c => simpa [text, hhead] using hblank c (List.mem_of_head? hhead)
    · cases hlast : w.getLast? with
      | none => simp [text, hlast]
      | some c => simpa [text, hlast] using hblank c (List.mem_of_getLast? hlast)
  | sign c =>
    have hsigns : ∀ c ∈ clauseSigns, isBlank c = false := by decide
    simp [text, hsigns c h]
  | quoted quote content =>
    have hquote : isBlank quote = false := by rcases h.1 with rfl | rfl <;> decide
    refine ⟨by simpa [text] using hquote, ?_⟩
    rw [text, ← List.cons_append, List.getLast?_concat]
    exact hquote

/-- A token that ends with a sign is that sign. -/
theorem Token.eq_sign_of_last {t : Token} (h : t.IsLegal) {c : Char} (hc : c ∈ clauseSigns)
    (hlast : t.text.getLast? = some c) : t = .sign c := by
  cases t with
  | sign d =>
    obtain rfl : d = c := by simpa [text] using hlast
    rfl
  | word w =>
    have hw := h.2 c (List.mem_of_getLast? hlast)
    rw [isNameChar_of_sign hc] at hw
    cases hw
  | quoted quote content =>
    rw [text, ← List.cons_append, List.getLast?_concat] at hlast
    obtain rfl : quote = c := Option.some.inj hlast
    rcases h.1 with rfl | rfl <;> exact absurd hc (by decide)

/-- A token that starts with a sign is that sign. -/
theorem Token.eq_sign_of_head {t : Token} (h : t.IsLegal) {c : Char} (hc : c ∈ clauseSigns)
    (hhead : t.text.head? = some c) : t = .sign c := by
  cases t with
  | sign d =>
    obtain rfl : d = c := by simpa [text] using hhead
    rfl
  | word w =>
    have hw := h.2 c (List.mem_of_head? hhead)
    rw [isNameChar_of_sign hc] at hw
    cases hw
  | quoted quote content =>
    obtain rfl : quote = c := by simpa [text] using hhead
    rcases h.1 with rfl | rfl <;> exact absurd hc (by decide)

/-! ## Where a name stands -/

variable {tail : Text}

/-- What stands behind a word is no part of it. -/
theorem IsSpelling.head_behind {g w : Text} {ps : List Piece}
    (h : IsSpelling (⟨g, .word w⟩ :: ps)) (htail : tail.head?.any isNameChar = false) :
    (spell ps ++ tail).head?.any isNameChar = false := by
  cases ps with
  | nil => exact htail
  | cons p ps =>
    have hgap := h.gaps p (by simp)
    cases hcons : p.gap with
    | cons c gap =>
      simpa [hcons] using isNameChar_of_isIndent (hgap c (by simp [hcons]))
    | nil =>
      have hword : p.token.isWord = false := by
        by_contra hword
        exact (List.isChain_cons_cons.mp h.apart).1 rfl (by simpa using hword) hcons
      obtain ⟨c, rest, htext, hc⟩ := Token.head_text (h.tokens p (by simp)) hword
      simp [hcons, htext, hc]

/-- What stands in front of a word is no part of it. -/
theorem IsSpelling.last_before {g w : Text} {a b : List Piece}
    (h : IsSpelling (a ++ ⟨g, .word w⟩ :: b)) (hne : a ≠ []) :
    ∃ front c, spell a ++ g = front ++ [c] ∧ isNameChar c = false := by
  have hgap : Blanks g := h.gaps ⟨g, .word w⟩ (by simp)
  by_cases hnil : g = []
  · obtain ⟨a, p, rfl⟩ := (List.eq_nil_or_concat' a).resolve_left hne
    have hword : p.token.isWord = false := by
      by_contra hword
      have hpair : IsSpelling (p :: ⟨g, .word w⟩ :: b) := by
        rw [List.append_assoc] at h
        exact h.right
      exact (List.isChain_cons_cons.mp hpair.apart).1 (by simpa using hword) rfl hnil
    obtain ⟨rest, c, htext, hc⟩ := Token.last_text (h.tokens p (by simp)) hword
    exact ⟨spell a ++ (p.gap ++ rest), c, by simp [hnil, htext], hc⟩
  · obtain ⟨front, c, rfl⟩ := exists_concat hnil
    exact ⟨spell a ++ front, c, by simp, isNameChar_of_isIndent (hgap c (by simp))⟩

/-- Blanks in front of a name are not part of it. -/
theorem eq_append_of_blanks {gap text u v : Text} {c : Char} (hgap : Blanks gap)
    (hc : isNameChar c = true) (h : gap ++ text = u ++ c :: v) :
    ∃ u', u = gap ++ u' ∧ text = u' ++ c :: v := by
  refine exists_of_end hgap ?_ h.symm
  cases hindent : isIndent c with
  | false => simpa using hindent
  | true => exact absurd (isNameChar_of_isIndent hindent) (by simp [hc])

/-- **An occurrence of a name is a part of some word**, unless it stands behind all pieces. -/
theorem exists_place {name u v : Text} {ps : List Piece} (h : IsSpelling ps) (hne : name ≠ [])
    (hname : ∀ c ∈ name, isNameChar c = true) (htail : tail.head?.any isNameChar = false)
    (hquote : ∀ c ∈ u, ¬ isQuoteMark c) (htext : spell ps ++ tail = u ++ (name ++ v)) :
    (∃ a g w b x y, ps = a ++ ⟨g, .word w⟩ :: b ∧ w = x ++ (name ++ y) ∧
      u = spell a ++ (g ++ x) ∧ v = y ++ (spell b ++ tail)) ∨ spell ps <+: u := by
  obtain ⟨n, name, rfl⟩ := List.exists_cons_of_ne_nil hne
  have hn : isNameChar n = true := hname n (by simp)
  induction ps generalizing u with
  | nil => exact .inr List.nil_prefix
  | cons p ps ih =>
    obtain ⟨g, t⟩ := p
    have hlegal : t.IsLegal := h.tokens ⟨g, t⟩ (by simp)
    simp only [spell_cons, List.append_assoc, List.cons_append] at htext
    have hgap : Blanks g := h.gaps ⟨g, t⟩ (by simp)
    obtain ⟨u, rfl, htoken⟩ := eq_append_of_blanks hgap hn htext
    -- behind the token it is the other pieces that decide
    have later : ∀ u', u = t.text ++ u' → (∃ a g' w b x y, ⟨g, t⟩ :: ps = a ++ ⟨g', .word w⟩ :: b ∧
        w = x ++ (n :: name ++ y) ∧ g ++ u = spell a ++ (g' ++ x) ∧ v = y ++ (spell b ++ tail)) ∨
        spell (⟨g, t⟩ :: ps) <+: g ++ u := by
      rintro u' rfl
      have hrest : spell ps ++ tail = u' ++ (n :: name ++ v) := by simpa using htoken
      have hps : IsSpelling ([⟨g, t⟩] ++ ps) := h
      rcases ih hps.right (fun c hc => hquote c (by simp [hc])) hrest with
        ⟨a, g', w, b, x, y, rfl, hw, rfl, hv⟩ | hprefix
      · exact .inl ⟨⟨g, t⟩ :: a, g', w, b, x, y, rfl, hw, by simp, hv⟩
      · obtain ⟨more, rfl⟩ := hprefix
        exact .inr ⟨more, by simp⟩
    -- and the name does not start where another token starts
    have hstart : t.isWord = false → u ≠ [] := by
      rintro hword rfl
      obtain ⟨d, _, htext', hd⟩ := Token.head_text hlegal hword
      rw [htext'] at htoken
      obtain rfl : d = n := (List.cons.inj htoken).1
      rw [hn] at hd
      cases hd
    cases t with
    | sign c =>
      obtain ⟨d, u, rfl⟩ := List.exists_cons_of_ne_nil (hstart rfl)
      obtain rfl : c = d := (List.cons.inj htoken).1
      exact later u rfl
    | quoted quote content =>
      have hmark : isQuoteMark quote := hlegal.1
      obtain ⟨d, u, rfl⟩ := List.exists_cons_of_ne_nil (hstart rfl)
      obtain rfl : quote = d := (List.cons.inj htoken).1
      exact absurd hmark (hquote quote (by simp))
    | word w =>
      rw [Token.text] at htoken
      rcases List.append_eq_append_iff.mp htoken with ⟨z, hz, -⟩ | ⟨z, hw, hrest⟩
      · exact later z hz
      · rw [← List.cons_append] at hrest
        rcases List.append_eq_append_iff.mp hrest with ⟨y, hz, hv⟩ | ⟨r, hr, hbehind⟩
        · exact .inl ⟨[], g, w, ps, u, y, rfl, by rw [hw, hz], by simp, hv⟩
        · cases r with
          | nil =>
            exact .inl ⟨[], g, w, ps, u, [], rfl, by simp [hw, hr], by simp, by simp [hbehind]⟩
          | cons d r =>
            -- the name would go on behind the word
            have hd := h.head_behind htail
            rw [hbehind, List.cons_append, List.head?_cons, Option.any_some,
              hname d (by simp [hr])] at hd
            cases hd

/-! ## What a site of a name is taken for -/

/-- The last piece is the given sign. -/
def EndsWithSign (c : Char) (ps : List Piece) : Prop := ∃ front gap, ps = front ++ [⟨gap, .sign c⟩]

/-- The first piece is the given sign. -/
def StartsWithSign (c : Char) (ps : List Piece) : Prop := ∃ gap back, ps = ⟨gap, .sign c⟩ :: back

/-- Between the pieces in front and behind, a word is taken for a binding: it stands beside a comma
    or alone in braces, and no `as` beside it has a space on its other side. -/
structure IsTaken (a b : List Piece) : Prop where
  beside : StartsWithSign ',' b ∨ EndsWithSign ',' a ∨
    (EndsWithSign '\x7b' a ∧ StartsWithSign '\x7d' b)
  noAs : ∀ a' gap, a = a' ++ [⟨gap, .word asWord⟩] → gap.getLast? ≠ some ' '
  noAs' : ∀ gap q b', b = ⟨gap, .word asWord⟩ :: q :: b' → q.gap.head? ≠ some ' '

/-- What is taken for a binding stands beside a comma or alone in braces, and beside no word `as`
    that has a space on its other side. -/
theorem siteKind_signs {site p : Passage} (h : siteKind site = .binding p) :
    endsWith [' ', 'a', 's'] (trimEnd site.before) = false ∧
      ¬['a', 's', ' '] <+: trimStart site.after ∧
      ((trimStart site.after).head? = some ',' ∨ (trimEnd site.before).getLast? = some ',' ∨
        ((trimEnd site.before).getLast? = some '\x7b' ∧
          (trimStart site.after).head? = some '\x7d')) := by
  have hlast : ∀ {c : Char} {text : Text}, endsWith [c] text = true → text.getLast? = some c := by
    intro c text h
    obtain ⟨front, rfl⟩ := endsWith_iff.mp h
    exact List.getLast?_concat
  unfold siteKind at h
  simp only at h
  split at h
  · cases h
  · rename_i hrenamed
    rw [Bool.not_eq_true, Bool.or_eq_false_iff] at hrenamed
    refine ⟨hrenamed.1, fun hprefix => ?_, ?_⟩
    · rw [List.isPrefixOf_iff_prefix.mpr hprefix] at hrenamed
      cases hrenamed.2
    · split at h
      · rename_i rest hafter
        exact .inl (by rw [hafter]; rfl)
      · split at h
        · exact .inr (.inl (hlast ‹_›))
        · split at h
          · rename_i hbraces
            obtain ⟨hopen, hclose⟩ := Bool.and_eq_true_iff.mp hbraces
            exact .inr (.inr ⟨hlast hopen, by simpa using hclose⟩)
          · cases h

/-- The text in front of a word, trimmed, ends with the token in front. -/
theorem trimEnd_spell {a : List Piece} {p : Piece} {g : Text} (hp : p.token.IsLegal)
    (hg : Blanks g) : trimEnd (spell (a ++ [p]) ++ g) = spell a ++ (p.gap ++ p.token.text) := by
  have hne := Token.text_ne_nil hp
  have hblank : (spell a ++ (p.gap ++ p.token.text)).getLast?.any isBlank = false := by
    rw [← List.append_assoc, List.getLast?_append_of_ne_nil _ hne]
    exact (Token.noBlank hp).2
  rw [show spell (a ++ [p]) ++ g = (spell a ++ (p.gap ++ p.token.text)) ++ g by simp,
    trimEnd_append hg hblank]

/-- A sign at the end of the trimmed text in front of a word is the sign of the last piece. -/
theorem endsWithSign_of_trimEnd {a : List Piece} {g : Text} {c : Char} (h : IsSpelling a)
    (hg : Blanks g) (hc : c ∈ clauseSigns)
    (hlast : (trimEnd (spell a ++ g)).getLast? = some c) : EndsWithSign c a := by
  rcases List.eq_nil_or_concat' a with rfl | ⟨a, p, rfl⟩
  · have hnil : trimEnd ([] ++ g) = [] := trimEnd_append hg rfl
    rw [spell_nil, hnil] at hlast
    cases hlast
  · have hp := h.tokens p (by simp)
    rw [trimEnd_spell hp hg, ← List.append_assoc,
      List.getLast?_append_of_ne_nil _ (Token.text_ne_nil hp)] at hlast
    exact ⟨a, p.gap, by rw [← Token.eq_sign_of_last hp hc hlast]⟩

/-- The text behind a word, trimmed, starts with the token behind. -/
theorem trimStart_spell {b : List Piece} {p : Piece} (hp : p.token.IsLegal) (hgap : Blanks p.gap)
    (tail : Text) : trimStart (spell (p :: b) ++ tail) = p.token.text ++ (spell b ++ tail) := by
  have hblank : (p.token.text ++ (spell b ++ tail)).head?.any isBlank = false := by
    rw [List.head?_append_of_ne_nil _ (Token.text_ne_nil hp)]
    exact (Token.noBlank hp).1
  rw [spell_cons, List.append_assoc, List.append_assoc, trimStart_append hgap hblank]

/-- A sign at the start of the trimmed text behind a word is the sign of the first piece. -/
theorem startsWithSign_of_trimStart {b : List Piece} {c : Char} (h : IsSpelling b) (hne : b ≠ [])
    (hc : c ∈ clauseSigns) (hhead : (trimStart (spell b ++ tail)).head? = some c) :
    StartsWithSign c b := by
  obtain ⟨p, b, rfl⟩ := List.exists_cons_of_ne_nil hne
  have hp := h.tokens p (by simp)
  rw [trimStart_spell hp (h.gaps p (by simp)),
    List.head?_append_of_ne_nil _ (Token.text_ne_nil hp)] at hhead
  exact ⟨p.gap, b, by rw [← Token.eq_sign_of_head hp hc hhead]⟩

/-- Cutting a text off in front of its end keeps what it starts with, trimmed. -/
theorem head?_trimStart_append {text rest : Text} {c : Char}
    (h : (trimStart text).head? = some c) : (trimStart (text ++ rest)).head? = some c := by
  have hne : trimStart text ≠ [] := fun hnil => by simp [hnil] at h
  unfold trimStart at *
  rw [List.dropWhile_append, if_neg (by simpa using hne), List.head?_append_of_ne_nil _ hne]
  exact h

/-- **A site that is taken for a binding** is a word that is.  The text may be cut off behind the
    site, where a word `from` starts. -/
theorem isTaken_of_siteKind {site p : Passage} {a b : List Piece} {g w rest : Text}
    (h : siteKind site = .binding p) (hspells : IsSpelling (a ++ ⟨g, .word w⟩ :: b)) (hne : b ≠ [])
    (hbefore : site.before = spell a ++ g)
    (hafter : site.after ++ 'f' :: rest = spell b ++ tail) : IsTaken a b := by
  obtain ⟨hnoAs, hnoAs', hsigns⟩ := siteKind_signs h
  have ha : IsSpelling a := hspells.left
  have hb : IsSpelling b := by
    have hmid : IsSpelling ([⟨g, .word w⟩] ++ b) := hspells.right
    exact hmid.right
  have hg : Blanks g := hspells.gaps ⟨g, .word w⟩ (by simp)
  have hstarts : ∀ {c : Char}, c ∈ clauseSigns → (trimStart site.after).head? = some c →
      StartsWithSign c b := fun hc hhead =>
    startsWithSign_of_trimStart hb hne hc (hafter ▸ head?_trimStart_append hhead)
  have hends : ∀ {c : Char}, c ∈ clauseSigns → (trimEnd site.before).getLast? = some c →
      EndsWithSign c a := fun hc hlast => endsWithSign_of_trimEnd ha hg hc (hbefore ▸ hlast)
  refine ⟨?_, ?_, ?_⟩
  · rcases hsigns with hcomma | hcomma | ⟨hopen, hclose⟩
    · exact .inl (hstarts (by decide) hcomma)
    · exact .inr (.inl (hends (by decide) hcomma))
    · exact .inr (.inr ⟨hends (by decide) hopen, hstarts (by decide) hclose⟩)
  · rintro a' gap rfl hspace
    obtain ⟨gap, rfl⟩ := List.getLast?_eq_some_iff.mp hspace
    have htrim : trimEnd site.before = (spell a' ++ gap) ++ [' ', 'a', 's'] := by
      rw [hbefore, trimEnd_spell (ha.tokens _ (by simp)) hg]
      simp [Token.text, asWord]
    rw [htrim] at hnoAs
    simp [endsWith, List.isPrefixOf] at hnoAs
  · rintro gap ⟨gap', t⟩ b' rfl hspace
    have hgap : Blanks gap := hb.gaps ⟨gap, .word asWord⟩ (by simp)
    obtain ⟨c, gap', rfl⟩ := List.exists_cons_of_ne_nil (l := gap') (by rintro rfl; cases hspace)
    obtain rfl : c = ' ' := by simpa using hspace
    -- the word `from` does not start within the `as` and its blanks
    have hfree : 'f' ∉ gap ++ ['a', 's', ' '] := by
      simp [hgap.not_mem (show isIndent 'f' = false by decide)]
    have hsplit : site.after ++ 'f' :: rest =
        (gap ++ ['a', 's', ' ']) ++ (gap' ++ (t.text ++ (spell b' ++ tail))) := by
      rw [hafter]
      simp [Token.text, asWord]
    obtain ⟨more, hmore, -⟩ := exists_of_cut hfree hsplit
    refine hnoAs' ?_
    rw [hmore, List.append_assoc, trimStart_append hgap (by simp; decide)]
    exact List.prefix_append _ _

end RouteLocalizer.Import
