/-
  Where INSTALL CALLS start, when one of them is written or a construction is swapped.

  What is written changes no call that starts further left: such a call would have to run into a
  word that was changed, and it runs into no words but its own (`StartsCall.word`).  So the call
  that is written is the first of its symbol where none stood in front of its place, and it stays
  the first one when the construction is swapped, which stands in front of it, behind it, or within
  what it quotes (`construction_apart`).

  SPECIFICATION, for names that are words of their own:
  (1) `installCall_iff` — an install call from both sides: what it takes, and what takes it;
  (2) `StartsCall.word` — it does not run into a word behind it, unless that is one of its own;
  (3) `inherits_installCall` — so in front of another word it was there before;
  (4) `findInstallCall_replaceWith` — the call that is written in another's place is the first one;
  (5) `findInstallCall_swapConstruction` — and is so still when the construction is swapped.
-/
import Mathlib.Data.List.Chain
import RouteLocalizer.Proofs.RouterFile

namespace RouteLocalizer

namespace Script

open Text Import

/-! ## Texts that are cut -/

/-- Two ways to cut one text: the second cut stands behind the first, or in front of it. -/
theorem append_cases {w x y z : Text} (h : w ++ x = y ++ z) :
    (∃ u, y = w ++ u ∧ x = u ++ z) ∨ ∃ u, u ≠ [] ∧ w = y ++ u ∧ z = u ++ x := by
  rcases List.append_eq_append_iff.mp h with ⟨u, hy, hx⟩ | ⟨u, hw, hz⟩
  · exact .inl ⟨u, hy, hx⟩
  · by_cases hu : u = []
    · subst hu
      exact .inl ⟨[], by simp [hw], by simp [hz]⟩
    · exact .inr ⟨u, hu, hw, hz⟩

/-- A text that is cut where a word starts is cut behind its first word. -/
theorem split_word {word t w y : Text} (hword : ∀ c ∈ word, isWordChar c = true) (hw : w ≠ [])
    (hlast : w.getLast?.any isWordChar = false) (h : w ++ y = word ++ t) :
    ∃ w', w = word ++ w' ∧ w' ≠ [] ∧ w'.getLast?.any isWordChar = false ∧ w' ++ y = t := by
  have hnone : ∀ w, w ≠ [] → (∀ c ∈ w, isWordChar c = true) →
      w.getLast?.any isWordChar = true := by
    intro w hw hword
    obtain ⟨front, c, rfl⟩ := exists_concat hw
    simpa using hword c (by simp)
  rcases List.append_eq_append_iff.mp h with ⟨z, rfl, -⟩ | ⟨w', rfl, rfl⟩
  · have := hnone w hw fun c hc => hword c (by simp [hc])
    rw [hlast] at this
    cases this
  · refine ⟨w', rfl, ?_, any_getLast?_of_isSuffix (List.suffix_append word w') hlast, rfl⟩
    rintro rfl
    have := hnone (word ++ []) hw (by simpa using hword)
    rw [hlast] at this
    cases this

/-- A text that is cut where a word starts is cut behind the gap in front of its first word. -/
theorem split_gap {gap t w y : Text} (hgap : ∀ c ∈ gap, isWordChar c = false)
    (hy : y.head?.any isWordChar = true) (h : w ++ y = gap ++ t) :
    ∃ w', w = gap ++ w' ∧ w' ++ y = t := by
  have hend : y.head?.any (!isWordChar ·) = false := by
    cases y with
    | nil => rfl
    | cons c y => simpa using hy
  obtain ⟨w', rfl, rfl⟩ := exists_of_end (fun c hc => by simp [hgap c hc]) hend h
  exact ⟨w', rfl, rfl⟩

variable {host symbol : Text} {last : Option Char} {text rest : Text}

/-! ## Install calls, word by word -/

/-- A text that starts with an install call, taken apart into its words and what is between
    them. -/
def StartsCall (host symbol text rest : Text) : Prop :=
  ∃ gap₁ gap₂ gap₃ inner, text = host ++ ((gap₁ ++ '.' :: gap₂) ++ (['u', 's', 'e'] ++
      ('(' :: gap₃ ++ (symbol ++ (inner ++ ')' :: rest))))) ∧
    (∀ c ∈ gap₁, isBlank c = true) ∧ (∀ c ∈ gap₂, isBlank c = true) ∧
    (∀ c ∈ gap₃, isBlank c = true) ∧ ')' ∉ inner ∧ inner.head?.any isWordChar = false

/-- What stands behind a symbol starts with no word character where a boundary is asked for. -/
theorem boundary_behind {name : Text} (h : IsName name) (last : Option Char) (text : Text) :
    isBoundary (Shape.behind last name) text = !text.head?.any isWordChar := by
  obtain ⟨front, c, rfl⟩ := exists_concat h.nonempty
  have hc : isWordChar c = true := h.word c (by simp)
  rw [Shape.behind_concat]
  cases hhead : text.head?.any isWordChar <;> simp [isBoundary, hc, hhead]

/-- What stands in front of a symbol ends with no word character where a boundary is asked for. -/
theorem boundary_front {name : Text} (h : IsName name) (last : Option Char) (text : Text) :
    isBoundary last (name ++ text) = !last.any isWordChar := by
  obtain ⟨c, name, rfl⟩ := List.exists_cons_of_ne_nil h.nonempty
  have hc : isWordChar c = true := h.word c (by simp)
  cases hlast : last.any isWordChar <;> simp [isBoundary, hc, hlast]

/-- What an install call is, whatever its two names are made of. -/
theorem installCall_eq_some_iff (hsymbol : ∃ c ∈ symbol.head?, isBlank c = false) :
    installCall host symbol last text = some rest ↔ isBoundary last text = true ∧
      ∃ gap₁ gap₂ gap₃ inner, text = host ++ ((gap₁ ++ '.' :: gap₂) ++ (['u', 's', 'e'] ++
          ('(' :: gap₃ ++ (symbol ++ (inner ++ ')' :: rest))))) ∧
        (∀ c ∈ gap₁, isBlank c = true) ∧ (∀ c ∈ gap₂, isBlank c = true) ∧
        (∀ c ∈ gap₃, isBlank c = true) ∧ ')' ∉ inner ∧
        isBoundary symbol.getLast? (inner ++ ')' :: rest) = true := by
  obtain ⟨s₀, hs₀, hblank₀⟩ := hsymbol
  obtain ⟨symbol, rfl⟩ := List.head?_eq_some_iff.mp hs₀
  have hbehind : ∀ earlier, Shape.behind earlier (s₀ :: symbol) = (s₀ :: symbol).getLast? := by
    simp [Shape.behind, List.getLast?_cons]
  constructor
  · intro h
    obtain ⟨gap₁, gap₂, gap₃, inner, rfl, hblank₁, hblank₂, hblank₃, hopen, hleft, _, hright⟩ :=
      installCall_eq_some h
    rw [hbehind] at hright
    exact ⟨hleft, gap₁, gap₂, gap₃, inner, by simp, hblank₁, hblank₂, hblank₃, hopen, hright⟩
  · rintro ⟨hleft, gap₁, gap₂, gap₃, inner, rfl, hblank₁, hblank₂, hblank₃, hopen, hright⟩
    refine Shape.boundary_eq_some.mpr ⟨hleft, ?_⟩
    have hsplit : ∀ t : Text, (gap₁ ++ '.' :: gap₂) ++ (['u', 's', 'e'] ++ ('(' :: gap₃ ++ t)) =
        gap₁ ++ ('.' :: (gap₂ ++ (['u', 's', 'e', '('] ++ (gap₃ ++ t)))) := by simp
    rw [hsplit, Shape.literal_append,
      Shape.run_append (Shape.excludes_literal (by decide) _) hblank₁ _ (by simp; decide),
      Shape.literal_singleton,
      Shape.run_append (Shape.excludes_literal (by decide) _) hblank₂ _ (by simp; decide),
      Shape.literal_append, Shape.run_append (Shape.excludes_literal hblank₀ _) hblank₃ _
        (by simp [hblank₀]), Shape.literal_append, hbehind]
    refine Shape.boundary_eq_some.mpr ⟨hright, ?_⟩
    rw [Shape.run_append (Shape.excludes_literal (by decide) _)
      (fun c hc => by simpa using fun heq : c = ')' => hopen (heq ▸ hc)) _ (by simp),
      Shape.literal_singleton]
    rfl

/-- **An install call, from both sides**: what it takes, and that all of this is one. -/
theorem installCall_iff (hhost : IsName host) (hsymbol : IsName symbol) :
    installCall host symbol last text = some rest ↔
      last.any isWordChar = false ∧ StartsCall host symbol text rest := by
  have hright : ∀ inner : Text, isBoundary symbol.getLast? (inner ++ ')' :: rest) = true ↔
      inner.head?.any isWordChar = false := by
    intro inner
    have hlast : Shape.behind none symbol = symbol.getLast? := by simp [Shape.behind]
    rw [← hlast, boundary_behind hsymbol]
    cases inner with
    | nil => simp [show isWordChar ')' = false by decide]
    | cons c inner => simp
  rw [installCall_eq_some_iff (exists_head_of_isIdentifier hsymbol.isIdentifier)]
  constructor
  · rintro ⟨hleft, gap₁, gap₂, gap₃, inner, rfl, hblank₁, hblank₂, hblank₃, hopen, hinner⟩
    rw [boundary_front hhost] at hleft
    exact ⟨by simpa using hleft, gap₁, gap₂, gap₃, inner, rfl, hblank₁, hblank₂, hblank₃, hopen,
      (hright inner).mp hinner⟩
  · rintro ⟨hlast, gap₁, gap₂, gap₃, inner, rfl, hblank₁, hblank₂, hblank₃, hopen, hinner⟩
    exact ⟨by rw [boundary_front hhost, hlast]; rfl, gap₁, gap₂, gap₃, inner, rfl, hblank₁,
      hblank₂, hblank₃, hopen, (hright inner).mpr hinner⟩

/-- Where a call's symbol ends and a parenthesis is closed further on, there is a call. -/
theorem startsCall_of_mem {gap₁ gap₂ gap₃ t : Text} (hblank₁ : ∀ c ∈ gap₁, isBlank c = true)
    (hblank₂ : ∀ c ∈ gap₂, isBlank c = true) (hblank₃ : ∀ c ∈ gap₃, isBlank c = true)
    (ht : t.head?.any isWordChar = false) (hclose : ')' ∈ t) :
    ∃ rest, StartsCall host symbol (host ++ ((gap₁ ++ '.' :: gap₂) ++ (['u', 's', 'e'] ++
      ('(' :: gap₃ ++ (symbol ++ t))))) rest := by
  obtain ⟨inner, rest, rfl, hopen⟩ := List.eq_append_cons_of_mem hclose
  refine ⟨rest, gap₁, gap₂, gap₃, inner, rfl, hblank₁, hblank₂, hblank₃, hopen, ?_⟩
  cases inner with
  | nil => rfl
  | cons c inner => exact ht

/-- **An install call does not run into a word** behind it, unless that is one of its own: where the
    text is cut at the start of another word, the call can stay when the text behind changes. -/
theorem StartsCall.word {w y : Text} (hhost : IsName host) (hsymbol : IsName symbol)
    (h : StartsCall host symbol (w ++ y) rest) (hw : w ≠ [])
    (hlast : w.getLast?.any isWordChar = false) (hy : y.head?.any isWordChar = true) :
    (∃ t, y = ['u', 's', 'e'] ++ '(' :: t) ∨
      (∃ t, y = symbol ++ t ∧ t.head?.any isWordChar = false ∧ ')' ∈ t ∧
        ∀ t', t'.head?.any isWordChar = false → ')' ∈ t' →
          ∃ rest', StartsCall host symbol (w ++ (symbol ++ t')) rest') ∨
      ∀ y', (')' ∈ y → ')' ∈ y') → ∃ rest', StartsCall host symbol (w ++ y') rest' := by
  obtain ⟨gap₁, gap₂, gap₃, inner, htext, hblank₁, hblank₂, hblank₃, hopen, hinner⟩ := h
  have hhead : (inner ++ ')' :: rest).head?.any isWordChar = false := by
    cases inner with
    | nil => exact (show isWordChar ')' = false by decide)
    | cons c inner => exact hinner
  obtain ⟨w₁, rfl, -, hlast₁, htext₁⟩ := split_word hhost.word hw hlast htext
  obtain ⟨w₂, rfl, htext₂⟩ := split_gap (by
    intro c hc
    rcases List.mem_append.mp hc with hc | hc
    · exact isWordChar_of_isBlank (hblank₁ c hc)
    · rcases List.mem_cons.mp hc with rfl | hc
      · decide
      · exact isWordChar_of_isBlank (hblank₂ c hc)) hy htext₁
  by_cases hw₂ : w₂ = []
  · subst hw₂
    exact .inl ⟨gap₃ ++ (symbol ++ (inner ++ ')' :: rest)), by simpa using htext₂⟩
  have hlast₂ := any_getLast?_of_isSuffix (List.suffix_append _ w₂) hlast₁
  have huse : ∀ c ∈ ['u', 's', 'e'], isWordChar c = true := by decide
  obtain ⟨w₃, rfl, -, hlast₃, htext₃⟩ := split_word huse hw₂ hlast₂ htext₂
  obtain ⟨w₄, rfl, htext₄⟩ := split_gap (by
    intro c hc
    rcases List.mem_cons.mp hc with rfl | hc
    · decide
    · exact isWordChar_of_isBlank (hblank₃ c hc)) hy htext₃
  by_cases hw₄ : w₄ = []
  · -- the cut stands in front of the call's symbol
    subst hw₄
    refine .inr (.inl ⟨inner ++ ')' :: rest, by simpa using htext₄, hhead, by simp, ?_⟩)
    intro t' ht' hclose
    simpa using startsCall_of_mem hblank₁ hblank₂ hblank₃ ht' hclose
  have hlast₄ := any_getLast?_of_isSuffix (List.suffix_append _ w₄) hlast₃
  obtain ⟨w₅, rfl, hw₅, -, htext₅⟩ := split_word hsymbol.word hw₄ hlast₄ htext₄
  -- the call's symbol stands in front of the cut
  refine .inr (.inr fun y' hy' => ?_)
  have hclose : ')' ∈ w₅ ++ y' := by
    have hold : ')' ∈ w₅ ++ y := by simp [htext₅]
    rcases List.mem_append.mp hold with hmem | hmem
    · simp [hmem]
    · simp [hy' hmem]
  have hhead' : (w₅ ++ y').head?.any isWordChar = false := by
    obtain ⟨d, w₅, rfl⟩ := List.exists_cons_of_ne_nil hw₅
    simpa [← htext₅] using hhead
  simpa using startsCall_of_mem hblank₁ hblank₂ hblank₃ hhead' hclose

/-! ## Places where no install call starts -/

/-- What stands in front of a place matters only by whether it is a word character. -/
theorem installCall_congr (hhost : IsName host) (hsymbol : IsName symbol)
    {last last' : Option Char} (h : last.any isWordChar = last'.any isWordChar) (text : Text) :
    installCall host symbol last text = installCall host symbol last' text :=
  Option.ext fun rest => by
    simp only [installCall_iff hhost hsymbol, h]

theorem firstFrom_installCall_congr (hhost : IsName host) (hsymbol : IsName symbol)
    {last last' : Option Char} (h : last.any isWordChar = last'.any isWordChar) (text : Text) :
    Shape.firstFrom (installCall host symbol) last text =
      Shape.firstFrom (installCall host symbol) last' text := by
  cases text with
  | nil => simp only [Shape.firstFrom, installCall_congr hhost hsymbol h]
  | cons c cs => simp only [Shape.firstFrom, installCall_congr hhost hsymbol h]

/-- An install call starts with its host's word. -/
theorem StartsCall.host_eq {word t : Text} (hhost : IsName host)
    (h : StartsCall host symbol (word ++ t) rest) (hword : ∀ c ∈ word, isWordChar c = true)
    (ht : t.head?.any isWordChar = false) : word = host := by
  obtain ⟨gap₁, gap₂, gap₃, inner, htext, hblank₁, -⟩ := h
  refine word_unique htext hword hhost.word ht ?_
  cases gap₁ with
  | nil => exact (show isWordChar '.' = false by decide)
  | cons c gap₁ => simpa using isWordChar_of_isBlank (hblank₁ c (by simp))

/-- What stands behind the host of an install call is white space and a dot. -/
theorem StartsCall.dot {gap t : Text} (h : StartsCall host symbol (host ++ (gap ++ t)) rest)
    (hgap : ∀ c ∈ gap, isBlank c = true) (ht : t.head?.any isBlank = false) :
    t.head? = some '.' := by
  obtain ⟨gap₁, gap₂, gap₃, inner, htext, hblank₁, -⟩ := h
  have hrest : gap ++ t = gap₁ ++ ('.' :: (gap₂ ++ (['u', 's', 'e'] ++
      ('(' :: gap₃ ++ (symbol ++ (inner ++ ')' :: rest)))))) := by
    simpa using List.append_cancel_left htext
  obtain rfl := word_unique hrest hgap hblank₁ ht rfl
  rw [List.append_cancel_left hrest]
  rfl

/-- A shape that starts where a word starts is not found within a word. -/
theorem noneIn_of_word {shape : Shape}
    (hleft : ∀ ⦃last text rest⦄, shape last text = some rest → last.any isWordChar = false)
    {word t : Text} (hword : ∀ c ∈ word, isWordChar c = true)
    (hstart : shape last (word ++ t) = none) : Shape.NoneIn shape last word t := by
  rintro u c v rfl
  by_contra hfound
  obtain ⟨rest, hfound⟩ := Option.ne_none_iff_exists'.mp hfound
  by_cases hu : u = []
  · subst hu
    cases hstart.symm.trans hfound
  · obtain ⟨front, d, rfl⟩ := exists_concat hu
    have hlast := hleft hfound
    rw [Shape.behind_concat] at hlast
    simp [hword d (by simp)] at hlast

/-- No install call starts in a word but at its first character. -/
theorem noneIn_word (hhost : IsName host) (hsymbol : IsName symbol) {word t : Text}
    (hword : ∀ c ∈ word, isWordChar c = true)
    (hstart : ∀ rest, ¬ StartsCall host symbol (word ++ t) rest) :
    Shape.NoneIn (installCall host symbol) last word t :=
  noneIn_of_word (fun _ _ _ h => ((installCall_iff hhost hsymbol).mp h).1) hword
    (Option.eq_none_iff_forall_not_mem.mpr fun rest h =>
      hstart rest ((installCall_iff hhost hsymbol).mp h).2)

/-- No install call starts at a character between words. -/
theorem noneIn_gap (hhost : IsName host) (hsymbol : IsName symbol) {c : Char} {t : Text}
    (hc : isWordChar c = false) : Shape.NoneIn (installCall host symbol) last [c] t := by
  refine .singleton (Option.eq_none_iff_forall_not_mem.mpr fun rest h => ?_)
  obtain ⟨-, _, _, _, _, htext, -⟩ := (installCall_iff hhost hsymbol).mp h
  obtain ⟨e, host, rfl⟩ := List.exists_cons_of_ne_nil hhost.nonempty
  obtain ⟨rfl, -⟩ := List.cons.inj htext
  simp [hhost.word c (by simp)] at hc

/-- **An install call in front of a word** was there in front of another text too, unless it runs
    into the word: where that is its symbol, the other text has to start with the symbol as well. -/
theorem inherits_installCall (hhost : IsName host) (hsymbol : IsName symbol)
    {front y word t : Text} (hfront : front.getLast?.any isWordChar = false)
    (hword : ∀ c ∈ word, isWordChar c = true) (hne : word ≠ [])
    (ht : t.head?.any isWordChar = false) (hopen : t.head? ≠ some '(')
    (hother : word = symbol → ')' ∈ t →
      ∃ t', y = symbol ++ t' ∧ t'.head?.any isWordChar = false ∧ ')' ∈ t')
    (closes : ')' ∈ word ++ t → ')' ∈ y) :
    Shape.Inherits (installCall host symbol) last front (word ++ t) y := by
  intro u c v huv hcall
  obtain ⟨rest, hcall⟩ := Option.isSome_iff_exists.mp hcall
  obtain ⟨hlast, hcall⟩ := (installCall_iff hhost hsymbol).mp hcall
  have hlater : (c :: v).getLast?.any isWordChar = false :=
    any_getLast?_of_isSuffix ⟨u, huv.symm⟩ hfront
  have hhead : (word ++ t).head?.any isWordChar = true := by
    obtain ⟨d, word, rfl⟩ := List.exists_cons_of_ne_nil hne
    simpa using hword d (by simp)
  suffices hold : ∃ rest', StartsCall host symbol (c :: v ++ y) rest' by
    obtain ⟨rest', hold⟩ := hold
    exact Option.isSome_iff_exists.mpr ⟨rest', (installCall_iff hhost hsymbol).mpr ⟨hlast, hold⟩⟩
  rcases hcall.word hhost hsymbol (by simp) hlater hhead with
    ⟨t', huse⟩ | ⟨t', hname, ht', hclose, hstays⟩ | hstays
  · obtain rfl := word_unique huse hword (by decide) ht
      (show isWordChar '(' = false by decide)
    rw [List.append_cancel_left huse] at hopen
    exact absurd rfl hopen
  · obtain rfl := word_unique hname hword hsymbol.word ht ht'
    obtain rfl := List.append_cancel_left hname
    obtain ⟨t', rfl, ht', hclose'⟩ := hother rfl hclose
    exact hstays t' ht' hclose'
  · exact hstays y closes

/-- **No install call starts in front of a word** where none started in front of another text that
    stood there. -/
theorem noneIn_before (hhost : IsName host) (hsymbol : IsName symbol) {front y word t : Text}
    (h : Shape.NoneIn (installCall host symbol) last front y)
    (hfront : front.getLast?.any isWordChar = false) (hword : ∀ c ∈ word, isWordChar c = true)
    (hne : word ≠ []) (hother : word ≠ symbol) (ht : t.head?.any isWordChar = false)
    (hopen : t.head? ≠ some '(') (closes : ')' ∈ word ++ t → ')' ∈ y) :
    Shape.NoneIn (installCall host symbol) last front (word ++ t) :=
  (inherits_installCall hhost hsymbol hfront hword hne ht hopen
    (fun heq _ => absurd heq hother) closes).noneIn h

/-- What the search for an install call finds. -/
theorem findInstallCall_eq_some (hhost : IsName host) (hsymbol : IsName symbol) {p : Passage}
    (hp : findInstallCall host symbol text = some p) :
    text = p.before ++ (p.body ++ p.after) ∧ p.before.getLast?.any isWordChar = false ∧
      StartsCall host symbol (p.body ++ p.after) p.after ∧
      Shape.NoneIn (installCall host symbol) none p.before (p.body ++ p.after) := by
  obtain ⟨hwhole, hfits, hearlier⟩ := Shape.firstFrom_eq_some (installCall_reads host symbol) hp
  obtain ⟨hlast, starts⟩ := (installCall_iff hhost hsymbol).mp hfits
  exact ⟨hwhole, by simpa [Shape.behind] using hlast, starts, hearlier⟩

/-- An install call starts with its host's word and ends with its parenthesis. -/
theorem StartsCall.body_eq {body after : Text} (h : StartsCall host symbol (body ++ after) after) :
    ∃ c t, body = host ++ c :: (t ++ [')']) ∧ isWordChar c = false := by
  obtain ⟨gap₁, gap₂, gap₃, inner, htext, hblank₁, -⟩ := h
  have hbody : body = host ++ (gap₁ ++ '.' :: (gap₂ ++ (['u', 's', 'e'] ++
      ('(' :: gap₃ ++ (symbol ++ (inner ++ [')'])))))) :=
    (List.append_left_inj after).mp (by rw [htext]; simp)
  cases gap₁ with
  | nil => exact ⟨'.', gap₂ ++ (['u', 's', 'e'] ++ ('(' :: gap₃ ++ (symbol ++ inner))),
      by simp [hbody], by decide⟩
  | cons c gap₁ => exact ⟨c, gap₁ ++ '.' :: (gap₂ ++ (['u', 's', 'e'] ++
      ('(' :: gap₃ ++ (symbol ++ inner)))), by simp [hbody],
      isWordChar_of_isBlank (hblank₁ c (by simp))⟩

/-! ## The construction does not matter -/

/-- No install call starts in a construction of another name than its host. -/
theorem noneIn_construction (hhost : IsName host) (hsymbol : IsName symbol) {name after : Text}
    (hname : IsName name) (hne : name ≠ host) (hafter : after.head?.any isWordChar = false) :
    Shape.NoneIn (installCall host symbol) last (['n', 'e', 'w'] ++ ([' '] ++ name)) after := by
  have hblank : isWordChar ' ' = false := by decide
  refine .append (noneIn_word hhost hsymbol isWordChar_of_mem_new fun rest starts => ?_)
    (.append (noneIn_gap hhost hsymbol hblank)
      (noneIn_word hhost hsymbol hname.word fun rest starts =>
        hne (starts.host_eq hhost hname.word hafter)))
  -- where the host is `new`, its dot is missing
  obtain rfl := starts.host_eq hhost isWordChar_of_mem_new hblank
  obtain ⟨c, name, rfl⟩ := List.exists_cons_of_ne_nil hname.nonempty
  rw [List.append_assoc] at starts
  have hdot := starts.dot (by decide) (by simpa using hname.noBlank c (by simp))
  obtain rfl : c = '.' := by simpa using hdot
  exact absurd (hname.word '.' (by simp)) (by decide)

/-- No install call starts at a construction that was swapped, where none started before. -/
theorem noneIn_constructed {w : Wiring} {before gap after : Text} (hhost : IsSymbol w.host)
    (hto : IsSymbol w.toSymbol) (hne : w.host ≠ w.toSymbol)
    (hbefore : before.getLast?.any isWordChar = false) (hafter : after.head?.any isWordChar = false)
    (h : Shape.NoneIn (installCall w.host w.toSymbol) none before
      (['n', 'e', 'w'] ++ (gap ++ (w.fromSymbol ++ after)))) :
    Shape.NoneIn (installCall w.host w.toSymbol) none (before ++ ("new " ++ w.toSymbol)) after := by
  have hnew : ("new ".toList : Text) = ['n', 'e', 'w'] ++ [' '] := by decide
  rw [hnew, List.append_assoc]
  refine .append ?_ (noneIn_construction hhost.isName hto.isName hto.isName hne.symm hafter)
  rw [List.append_assoc, List.append_assoc]
  refine noneIn_before hhost.isName hto.isName h hbefore (by decide) (by simp) ?_
    (show isWordChar ' ' = false by decide) (by simp) fun hmem => ?_
  · exact fun heq => hto.free (by simp [← heq, reservedWords])
  · have hplain : ')' ∉ w.toSymbol := hto.not_mem_signs _ (by decide)
    have hlater : ')' ∈ after := by simpa [hplain] using hmem
    simp [hlater]

variable {w : Wiring}

/-- Behind a symbol, the last character read is one of a word. -/
theorem any_behind {name : Text} (h : IsName name) (last : Option Char) (front : Text) :
    (Shape.behind last (front ++ name)).any isWordChar = true := by
  obtain ⟨name, c, rfl⟩ := exists_concat h.nonempty
  rw [← List.append_assoc, Shape.behind_concat]
  exact h.word c (by simp)

/-- **Swapping the construction leaves the first install call**, where that starts behind it. -/
theorem findInstallCall_constructed (hhost : IsSymbol w.host) (hfrom : IsSymbol w.fromSymbol)
    (hto : IsSymbol w.toSymbol) (hne : w.host ≠ w.toSymbol) {q : Passage} {text : Text}
    (hq : findConstruction w.fromSymbol text = some q)
    (h : Shape.NoneIn (installCall w.host w.toSymbol) none (q.before ++ q.body) q.after) :
    (findInstallCall w.host w.toSymbol (q.replaceWith ("new " ++ w.toSymbol))).map Passage.body =
      (findInstallCall w.host w.toSymbol text).map Passage.body := by
  obtain ⟨hwhole, hbefore, ⟨gap, hbody, -⟩, hright⟩ := findConstruction_eq_some hfrom.isName hq
  have hold : Shape.NoneIn (installCall w.host w.toSymbol) none q.before
      (['n', 'e', 'w'] ++ (gap ++ (w.fromSymbol ++ q.after))) := by
    simpa [hbody] using h.left
  have hnew := noneIn_constructed hhost hto hne hbefore hright hold
  have hlast : (Shape.behind none (q.before ++ q.body)).any isWordChar =
      (Shape.behind none (q.before ++ ("new " ++ w.toSymbol))).any isWordChar := by
    have hsplit : q.before ++ q.body = (q.before ++ (['n', 'e', 'w'] ++ gap)) ++ w.fromSymbol := by
      simp [hbody]
    rw [hsplit, any_behind hfrom.isName, ← List.append_assoc, any_behind hto.isName]
  have hbodies : ∀ (front : Text) (found : Option Passage),
      (found.map (·.behind front)).map Passage.body = found.map Passage.body := by
    intro front found
    rw [Option.map_map]
    rfl
  rw [hwhole, ← List.append_assoc, Passage.replaceWith, findInstallCall, findInstallCall,
    Shape.firstOf, Shape.firstOf, Shape.firstFrom_append h, Shape.firstFrom_append hnew, hbodies,
    hbodies, firstFrom_installCall_congr hhost.isName hto.isName hlast]

/-! ## The install call that is written -/

/-- The install call of a symbol with what stands behind the symbol. -/
def installed (host symbol inner : Text) : Text :=
  host ++ ('.' :: (['u', 's', 'e'] ++ ('(' :: (symbol ++ (inner ++ [')'])))))

theorem installed_eq (host symbol inner : Text) :
    installed host symbol inner = host ++ ".use(" ++ symbol ++ inner ++ ")" := by
  have huse : (".use(" : Text) = '.' :: (['u', 's', 'e'] ++ ['(']) ∧ (")" : Text) = [')'] := by
    decide
  rw [huse.1, huse.2]
  simp [installed]

theorem startsCall_installed {inner : Text} (hopen : ')' ∉ inner)
    (hinner : inner.head?.any isWordChar = false) (after : Text) :
    StartsCall host symbol (installed host symbol inner ++ after) after :=
  ⟨[], [], [], inner, by simp [installed], by simp, by simp, by simp, hopen, hinner⟩

theorem installCall_stopsAt (hhost : IsName host) (hsymbol : IsName symbol) :
    (installCall host symbol).StopsAt ')' := by
  intro last text rest h
  obtain ⟨hlast, gap₁, gap₂, gap₃, inner, rfl, hblank₁, hblank₂, hblank₃, hopen, hinner⟩ :=
    (installCall_iff hhost hsymbol).mp h
  have hblank : ∀ {gap : Text}, (∀ c ∈ gap, isBlank c = true) → ')' ∉ gap :=
    fun hgap hmem => absurd (hgap _ hmem) (by decide)
  refine ⟨host ++ ((gap₁ ++ '.' :: gap₂) ++ (['u', 's', 'e'] ++ ('(' :: gap₃ ++
    (symbol ++ inner)))), by simp, ?_, fun rest' => ?_⟩
  · simp [hblank hblank₁, hblank hblank₂, hblank hblank₃, hopen,
      hhost.not_mem_signs ')' (by decide), hsymbol.not_mem_signs ')' (by decide)]
  · exact (installCall_iff hhost hsymbol).mpr ⟨hlast, gap₁, gap₂, gap₃, inner, by simp, hblank₁,
      hblank₂, hblank₃, hopen, hinner⟩

/-- A call that is written where none started in front of another text is the first one. -/
theorem findInstallCall_installed (hhost : IsSymbol host) (hsymbol : IsSymbol symbol)
    (hne : host ≠ symbol) {inner before y : Text} (hopen : ')' ∉ inner)
    (hinner : inner.head?.any isWordChar = false) (hbefore : before.getLast?.any isWordChar = false)
    (hnone : Shape.NoneIn (installCall host symbol) none before y) (hclose : ')' ∈ y)
    (after : Text) :
    findInstallCall host symbol (before ++ (installed host symbol inner ++ after)) =
      some ⟨before, installed host symbol inner, after⟩ := by
  refine Shape.firstFrom_of_fits ((installCall_iff hhost.isName hsymbol.isName).mpr
    ⟨by simpa [Shape.behind] using hbefore, startsCall_installed hopen hinner _⟩) ?_
  have hdot : isWordChar '.' = false := by decide
  have hnew := noneIn_before
    (t := '.' :: (['u', 's', 'e'] ++ ('(' :: (symbol ++ (inner ++ [')'])))) ++ after)
    hhost.isName hsymbol.isName hnone hbefore hhost.word hhost.nonempty hne hdot (by simp)
    fun _ => hclose
  rw [← List.append_assoc] at hnew
  exact hnew

/-- No install call of the symbol stands in front of the first one of the other symbol: there is
    none, or the other's starts no later. -/
def StartsNoCallBefore (host other symbol text : Text) : Prop :=
  ∀ call ∈ findInstallCall host symbol text, ∃ p ∈ findInstallCall host other text,
    p.before.length ≤ call.before.length

instance (host other symbol text : Text) : Decidable (StartsNoCallBefore host other symbol text) :=
  inferInstanceAs (Decidable (∀ call ∈ findInstallCall host symbol text,
    ∃ p ∈ findInstallCall host other text, p.before.length ≤ call.before.length))

theorem StartsNoCallBefore.noneIn {other : Text} (h : StartsNoCallBefore host other symbol text)
    {p : Passage} (hp : findInstallCall host other text = some p) :
    Shape.NoneIn (installCall host symbol) none p.before (p.body ++ p.after) := by
  obtain ⟨htext, -, -⟩ := Shape.firstFrom_eq_some (installCall_reads host other) hp
  cases hcall : findInstallCall host symbol text with
  | none =>
    intro u c v huv
    exact Shape.firstFrom_eq_none hcall u _ (by rw [htext, huv]; simp)
  | some call =>
    obtain ⟨p', hp', hle⟩ := h call hcall
    obtain rfl : p = p' := Option.some.inj (hp.symm.trans hp')
    obtain ⟨hwhole, -, hearlier⟩ := Shape.firstFrom_eq_some (installCall_reads host symbol) hcall
    obtain ⟨z, hz⟩ : p.before <+: call.before := List.prefix_of_prefix_length_le
      ⟨_, htext.symm⟩ ⟨_, hwhole.symm⟩ hle
    have hrest : p.body ++ p.after = z ++ (call.body ++ call.after) := by
      rw [hwhole, ← hz, List.append_assoc] at htext
      exact (List.append_cancel_left htext).symm
    rw [hrest]
    exact Shape.NoneIn.left (by rwa [hz])

/-- **The call that replaces another symbol's is the first one**, where none stood in front of
    that. -/
theorem findInstallCall_replaceWith (hhost : IsSymbol host) {other : Text} (hother : IsSymbol other)
    (hsymbol : IsSymbol symbol) (hne : host ≠ symbol) {p : Passage}
    (hp : findInstallCall host other text = some p)
    (hnone : StartsNoCallBefore host other symbol text) {inner : Text} (hopen : ')' ∉ inner)
    (hinner : inner.head?.any isWordChar = false) :
    findInstallCall host symbol (p.before ++ (installed host symbol inner ++ p.after)) =
      some ⟨p.before, installed host symbol inner, p.after⟩ := by
  obtain ⟨-, hfits, -⟩ := Shape.firstFrom_eq_some (installCall_reads host other) hp
  obtain ⟨hlast, gap₁, gap₂, gap₃, inner, hcall, -⟩ :=
    (installCall_iff hhost.isName hother.isName).mp hfits
  exact findInstallCall_installed hhost hsymbol hne hopen hinner
    (by simpa [Shape.behind] using hlast) (hnone.noneIn hp) (by simp [hcall]) _

/-- A text in which no `w` stands in front of white space; so no `new` of a construction does. -/
def Unspaced (text : Text) : Prop := text.IsChain fun c d => c = 'w' → isBlank d = false

theorem Unspaced.suffix {tail : Text} (h : Unspaced text) (htail : tail <:+ text) :
    Unspaced tail := List.IsChain.suffix h htail

theorem unspaced_append {front text : Text} (hfront : Unspaced front) (htext : Unspaced text)
    (h : ∀ c ∈ text.head?, isBlank c = false) : Unspaced (front ++ text) :=
  List.isChain_append.mpr ⟨hfront, htext, fun _ _ d hd _ => h d hd⟩

theorem unspaced_of_noBlank (h : ∀ c ∈ text, isBlank c = false) : Unspaced text :=
  List.Pairwise.isChain (List.pairwise_of_forall_mem_list fun _ _ d hd _ => h d hd)

/-- A construction does not start within such a text, where that does not end in a word. -/
theorem Unspaced.no_construction {tail : Text} (h : Unspaced tail) (hne : tail ≠ [])
    (hlast : tail.getLast?.any isWordChar = false) {gap rest more : Text} (hgap : gap ≠ [])
    (hblank : ∀ c ∈ gap, isBlank c = true) :
    tail ++ rest ≠ ['n', 'e', 'w'] ++ (gap ++ more) := by
  intro heq
  obtain ⟨tail, rfl, htail, -, hcut⟩ := split_word isWordChar_of_mem_new hne hlast heq
  obtain ⟨g, gap, rfl⟩ := List.exists_cons_of_ne_nil hgap
  obtain ⟨c, tail, rfl⟩ := List.exists_cons_of_ne_nil htail
  obtain ⟨rfl, -⟩ := List.cons.inj hcut
  have := (List.isChain_cons_cons.mp (h.suffix (List.suffix_append ['n', 'e'] _))).1 rfl
  rw [hblank c (by simp)] at this
  cases this

/-- A construction that runs into an install call has the call's host for its symbol. -/
theorem construction_cut {name gap z y t rest : Text} (hhost : IsName host) (hname : IsName name)
    (hblank : ∀ c ∈ gap, isBlank c = true) (hz : z ≠ []) (hy : y ≠ [])
    (hlast : z.getLast?.any isWordChar = false) (hright : rest.head?.any isWordChar = false)
    (h : ['n', 'e', 'w'] ++ (gap ++ name) = z ++ y) (hcall : host ++ '.' :: t = y ++ rest) :
    host = name := by
  have hhead : y.head?.any isWordChar = true := by
    obtain ⟨c, host, rfl⟩ := List.exists_cons_of_ne_nil hhost.nonempty
    obtain ⟨d, y, rfl⟩ := List.exists_cons_of_ne_nil hy
    obtain ⟨rfl, -⟩ := List.cons.inj hcall
    exact hhost.word c (by simp)
  obtain ⟨z₁, rfl, -, hlast₁, hcut₁⟩ := split_word isWordChar_of_mem_new hz hlast h.symm
  obtain ⟨z₂, rfl, hcut₂⟩ :=
    split_gap (fun c hc => isWordChar_of_isBlank (hblank c hc)) hhead hcut₁
  by_cases hz₂ : z₂ = []
  · subst hz₂
    obtain rfl : y = name := hcut₂
    have hdot : isWordChar '.' = false := by decide
    exact word_unique hcall hhost.word hname.word hdot hright
  · obtain ⟨z₃, -, hz₃, -, hcut₃⟩ := split_word (t := []) hname.word hz₂
      (any_getLast?_of_isSuffix (List.suffix_append gap z₂) hlast₁) (by simpa using hcut₂)
    exact absurd (List.append_eq_nil_iff.mp hcut₃).1 hz₃

/-- No quote stands in a construction. -/
theorem quote_not_mem {name gap : Text} (hname : IsSymbol name)
    (hblank : ∀ c ∈ gap, isBlank c = true) : '\'' ∉ ['n', 'e', 'w'] ++ (gap ++ name) := by
  intro hmem
  rcases List.mem_append.mp hmem with hmem | hmem
  · exact absurd hmem (by decide)
  · rcases List.mem_append.mp hmem with hmem | hmem
    · exact absurd (hblank _ hmem) (by decide)
    · exact absurd hmem (hname.not_mem_signs _ (by decide))

/-- What an install call holds around a quoted text: nothing that closes the call or starts a
    construction. -/
structure Encloses (front back : Text) : Prop where
  closes : ')' ∉ front ∧ ')' ∉ back
  unspaced : Unspaced front ∧ Unspaced back
  starts : front.head? = some ','
  quoted : front.getLast? = some '\'' ∧ back.head? = some '\''

variable {front language back before after : Text}

/-- An install call up to its symbol and what is written behind that. -/
def callHead (host symbol front : Text) : Text :=
  host ++ ('.' :: (['u', 's', 'e'] ++ ('(' :: symbol))) ++ front

theorem callHead_eq (host symbol front : Text) : callHead host symbol front =
    host ++ ('.' :: (['u', 's', 'e'] ++ ('(' :: (symbol ++ front)))) := by
  simp [callHead]

theorem installed_quoted : installed host symbol (front ++ (language ++ back)) ++ after =
    callHead host symbol front ++ (language ++ ((back ++ [')']) ++ after)) := by
  simp [installed, callHead]

/-- A call is written without white space up to the end of its symbol. -/
theorem noBlank_call (hhost : IsName host) (hsymbol : IsName symbol) :
    ∀ c ∈ host ++ ('.' :: (['u', 's', 'e'] ++ ('(' :: symbol))), isBlank c = false := by
  have huse : ∀ c ∈ '.' :: (['u', 's', 'e'] ++ ['(']), isBlank c = false := by decide
  intro c hc
  have hc : c ∈ host ∨ c ∈ '.' :: (['u', 's', 'e'] ++ ['(']) ∨ c ∈ symbol := by
    simpa [or_assoc] using hc
  rcases hc with hc | hc | hc
  · exact hhost.noBlank c hc
  · exact huse c hc
  · exact hsymbol.noBlank c hc

theorem Encloses.unspaced_callHead (h : Encloses front back) (hhost : IsSymbol host)
    (hsymbol : IsSymbol symbol) : Unspaced (callHead host symbol front) := by
  refine unspaced_append (unspaced_of_noBlank (noBlank_call hhost.isName hsymbol.isName))
    h.unspaced.1 ?_
  rw [h.starts]
  rintro c ⟨⟩
  rfl

theorem Encloses.unspaced_close (h : Encloses front back) : Unspaced (back ++ [')']) :=
  unspaced_append h.unspaced.2 (unspaced_of_noBlank (by decide)) (by rintro c ⟨⟩; rfl)

/-- **A construction stands apart from what is fixed in the call**: behind the call, within the
    quoted text, or in front of the call. -/
theorem construction_apart (hhost : IsSymbol w.host) (hfrom : IsSymbol w.fromSymbol)
    (hto : IsSymbol w.toSymbol) (hother : w.host ≠ w.fromSymbol) (h : Encloses front back)
    (hbefore : before.getLast?.any isWordChar = false) {q : Passage}
    (hq : findConstruction w.fromSymbol (before ++ (callHead w.host w.toSymbol front ++
      (language ++ ((back ++ [')']) ++ after)))) = some q) :
    (∃ z, q.before = before ++ (callHead w.host w.toSymbol front ++
        (language ++ ((back ++ [')']) ++ z)))) ∨
      (∃ l r, language = l ++ (q.body ++ r) ∧
        q.before = before ++ (callHead w.host w.toSymbol front ++ l) ∧
        q.after = r ++ ((back ++ [')']) ++ after)) ∨
      ∃ z, before = q.before ++ (q.body ++ z) ∧ q.after = z ++
        (callHead w.host w.toSymbol front ++ (language ++ ((back ++ [')']) ++ after))) := by
  have hhead := h.unspaced_callHead hhost hto
  have hheadLast : (callHead w.host w.toSymbol front).getLast?.any isWordChar = false := by
    rw [callHead, List.getLast?_append, h.quoted.1]
    exact (show isWordChar '\'' = false by decide)
  have htail := h.unspaced_close
  have htailLast : (back ++ [')']).getLast?.any isWordChar = false := by
    rw [List.getLast?_append]
    exact (show isWordChar ')' = false by decide)
  obtain ⟨dotted, hdotted⟩ : ∃ dotted, callHead w.host w.toSymbol front =
      w.host ++ '.' :: dotted := ⟨['u', 's', 'e'] ++ ('(' :: (w.toSymbol ++ front)),
    by simp [callHead]⟩
  obtain ⟨tail, htailQuote⟩ : ∃ tail, back ++ [')'] = '\'' :: tail := by
    obtain ⟨back, rfl⟩ := List.head?_eq_some_iff.mp h.quoted.2
    exact ⟨back ++ [')'], rfl⟩
  generalize callHead w.host w.toSymbol front = head at *
  generalize back ++ [')'] = close at *
  obtain ⟨hwhole, -, ⟨gap, hbody, hgap, hblank⟩, hright⟩ :=
    findConstruction_eq_some hfrom.isName hq
  have hstarts : ∀ {y rest : Text}, Unspaced y → y ≠ [] → y.getLast?.any isWordChar = false →
      q.body ++ q.after ≠ y ++ rest := fun hy hne hlast heq =>
    hy.no_construction hne hlast hgap hblank (heq.symm.trans (by
      rw [hbody, List.append_assoc, List.append_assoc]))
  -- it may start in each of five parts of the text; in two of them none does
  rcases append_cases hwhole with ⟨z₁, hz, hrest₁⟩ | ⟨z, hne, hz, hrest⟩
  · rcases append_cases hrest₁ with ⟨z₂, rfl, hrest₂⟩ | ⟨y, hne, hy, hrest⟩
    · rcases append_cases hrest₂ with ⟨z₃, rfl, hrest₃⟩ | ⟨y, -, hy, hrest⟩
      · rcases append_cases hrest₃ with ⟨z₄, rfl, -⟩ | ⟨y, hne, hy, hrest⟩
        · exact .inl ⟨z₄, hz⟩
        · exact absurd hrest (hstarts (htail.suffix ⟨z₃, hy.symm⟩) hne
            (any_getLast?_of_isSuffix ⟨z₃, hy.symm⟩ htailLast))
      · rcases append_cases hrest with ⟨r, rfl, hafter⟩ | ⟨u, hne, hu, hafter⟩
        · exact .inr (.inl ⟨z₂, r, hy, hz, hafter⟩)
        · obtain ⟨c, u, rfl⟩ := List.exists_cons_of_ne_nil hne
          rw [htailQuote] at hafter
          obtain rfl := (List.cons.inj hafter).1
          exact absurd (by simp [← hbody, hu]) (quote_not_mem hfrom hblank)
    · exact absurd hrest (hstarts (hhead.suffix ⟨z₁, hy.symm⟩) hne
        (any_getLast?_of_isSuffix ⟨z₁, hy.symm⟩ hheadLast))
  · rcases append_cases hrest with ⟨u, rfl, hafter⟩ | ⟨y, hne', hy, hafter⟩
    · exact .inr (.inr ⟨u, hz, hafter⟩)
    · have hcall : w.host ++ '.' :: (dotted ++ (language ++ (close ++ after))) = y ++ q.after := by
        rw [← hafter, hdotted]
        simp
      exact absurd (construction_cut hhost.isName hfrom.isName hblank hne hne'
        (any_getLast?_of_isSuffix ⟨q.before, hz.symm⟩ hbefore) hright (hbody.symm.trans hy) hcall)
        hother

/-- An install call is the first one whatever it quotes. -/
theorem findInstallCall_requoted (hhost : IsSymbol w.host) (hto : IsSymbol w.toSymbol)
    (hne : w.host ≠ w.toSymbol) (h : Encloses front back)
    (hcall : findInstallCall w.host w.toSymbol (before ++
        (installed w.host w.toSymbol (front ++ (language ++ back)) ++ after)) =
      some ⟨before, installed w.host w.toSymbol (front ++ (language ++ back)), after⟩)
    {language' : Text} (hlanguage' : ')' ∉ language') :
    findInstallCall w.host w.toSymbol (before ++
        (installed w.host w.toSymbol (front ++ (language' ++ back)) ++ after)) =
      some ⟨before, installed w.host w.toSymbol (front ++ (language' ++ back)), after⟩ := by
  obtain ⟨-, hfits, hearlier⟩ :=
    Shape.firstFrom_eq_some (installCall_reads w.host w.toSymbol) hcall
  have hbefore : before.getLast?.any isWordChar = false := by
    simpa [Shape.behind] using ((installCall_iff hhost.isName hto.isName).mp hfits).1
  have hopen : ')' ∉ front ++ (language' ++ back) := by
    simp only [List.mem_append, not_or]
    exact ⟨h.closes.1, hlanguage', h.closes.2⟩
  have hinner : (front ++ (language' ++ back)).head?.any isWordChar = false := by
    rw [List.head?_append, h.starts]
    exact (show isWordChar ',' = false by decide)
  exact findInstallCall_installed hhost hto hne hopen hinner hbefore hearlier
    (by simp [installed]) after

/-- **Swapping the construction leaves the first install call**, up to what it quotes. -/
theorem findInstallCall_swapConstruction (hhost : IsSymbol w.host) (hfrom : IsSymbol w.fromSymbol)
    (hto : IsSymbol w.toSymbol) (hother : w.host ≠ w.fromSymbol) (hne : w.host ≠ w.toSymbol)
    (h : Encloses front back) (hlanguage : ')' ∉ language)
    (hcall : findInstallCall w.host w.toSymbol (before ++
        (installed w.host w.toSymbol (front ++ (language ++ back)) ++ after)) =
      some ⟨before, installed w.host w.toSymbol (front ++ (language ++ back)), after⟩) :
    ∃ language', (findInstallCall w.host w.toSymbol (swapConstruction w (before ++
        (installed w.host w.toSymbol (front ++ (language ++ back)) ++ after)))).map Passage.body =
      some (installed w.host w.toSymbol (front ++ (language' ++ back))) := by
  have reads := installCall_reads w.host w.toSymbol
  obtain ⟨-, hfits, hearlier⟩ := Shape.firstFrom_eq_some reads hcall
  have hbefore : before.getLast?.any isWordChar = false := by
    simpa [Shape.behind] using ((installCall_iff hhost.isName hto.isName).mp hfits).1
  unfold swapConstruction
  cases hq : findConstruction w.fromSymbol (before ++
    (installed w.host w.toSymbol (front ++ (language ++ back)) ++ after)) with
  | none => exact ⟨language, by simp [hcall]⟩
  | some q =>
    rw [installed_quoted] at hq
    rcases construction_apart hhost hfrom hto hother h hbefore hq with ⟨z, hz⟩ |
      ⟨l, r, rfl, hz, hafter⟩ | ⟨z, hz, hafter⟩
    · -- behind the call: where that ends, depends on nothing behind it
      refine ⟨language, ?_⟩
      have := Shape.firstOf_of_stopsAt reads (installCall_stopsAt hhost.isName hto.isName) hcall
        (z ++ (("new " ++ w.toSymbol) ++ q.after))
      rw [← installed_quoted] at hz
      simp only [Passage.replaceWith, hz, List.append_assoc] at this ⊢
      rw [findInstallCall, this]
      rfl
    · -- within what the call quotes: another call of the same shape is the first one
      refine ⟨l ++ (("new " ++ w.toSymbol) ++ r), ?_⟩
      have hrequoted : ')' ∉ l ++ (("new " ++ w.toSymbol) ++ r) := by
        have hnew : ')' ∉ ("new " : Text) := by decide
        have := hto.not_mem_signs ')' (by decide)
        simp only [List.mem_append, not_or] at hlanguage ⊢
        exact ⟨hlanguage.1, ⟨hnew, this⟩, hlanguage.2.2⟩
      have hreplaced : q.replaceWith ("new " ++ w.toSymbol) = before ++ (installed w.host w.toSymbol
          (front ++ (l ++ (("new " ++ w.toSymbol) ++ r) ++ back)) ++ after) := by
        rw [Passage.replaceWith, hz, hafter, installed_quoted]
        generalize ("new " ++ w.toSymbol) = new
        simp only [List.append_assoc]
      simp only [hreplaced, findInstallCall_requoted hhost hto hne h hcall hrequoted]
      rfl
    · -- in front of the call
      have hnone : Shape.NoneIn (installCall w.host w.toSymbol) none (q.before ++ q.body)
          q.after := by
        rw [hafter]
        refine Shape.NoneIn.left ?_
        rwa [← installed_quoted, List.append_assoc, ← hz]
      rw [installed_quoted] at hcall ⊢
      exact ⟨language, by rw [findInstallCall_constructed hhost hfrom hto hne hq hnone, hcall]; rfl⟩

/-- Swapping the construction makes no install call. -/
theorem findInstallCall_swapConstruction_none (hhost : IsSymbol w.host)
    (hfrom : IsSymbol w.fromSymbol) (hto : IsSymbol w.toSymbol) (hne : w.host ≠ w.toSymbol)
    (h : findInstallCall w.host w.toSymbol text = none) :
    findInstallCall w.host w.toSymbol (swapConstruction w text) = none := by
  unfold swapConstruction
  split
  · rename_i q hq
    obtain ⟨hwhole, -, -⟩ := Shape.firstFrom_eq_some (construction_reads w.fromSymbol) hq
    have hnone : Shape.NoneIn (installCall w.host w.toSymbol) none (q.before ++ q.body)
        q.after := by
      intro u c v huv
      refine Shape.firstFrom_eq_none h u _ ?_
      rw [hwhole, ← List.append_assoc, huv, List.append_assoc]
    have := findInstallCall_constructed hhost hfrom hto hne hq hnone
    rwa [h, Option.map_none, Option.map_eq_none_iff] at this
  · exact h

end Script

end RouteLocalizer
