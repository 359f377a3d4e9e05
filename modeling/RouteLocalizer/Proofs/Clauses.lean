/-
  The CLAUSES of import lines: what they bind, and all the ways to write it down.

  SPECIFICATION:
  (1) `Clause` — a default name, a list of bindings in braces, or both; `Clause.without` takes the
      binding of a symbol away;
  (2) `SpellsClause` — relates what is bound to every text that says it, with any blanks in between
      and with or without a comma at the end of the list.

  The relation is the specification of what may be left when a binding is cut out, and it says
  nothing of how a search reads a clause.

  Two things are read off a spelling: the words that stand in it (`SpellsClause.runs`), and, for
  each binding of the list, what stands around it (`SpellsList.split`).  Both are inductions on the
  relation, from bindings to lists to clauses.
-/
import RouteLocalizer.Proofs.Spelling

namespace RouteLocalizer.Import

open Text

/-! ## Bindings -/

/-- The word that renames a binding. -/
def asWord : Text := ['a', 's']

/-- One binding of a list: the name that is imported, and the one it is renamed to. -/
structure Binding where
  name : Text
  newName : Option Text := none
deriving DecidableEq, Repr

/-- What a clause binds. -/
structure Clause where
  default : Option Text
  named : List Binding
deriving DecidableEq, Repr

/-- The names of a binding. -/
def Binding.names (b : Binding) : List Text := b.name :: b.newName.toList

/-- The words of a binding. -/
def Binding.words (b : Binding) : List Text :=
  b.name :: b.newName.elim [] fun other => [asWord, other]

namespace Clause

/-- The names of a clause. -/
def names (c : Clause) : List Text := c.default.toList ++ c.named.flatMap Binding.names

/-- The words of a clause. -/
def words (c : Clause) : List Text := c.default.toList ++ c.named.flatMap Binding.words

/-- Whether a clause binds a symbol under its own name. -/
def Binds (c : Clause) (symbol : Text) : Prop :=
  c.default = some symbol ∨ ⟨symbol, none⟩ ∈ c.named

instance (c : Clause) (symbol : Text) : Decidable (c.Binds symbol) :=
  inferInstanceAs (Decidable (_ ∨ _))

/-- The clause without the binding of a symbol under its own name. -/
def without (c : Clause) (symbol : Text) : Clause where
  default := c.default.filter (· ≠ symbol)
  named := c.named.filter (· ≠ ⟨symbol, none⟩)

end Clause

/-- A name that no search takes for a word of the syntax. -/
structure IsPlainName (name : Text) : Prop where
  isName : IsName name
  ne_from : name ≠ fromWord
  ne_as : name ≠ asWord

instance (name : Text) : Decidable (IsPlainName name) :=
  decidable_of_iff (IsName name ∧ name ≠ fromWord ∧ name ≠ asWord)
    ⟨fun ⟨isName, ne_from, ne_as⟩ => ⟨isName, ne_from, ne_as⟩,
      fun h => ⟨h.isName, h.ne_from, h.ne_as⟩⟩

/-- The names in the braces are names of the clause. -/
theorem Clause.names_named {c : Clause} (names : ∀ name ∈ c.names, IsName name) :
    ∀ b ∈ c.named, ∀ name ∈ b.names, IsName name := fun b hb name hname =>
  names name (List.mem_append_right _ (List.mem_flatMap.mpr ⟨b, hb, hname⟩))

/-- Without one of its bindings a clause has no other names. -/
theorem Clause.names_without (c : Clause) (symbol : Text) : (c.without symbol).names ⊆ c.names := by
  intro name hname
  rcases List.mem_append.mp hname with hname | hname
  · have hdefault : c.default.filter (· ≠ symbol) = some name := Option.mem_toList.mp hname
    obtain ⟨hdefault, -⟩ := Option.filter_eq_some_iff.mp hdefault
    exact List.mem_append_left _ (Option.mem_toList.mpr hdefault)
  · obtain ⟨b, hb, hname⟩ := List.mem_flatMap.mp hname
    exact List.mem_append_right _ (List.mem_flatMap.mpr ⟨b, (List.mem_filter.mp hb).1, hname⟩)

/-! ## Spellings -/

/-- Spaces and tabs, or nothing. -/
def Blanks (gap : Text) : Prop := ∀ c ∈ gap, isIndent c = true

instance (gap : Text) : Decidable (Blanks gap) :=
  inferInstanceAs (Decidable (∀ c ∈ gap, isIndent c = true))

/-- Blanks beside blanks. -/
theorem Blanks.append {gap gap' : Text} (h : Blanks gap) (h' : Blanks gap') :
    Blanks (gap ++ gap') :=
  List.forall_mem_append.mpr ⟨h, h'⟩

theorem Blanks.not_mem {gap : Text} (h : Blanks gap) {c : Char} (hc : isIndent c = false) :
    c ∉ gap := fun hmem => by
  rw [h c hmem] at hc
  cases hc

/-- Blanks are white space, ... -/
theorem Blanks.isBlank {gap : Text} (h : Blanks gap) : ∀ c ∈ gap, isBlank c = true :=
  fun c hc => isBlank_of_isIndent (h c hc)

/-- ... and no ink. -/
theorem Blanks.gap {gap : Text} (h : Blanks gap) : ∀ c ∈ gap, isInk c = false :=
  fun c hc => isInk_of_isBlank (h.isBlank c hc)

/-- A binding, with the blanks around it. -/
inductive SpellsBinding : Binding → Text → Prop where
  | plain {name lead trail : Text} (hlead : Blanks lead) (htrail : Blanks trail) :
      SpellsBinding ⟨name, none⟩ (lead ++ (name ++ trail))
  | renamed {name other lead gap gap' trail : Text} (hlead : Blanks lead) (hgap : Blanks gap)
      (hne : gap ≠ []) (hgap' : Blanks gap') (hne' : gap' ≠ []) (htrail : Blanks trail) :
      SpellsBinding ⟨name, some other⟩
        (lead ++ (name ++ (gap ++ (asWord ++ (gap' ++ (other ++ trail))))))

/-- A list of bindings, without its braces.  A comma at the end has only blanks behind it. -/
inductive SpellsList : List Binding → Text → Prop where
  | gap {gap : Text} (hgap : Blanks gap) : SpellsList [] gap
  | last {b : Binding} {text : Text} (hb : SpellsBinding b text) : SpellsList [b] text
  | cons {b : Binding} {bs : List Binding} {text rest : Text} (hb : SpellsBinding b text)
      (hbs : SpellsList bs rest) : SpellsList (b :: bs) (text ++ ',' :: rest)

/-- A list in its braces. -/
def braced (list rest : Text) : Text := '\x7b' :: (list ++ '\x7d' :: rest)

/-- A clause, from the keyword to the word `from`. -/
inductive SpellsClause : Clause → Text → Prop where
  | default {name lead trail : Text} (hlead : Blanks lead) (hne : lead ≠ [])
      (htrail : Blanks trail) (hne' : trail ≠ []) :
      SpellsClause ⟨some name, []⟩ (lead ++ (name ++ trail))
  | named {bs : List Binding} {lead list trail : Text} (hlead : Blanks lead)
      (hlist : SpellsList bs list) (htrail : Blanks trail) (hne' : trail ≠ []) :
      SpellsClause ⟨none, bs⟩ (lead ++ braced list trail)
  | both {name : Text} {bs : List Binding} {lead gap gap' list trail : Text} (hlead : Blanks lead)
      (hne : lead ≠ []) (hgap : Blanks gap) (hgap' : Blanks gap') (hlist : SpellsList bs list)
      (htrail : Blanks trail) (hne' : trail ≠ []) :
      SpellsClause ⟨some name, bs⟩
        (lead ++ (name ++ (gap ++ ',' :: (gap' ++ braced list trail))))

/-! ## The words of a spelling -/

/-- A class of characters that names are made of, and that no gap between names has. -/
structure IsWordClass (p : Char → Bool) : Prop where
  name : ∀ c, isSymbolChar c = true → p c = true
  gap : ∀ c, isInk c = false → p c = false

/-- Names are words for the search that looks at word boundaries, ... -/
theorem isWordClass_word : IsWordClass isWordChar :=
  ⟨fun _ hc => (symbolFacts hc).word, fun _ hc => (gapFacts hc).word⟩

/-- ... and for the one that looks at identifiers. -/
theorem isWordClass_identifier : IsWordClass isIdentifierChar :=
  ⟨fun _ hc => (symbolFacts hc).identifier, fun _ hc => (gapFacts hc).identifier⟩

variable {p : Char → Bool}

namespace IsWordClass

/-- A word between gaps is the first of the words. -/
theorem runs_word (h : IsWordClass p) {word gap rest : Text} (hword : IsName word)
    (hgap : ∀ c ∈ gap, isInk c = false) (hrest : rest.head?.any p = false) :
    runsOf p (gap ++ (word ++ rest)) = word :: runsOf p rest := by
  rw [runsOf_gap fun c hc => h.gap c (hgap c hc), runsOf_append (.inr hrest),
    runsOf_word hword.nonempty fun c hc => h.name c (hword.chars c hc)]
  rfl

/-- Blanks hold no word. -/
theorem runs_blanks (h : IsWordClass p) {gap : Text} (hgap : Blanks gap) : runsOf p gap = [] :=
  runsOf_eq_nil.mpr fun c hc => h.gap c (hgap.gap c hc)

/-- No word starts with a gap. -/
theorem head (h : IsWordClass p) {gap rest : Text} (hgap : ∀ c ∈ gap, isInk c = false)
    (hrest : gap = [] → rest.head?.any p = false) : (gap ++ rest).head?.any p = false := by
  cases gap with
  | nil => exact hrest rfl
  | cons c gap => simpa using h.gap c (hgap c (by simp))

end IsWordClass

/-- **The words of a binding are the runs of its text**, ... -/
theorem SpellsBinding.runs (h : IsWordClass p) {b : Binding} {text : Text}
    (spells : SpellsBinding b text) (names : ∀ name ∈ b.names, IsName name) :
    runsOf p text = b.words := by
  have hhead : ∀ trail, Blanks trail → trail.head?.any p = false := by
    intro trail htrail
    have hnil : trail = [] → ([] : Text).head?.any p = false := fun _ => rfl
    simpa using h.head htrail.gap hnil
  cases spells with
  | plain hlead htrail =>
    rw [h.runs_word (names _ (by simp [Binding.names])) hlead.gap (hhead _ htrail),
      h.runs_blanks htrail]
    rfl
  | renamed hlead hgap hne hgap' hne' htrail =>
    rw [h.runs_word (names _ (by simp [Binding.names])) hlead.gap
        (h.head hgap.gap fun h => absurd h hne),
      h.runs_word (by decide) hgap.gap (h.head hgap'.gap fun h => absurd h hne'),
      h.runs_word (names _ (by simp [Binding.names])) hgap'.gap (hhead _ htrail),
      h.runs_blanks htrail]
    rfl

/-- ... those of a list are those of its bindings, ... -/
theorem SpellsList.runs (h : IsWordClass p) {bs : List Binding} {text : Text}
    (spells : SpellsList bs text) (names : ∀ b ∈ bs, ∀ name ∈ b.names, IsName name) :
    runsOf p text = bs.flatMap Binding.words := by
  induction spells with
  | gap hgap => exact h.runs_blanks hgap
  | last hb => simpa using hb.runs h (names _ (by simp))
  | cons hb _ ih =>
    have hcomma : p ',' = false := h.gap ',' (by decide)
    rw [runsOf_append (.inr (by simpa using hcomma)), runsOf_gap_cons hcomma,
      hb.runs h (names _ (by simp)), ih fun b hb => names b (by simp [hb])]
    rfl

/-- **The words of a spelling** are the words of the clause. -/
theorem SpellsClause.runs (h : IsWordClass p) {c : Clause} {text : Text}
    (spells : SpellsClause c text) (names : ∀ name ∈ c.names, IsName name) :
    runsOf p text = c.words := by
  have hopen : p '\x7b' = false := h.gap '\x7b' (by decide)
  have hclose : p '\x7d' = false := h.gap '\x7d' (by decide)
  have hcomma : p ',' = false := h.gap ',' (by decide)
  have hbraced : ∀ {bs : List Binding} {list trail : Text}, SpellsList bs list → Blanks trail →
      (∀ b ∈ bs, ∀ name ∈ b.names, IsName name) →
      runsOf p (braced list trail) = bs.flatMap Binding.words := by
    intro bs list trail hlist htrail hnames
    rw [braced, runsOf_gap_cons hopen, runsOf_append (.inr (by simpa using hclose)),
      runsOf_gap_cons hclose, hlist.runs h hnames, h.runs_blanks htrail, List.append_nil]
  cases spells with
  | @default name lead trail hlead hne htrail hne' =>
    have hnil : trail = [] → ([] : Text).head?.any p = false := fun _ => rfl
    have hhead := h.head htrail.gap hnil
    rw [List.append_nil] at hhead
    rw [h.runs_word (names _ (by simp [Clause.names])) hlead.gap hhead,
      h.runs_blanks htrail]
    rfl
  | named hlead hlist htrail hne' =>
    rw [runsOf_gap fun c hc => h.gap c (hlead.gap c hc)]
    exact hbraced hlist htrail (Clause.names_named names)
  | @both name bs lead gap gap' list trail hlead hne hgap hgap' hlist htrail hne' =>
    rw [h.runs_word (names _ (by simp [Clause.names])) hlead.gap
        (h.head hgap.gap fun _ => by simpa using hcomma),
      runsOf_gap fun c hc => h.gap c (hgap.gap c hc), runsOf_gap_cons hcomma,
      runsOf_gap fun c hc => h.gap c (hgap'.gap c hc)]
    exact congrArg (name :: ·) (hbraced hlist htrail (Clause.names_named names))

/-- Every word of a clause is a name, or the word `as`. -/
theorem Clause.mem_words {c : Clause} {word : Text} (h : word ∈ c.words) :
    word ∈ c.names ∨ word = asWord := by
  rcases List.mem_append.mp h with h | h
  · exact .inl (List.mem_append_left _ h)
  · obtain ⟨b, hb, hword⟩ := List.mem_flatMap.mp h
    obtain ⟨name, newName⟩ := b
    have hnames : ∀ w ∈ (⟨name, newName⟩ : Binding).names, w ∈ c.names := fun _ hname =>
      List.mem_append_right _ (List.mem_flatMap.mpr ⟨_, hb, hname⟩)
    cases newName with
    | none => exact .inl (hnames word hword)
    | some other =>
      simp only [Binding.words, Option.elim_some, List.mem_cons, List.not_mem_nil,
        or_false] at hword
      rcases hword with rfl | rfl | rfl
      · exact .inl (hnames _ (by simp [Binding.names]))
      · exact .inr rfl
      · exact .inl (hnames _ (by simp [Binding.names]))

/-! ## The ends of a spelling -/

/-- A spelling starts with a blank or a brace. -/
theorem SpellsClause.head (h : IsWordClass p) {c : Clause} {text : Text}
    (spells : SpellsClause c text) (rest : Text) : (text ++ rest).head?.any p = false := by
  cases spells with
  | default hlead hne =>
    rw [List.append_assoc]
    exact h.head hlead.gap fun h => absurd h hne
  | named hlead =>
    rw [List.append_assoc]
    exact h.head hlead.gap fun _ => h.gap '\x7b' (by decide)
  | both hlead hne =>
    rw [List.append_assoc]
    exact h.head hlead.gap fun h => absurd h hne

/-- A spelling starts with what may follow the keyword. -/
theorem SpellsClause.opens {c : Clause} {text : Text} (spells : SpellsClause c text) :
    ∃ d more, text = d :: more ∧ opensBindings d = true := by
  have hblank : ∀ {gap : Text} (rest : Text), Blanks gap → gap ≠ [] →
      ∃ d more, gap ++ rest = d :: more ∧ opensBindings d = true := by
    intro gap rest hgap hne
    obtain ⟨d, gap, rfl⟩ := List.exists_cons_of_ne_nil hne
    exact ⟨d, gap ++ rest, rfl, by simp [opensBindings, hgap d (by simp)]⟩
  cases spells with
  | default hlead hne => exact hblank _ hlead hne
  | @named bs lead list trail hlead =>
    by_cases hne : lead = []
    · exact ⟨'\x7b', _, by rw [hne]; rfl, by decide⟩
    · exact hblank _ hlead hne
  | both hlead hne => exact hblank _ hlead hne

/-- A spelling ends with a blank. -/
theorem SpellsClause.concat {c : Clause} {text : Text} (spells : SpellsClause c text) :
    ∃ front b, text = front ++ [b] ∧ isIndent b = true := by
  have hlast : ∀ front trail : Text, Blanks trail → trail ≠ [] →
      ∃ before b, front ++ trail = before ++ [b] ∧ isIndent b = true := by
    intro front trail htrail hne
    obtain ⟨trail, b, rfl⟩ := exists_concat hne
    exact ⟨front ++ trail, b, by simp, htrail b (by simp)⟩
  cases spells with
  | @default name lead trail hlead hne htrail hne' =>
    simpa using hlast (lead ++ name) trail htrail hne'
  | @named bs lead list trail hlead hlist htrail hne' =>
    simpa [braced] using hlast (lead ++ ('\x7b' :: (list ++ ['\x7d']))) trail htrail hne'
  | @both name bs lead gap gap' list trail hlead hne hgap hgap' hlist htrail hne' =>
    simpa [braced] using hlast (lead ++ (name ++ (gap ++ ',' :: (gap' ++
      ('\x7b' :: (list ++ ['\x7d'])))))) trail htrail hne'

/-! ## The characters of a spelling -/

/-- A character that a list is made of. -/
def isListChar (c : Char) : Bool := isSymbolChar c || isIndent c || c == ','

theorem IsName.listChars {name : Text} (h : IsName name) : ∀ c ∈ name, isListChar c = true :=
  fun c hc => by simp [isListChar, h.chars c hc]

theorem Blanks.listChars {gap : Text} (h : Blanks gap) : ∀ c ∈ gap, isListChar c = true :=
  fun c hc => by simp [isListChar, h c hc]

/-- A binding is written with names and blanks, ... -/
theorem SpellsBinding.chars {b : Binding} {text : Text} (spells : SpellsBinding b text)
    (names : ∀ name ∈ b.names, IsName name) : ∀ c ∈ text, isListChar c = true := by
  have hname : ∀ name ∈ b.names, ∀ c ∈ name, isListChar c = true := fun name h =>
    (names name h).listChars
  have has : ∀ c ∈ asWord, isListChar c = true := by decide
  cases spells with
  | plain hlead htrail =>
    simp only [List.forall_mem_append]
    exact ⟨hlead.listChars, hname _ (by simp [Binding.names]), htrail.listChars⟩
  | renamed hlead hgap hne hgap' hne' htrail =>
    simp only [List.forall_mem_append]
    exact ⟨hlead.listChars, hname _ (by simp [Binding.names]), hgap.listChars, has,
      hgap'.listChars, hname _ (by simp [Binding.names]), htrail.listChars⟩

/-- There is no brace in a list. -/
theorem SpellsList.chars {bs : List Binding} {text : Text} (spells : SpellsList bs text)
    (names : ∀ b ∈ bs, ∀ name ∈ b.names, IsName name) : ∀ c ∈ text, isListChar c = true := by
  induction spells with
  | gap hgap => exact hgap.listChars
  | last hb => exact hb.chars (names _ (by simp))
  | cons hb _ ih =>
    simp only [List.forall_mem_append, List.forall_mem_cons]
    exact ⟨hb.chars (names _ (by simp)), by decide, ih fun b hb => names b (by simp [hb])⟩

/-- A character that a clause is made of. -/
def isClauseChar (c : Char) : Bool := isListChar c || c == '\x7b' || c == '\x7d'

theorem isClauseChar_of_isListChar {text : Text} (h : ∀ c ∈ text, isListChar c = true) :
    ∀ c ∈ text, isClauseChar c = true :=
  fun c hc => by simp [isClauseChar, h c hc]

/-- A clause holds no quote and no line end. -/
theorem plain_of_isClauseChar {c : Char} (h : isClauseChar c = true) :
    ¬ isQuoteMark c ∧ isLineEnd c = false := by
  constructor
  · rintro (rfl | rfl) <;> exact absurd h (by decide)
  · rw [Bool.eq_false_iff]
    intro hend
    have : c = '\r' ∨ c = '\n' := by simpa [isLineEnd] using hend
    rcases this with rfl | rfl <;> exact absurd h (by decide)

/-- ... and a clause with braces, too. -/
theorem SpellsClause.chars {c : Clause} {text : Text} (spells : SpellsClause c text)
    (names : ∀ name ∈ c.names, IsName name) : ∀ c ∈ text, isClauseChar c = true := by
  have hblanks : ∀ {gap : Text}, Blanks gap → ∀ c ∈ gap, isClauseChar c = true := fun hgap =>
    isClauseChar_of_isListChar hgap.listChars
  have hname : ∀ name ∈ c.names, ∀ c ∈ name, isClauseChar c = true := fun name hname =>
    isClauseChar_of_isListChar (names name hname).listChars
  have hbraced : ∀ {list trail : Text}, SpellsList c.named list → Blanks trail →
      ∀ c ∈ braced list trail, isClauseChar c = true := by
    intro list trail hlist htrail
    simp only [braced, List.forall_mem_append, List.forall_mem_cons]
    exact ⟨by decide, isClauseChar_of_isListChar (hlist.chars (Clause.names_named names)),
      by decide, hblanks htrail⟩
  cases spells with
  | default hlead hne htrail hne' =>
    simp only [List.forall_mem_append]
    exact ⟨hblanks hlead, hname _ (by simp [Clause.names]), hblanks htrail⟩
  | named hlead hlist htrail hne' =>
    simp only [List.forall_mem_append]
    exact ⟨hblanks hlead, hbraced hlist htrail⟩
  | both hlead hne hgap hgap' hlist htrail hne' =>
    simp only [List.forall_mem_append, List.forall_mem_cons]
    exact ⟨hblanks hlead, hname _ (by simp [Clause.names]), hblanks hgap, by decide,
      hblanks hgap', hbraced hlist htrail⟩

/-- A spelling leaves no brace open. -/
theorem SpellsClause.closes {c : Clause} {text : Text} (spells : SpellsClause c text)
    (names : ∀ name ∈ c.names, IsName name) (h : '\x7b' ∈ text) : '\x7d' ∈ text := by
  cases spells with
  | @default name lead trail hlead hne htrail hne' =>
    have hbrace : isIndent '\x7b' = false := by decide
    have hname : '\x7b' ∉ name := (names name List.mem_cons_self).not_mem_signs _ (by decide)
    simp [hlead.not_mem hbrace, htrail.not_mem hbrace, hname] at h
  | named => simp [braced]
  | both => simp [braced]

/-- Where a symbol is not the only binding, there is a comma. -/
theorem SpellsClause.comma_of_others {c : Clause} {text symbol : Text}
    (spells : SpellsClause c text) (binds : c.Binds symbol)
    (others : c.without symbol ≠ ⟨none, []⟩) : ',' ∈ text := by
  cases spells with
  | default =>
    rcases binds with heq | hmem
    · simp [Clause.without, Option.some.inj heq] at others
    · cases hmem
  | named _ hlist =>
    have hmem := binds.resolve_left (by simp)
    cases hlist with
    | gap => cases hmem
    | last => simp [Clause.without, ← List.mem_singleton.mp hmem] at others
    | cons => simp [braced]
  | both => simp

/-! ## A list around one of its bindings -/

/-- The bindings in front of another one, each with its comma. -/
inductive SpellsFront : List Binding → Text → Prop where
  | nil : SpellsFront [] []
  | cons {b : Binding} {bs : List Binding} {text rest : Text} (hb : SpellsBinding b text)
      (hbs : SpellsFront bs rest) : SpellsFront (b :: bs) (text ++ ',' :: rest)

/-- What stands behind a binding: nothing, or a comma and the bindings behind it. -/
inductive SpellsBack : List Binding → Text → Prop where
  | nil : SpellsBack [] []
  | comma {bs : List Binding} {rest : Text} (hbs : SpellsList bs rest) :
      SpellsBack bs (',' :: rest)

/-- Blanks may be added behind a binding. -/
theorem SpellsBinding.behind {b : Binding} {text trail : Text} (h : SpellsBinding b text)
    (htrail : Blanks trail) : SpellsBinding b (text ++ trail) := by
  cases h with
  | plain hlead htrail' => simpa using SpellsBinding.plain hlead (htrail'.append htrail)
  | renamed hlead hgap hne hgap' hne' htrail' =>
    simpa using SpellsBinding.renamed hlead hgap hne hgap' hne' (htrail'.append htrail)

/-- The front of a list, up to a comma, and a list behind it make a list. -/
theorem SpellsFront.append {pre bs : List Binding} {front text : Text}
    (h : SpellsFront pre front) (hbs : SpellsList bs text) :
    SpellsList (pre ++ bs) (front ++ text) := by
  induction h with
  | nil => exact hbs
  | cons hb _ ih => simpa using SpellsList.cons hb ih

/-- Bindings with commas are a list without the last of the commas. -/
theorem SpellsFront.dropComma {pre : List Binding} {front : Text} (h : SpellsFront pre front)
    (hne : pre ≠ []) : ∃ list, front = list ++ [','] ∧
      ∀ trail, Blanks trail → SpellsList pre (list ++ trail) := by
  induction h with
  | nil => exact absurd rfl hne
  | @cons b bs text rest hb hbs ih =>
    cases hbs with
    | nil => exact ⟨text, rfl, fun trail htrail => .last (hb.behind htrail)⟩
    | cons hb' hbs' =>
      obtain ⟨list, hlist, hspells⟩ := ih (by simp)
      refine ⟨text ++ ',' :: list, by simp [hlist], fun trail htrail => ?_⟩
      simpa using SpellsList.cons hb (hspells trail htrail)

/-- **A list, cut at one of its bindings.** -/
theorem SpellsList.split {bs : List Binding} {text name : Text} (h : SpellsList bs text)
    (hmem : ⟨name, none⟩ ∈ bs) : ∃ pre post front lead trail back,
      bs = pre ++ ⟨name, none⟩ :: post ∧ text = front ++ (lead ++ (name ++ (trail ++ back))) ∧
      SpellsFront pre front ∧ Blanks lead ∧ Blanks trail ∧ SpellsBack post back := by
  induction h with
  | gap => cases hmem
  | @last b text hb =>
    obtain rfl := List.mem_singleton.mp hmem
    obtain ⟨hlead, htrail⟩ := hb
    exact ⟨[], [], [], _, _, [], rfl, by simp, .nil, hlead, htrail, .nil⟩
  | @cons b bs text rest hb hbs ih =>
    rcases List.mem_cons.mp hmem with rfl | hmem
    · obtain ⟨hlead, htrail⟩ := hb
      exact ⟨[], bs, [], _, _, ',' :: rest, rfl, by simp, .nil, hlead, htrail, .comma hbs⟩
    · obtain ⟨pre, post, front, lead, trail, back, rfl, rfl, hfront, hlead, htrail, hback⟩ :=
        ih hmem
      exact ⟨b :: pre, post, text ++ ',' :: front, lead, trail, back, rfl, by simp,
        .cons hb hfront, hlead, htrail, hback⟩

/-! ## Other blanks in front -/

/-- A text is cut at the first character outside of the class, if there is one. -/
theorem dropWhile_cut {p : Char → Bool} {c : Char} (hc : p c = false) (text rest : Text) :
    (text ++ c :: rest).dropWhile p = text.dropWhile p ++ c :: rest := by
  rw [List.dropWhile_append]
  split
  · rename_i hall
    simp [List.isEmpty_iff.mp hall, hc]
  · rfl

/-- Blanks in front of a name are dropped up to the name. -/
theorem dropWhile_blanks {gap word : Text} (hgap : Blanks gap) (hword : IsName word)
    (rest : Text) : (gap ++ (word ++ rest)).dropWhile isIndent = word ++ rest := by
  refine dropWhile_of_end hgap ?_
  obtain ⟨c, word, rfl⟩ := List.exists_cons_of_ne_nil hword.nonempty
  simpa using hword.noIndent c (by simp)

/-- The blanks in front of a binding may be others. -/
theorem SpellsBinding.relead {b : Binding} {text lead : Text} (h : SpellsBinding b text)
    (hname : IsName b.name) (hlead : Blanks lead) :
    SpellsBinding b (lead ++ text.dropWhile isIndent) := by
  cases h with
  | plain hlead' htrail =>
    rw [dropWhile_blanks hlead' hname]
    exact .plain hlead htrail
  | renamed hlead' hgap hne hgap' hne' htrail =>
    rw [dropWhile_blanks hlead' hname]
    exact .renamed hlead hgap hne hgap' hne' htrail

/-- The blanks in front of a list do not matter. -/
theorem SpellsList.relead {bs : List Binding} {text lead : Text} (h : SpellsList bs text)
    (names : ∀ b ∈ bs, IsName b.name) (hlead : Blanks lead) :
    SpellsList bs (lead ++ text.dropWhile isIndent) := by
  cases h with
  | gap hgap =>
    rw [List.dropWhile_eq_nil_iff.mpr hgap, List.append_nil]
    exact .gap hlead
  | last hb => exact .last (hb.relead (names _ (by simp)) hlead)
  | cons hb hbs =>
    rw [dropWhile_cut (by decide), ← List.append_assoc]
    exact .cons (hb.relead (names _ (by simp)) hlead) hbs

end RouteLocalizer.Import
