/-
  The ROUTER FILE is finished after one edit: the import lines that the edit provides are still
  there when the install call and the construction of the stock router have been swapped.

  An import line can be lost only when it runs into what is swapped.  A construction is `new`, white
  space and a symbol, and no import line meets any of it.  An install call may go on over
  several lines up to its first closing parenthesis, and what stands on them is not read; so
  the calls that take an import line in with them (`spansImport`) are set apart.

  SPECIFICATION, for names that settings may hold (`ScriptNames`) and paired line ends:
  (1) `routerText_eq` — the edit is a chain of imports that are provided, and then the two swaps;
  (2) `hasLine_provideAll` — after such a chain each of its lines is there;
  (3) `hasLine_swapInstallCall`, `hasLine_swapConstruction` — the swaps keep an import line, unless
      the call takes it in;
  (4) `hasLine_routerText`, `routerText_routerText` — so the lines are there in the end, and where
      nothing of the stock router is left a second edit changes nothing.
-/
import RouteLocalizer.Pass.Edit
import RouteLocalizer.Proofs.Provide
import RouteLocalizer.Proofs.Shapes

namespace RouteLocalizer

namespace Import

open Text

/-! ## The lines that a pass provides -/

/-- The two ways in which a line imports one name. -/
inductive ImportForm where
  /-- The name in braces. -/
  | braced
  /-- The name as the default of its module. -/
  | default
deriving DecidableEq, Repr

/-- The line that imports a name from a module. -/
def ImportForm.line (name module : Text) : ImportForm → Text
  | .braced => "import \x7b " ++ name ++ " \x7d from '" ++ module ++ "'"
  | .default => "import " ++ name ++ " from '" ++ module ++ "'"

/-- A module that a line can import from: one run of ink without quotes. -/
structure IsModule (module : Text) : Prop where
  nonempty : module ≠ []
  ink : ∀ c ∈ module, isInk c = true
  noQuote : ∀ c ∈ module, ¬ isQuoteMark c

instance (module : Text) : Decidable (IsModule module) :=
  decidable_of_iff (module ≠ [] ∧ (∀ c ∈ module, isInk c = true) ∧
      ∀ c ∈ module, ¬ isQuoteMark c)
    ⟨fun ⟨nonempty, ink, noQuote⟩ => ⟨nonempty, ink, noQuote⟩,
      fun h => ⟨h.nonempty, h.ink, h.noQuote⟩⟩

theorem IsPackage.isModule {package : Text} (h : IsPackage package) : IsModule package :=
  ⟨h.nonempty, fun c hc => isInk_of_isPackageChar (h.chars c hc), h.noQuote⟩

theorem isLineEnd_of_isInk {c : Char} (h : isInk c = true) : isLineEnd c = false := by
  rw [Bool.eq_false_iff]
  intro hend
  have : c = '\r' ∨ c = '\n' := by simpa [isLineEnd] using hend
  rcases this with rfl | rfl <;> exact absurd h (by decide)

/-- What stands around the name are the two words and gaps. -/
theorem ImportForm.line_eq (name module : Text) (form : ImportForm) :
    ∃ opening closing : Text, form.line name module =
        opening ++ (name ++ (closing ++ ('\'' :: module ++ ['\'']))) ∧
      runsOf isInk opening = [keyword] ∧ opening.getLast?.any isInk = false ∧
      runsOf isInk closing = [fromWord] ∧ closing.head?.any isInk = false ∧
      closing.getLast?.any isInk = false ∧ ∀ c ∈ opening ++ closing, isLineEnd c = false := by
  have hend : "'".toList = ['\''] := by decide
  cases form with
  | braced =>
    have hquote : " \x7d from '".toList = " \x7d from ".toList ++ ['\''] := by decide
    refine ⟨"import \x7b ".toList, " \x7d from ".toList, ?_, by decide⟩
    unfold ImportForm.line
    rw [hquote, hend]
    generalize "import \x7b ".toList = opening
    generalize " \x7d from ".toList = closing
    simp only [List.append_assoc, List.cons_append, List.nil_append]
  | default =>
    have hquote : " from '".toList = " from ".toList ++ ['\''] := by decide
    refine ⟨"import ".toList, " from ".toList, ?_, by decide⟩
    unfold ImportForm.line
    rw [hquote, hend]
    generalize "import ".toList = opening
    generalize " from ".toList = closing
    simp only [List.append_assoc, List.cons_append, List.nil_append]

/-- A line of either form imports its name. -/
theorem importsName_line {name module : Text} (hname : IsName name) (hmodule : IsModule module)
    (form : ImportForm) : ImportsName name module (form.line name module) where
  runs := by
    have hquoted : ∀ c ∈ '\'' :: module ++ ['\''], isInk c = true := by
      intro c hc
      simp only [List.cons_append, List.mem_cons, List.mem_append, List.not_mem_nil, or_false] at hc
      rcases hc with rfl | hc | rfl
      · decide
      · exact hmodule.ink c hc
      · decide
    obtain ⟨opening, closing, hline, hopening, hgap, hclosing, hhead, hlast, -⟩ :=
      form.line_eq name module
    have hhead' : (closing ++ ('\'' :: module ++ ['\''])).head?.any isInk = false := by
      cases closing with
      | nil => cases hclosing
      | cons c closing => exact hhead
    rw [hline, runsOf_around hname.nonempty hname.ink hgap hhead', runsOf_append (.inl hlast),
      runsOf_word (by simp) hquoted, hopening, hclosing]
    rfl
  start := by cases form <;> rfl
  name := hname
  module := hmodule.noQuote

/-- A line of either form holds no line end. -/
theorem ImportForm.line_plain {name module : Text} (hname : IsName name) (hmodule : IsModule module)
    (form : ImportForm) : ∀ c ∈ form.line name module, isLineEnd c = false := by
  obtain ⟨opening, closing, hline, -, -, -, -, -, hplain⟩ := form.line_eq name module
  intro c hc
  rw [hline] at hc
  simp only [List.mem_append, List.cons_append, List.mem_cons, List.not_mem_nil, or_false] at hc
  rcases hc with hc | hc | hc | rfl | hc | rfl
  · exact hplain c (List.mem_append_left _ hc)
  · exact hname.oneLine c hc
  · exact hplain c (List.mem_append_right _ hc)
  · decide
  · exact isLineEnd_of_isInk (hmodule.ink c hc)
  · decide

/-- The line that imports a symbol from the router's package. -/
theorem imports_importLine {w : Wiring} {symbol : Text} (hsymbol : IsSymbol symbol)
    (hpackage : IsPackage w.package) : Imports symbol w.package (w.importLine symbol) where
  runs := (importsName_line hsymbol.isName hpackage.isModule .braced).runs
  start := rfl
  plain := ImportForm.line_plain hsymbol.isName hpackage.isModule .braced
  symbol := hsymbol
  package := hpackage

/-- The package names that the example files are imported under. -/
def exampleSymbols : List Text := Template.routerImports.map Prod.fst

/-- The lines that import the example files. -/
theorem imports_example {symbol line : Text} (h : (symbol, line) ∈ Template.routerImports) :
    ∃ package, Imports symbol package line := by
  have hall : ∀ i ∈ Template.routerImports, ∃ package ∈ ["../lang/translations".toList,
      "../lang/localized-urls".toList], runsOf isInk i.2 =
        [keyword, i.1, fromWord, '\'' :: package ++ ['\'']] ∧ i.2.head? = some 'i' ∧
        (∀ c ∈ i.2, isLineEnd c = false) ∧ i.1 ≠ [] ∧ (∀ c ∈ i.1, isSymbolChar c = true) ∧
        i.1 ∉ reservedWords ∧ package ≠ [] ∧ ∀ c ∈ package, isPackageChar c = true := by
    decide +kernel
  obtain ⟨package, -, runs, start, plain, hne, hchars, hfree, hpackage, hpackage'⟩ := hall _ h
  exact ⟨package, runs, start, plain, ⟨hne, hchars, hfree⟩, ⟨hpackage, hpackage'⟩⟩

/-! ## What an import line cannot run into -/

theorem not_isQuoteMark_of_isBlank {c : Char} (h : isBlank c = true) : ¬ isQuoteMark c := by
  rintro (rfl | rfl) <;> exact absurd h (by decide)

variable {symbol package wanted : Text}

namespace Spells

/-- Whatever ends a spelling and shows anything ends with a quote mark. -/
theorem quote_mem (h : Spells symbol package wanted) {u v : Text} (hline : wanted = u ++ v)
    {c : Char} (hc : c ∈ v) (ink : isInk c = true) : ∃ d ∈ v, isQuoteMark d := by
  obtain ⟨tail, hv, htail⟩ := dropEndWhile_append (!isInk ·) v
  generalize hshown : dropEndWhile (!isInk ·) v = shown at hv
  have hne : shown ≠ [] := by
    rintro rfl
    rw [hv, List.nil_append] at hc
    have := htail c hc
    simp [ink] at this
  obtain ⟨front, d, rfl⟩ := exists_concat hne
  have hd : isInk d = true := by
    by_contra hgap
    -- a last character without ink would have been dropped
    have hrev : v.reverse.dropWhile (!isInk ·) = d :: front.reverse := by
      rw [← List.reverse_inj, List.reverse_cons, List.reverse_reverse]
      exact hshown
    have := List.head?_dropWhile_not (!isInk ·) v.reverse
    rw [hrev] at this
    exact hgap (by simpa using this)
  have hsplit : wanted = (u ++ front) ++ ([d] ++ tail) := by
    rw [hline, hv]
    simp
  exact ⟨d, by simp [hv], h.last_ink hsplit hd fun e he => by simpa using htail e he⟩

end Spells

/-- No import line runs over a text that shows something and holds no quote mark. -/
theorem not_hasLine_behind (h : Imports symbol package wanted) {front body : Text}
    (hfront : '\n' ∉ front) (ink : body.head?.any isInk = true)
    (hbody : ∀ c ∈ body, ¬ isQuoteMark c) : ¬ hasLine wanted (front ++ body) = true := by
  have hw := h.canonical_ne_nil
  obtain ⟨first, rest, rfl, hfirst, hrest⟩ := exists_firstLine body
  rw [← List.append_assoc, hasLine_append_of_end hw hrest]
  rintro (hline | hline)
  · rw [hasLine_of_not_mem hw (by simp [hfront, hfirst])] at hline
    cases first with
    | nil =>
      rcases hrest with rfl | ⟨more, rfl | rfl⟩ <;> exact absurd ink (by simp [isInk, isBlank])
    | cons c first =>
      obtain ⟨d, hd, hquote⟩ :=
        (h.spells hline).quote_mem rfl List.mem_cons_self (by simpa using ink)
      exact hbody d (List.mem_append_left rest hd) hquote
  · obtain ⟨line, hmem, hline⟩ := (hasLine_iff hw).mp hline
    have spells := h.spells hline
    obtain ⟨c, hc, hshown⟩ : ∃ c ∈ line, isInk c = true := by
      by_contra hnone
      obtain ⟨opening, closing, -, -, hruns⟩ := spells.runs
      have hgap : ∀ c ∈ line, isInk c = false := fun c hc => by
        simpa using fun hshown => hnone ⟨c, hc, hshown⟩
      rw [runsOf_eq_nil.mpr hgap] at hruns
      cases hruns
    obtain ⟨d, hd, hquote⟩ := spells.quote_mem (u := []) rfl hc hshown
    exact hbody d (List.mem_append_right first (subset_of_mem_pieces hmem hd)) hquote

/-- No import line runs over an opening parenthesis behind a text that shows something and holds no
    quote mark. -/
theorem not_hasLine_open (h : Imports symbol package wanted) {front called rest : Text}
    (hfront : '\n' ∉ front) (ink : called.head?.any isInk = true)
    (hcalled : ∀ c ∈ called, ¬ isQuoteMark c) (hrest : '\n' ∉ rest) :
    ¬ hasLine wanted (front ++ (called ++ '(' :: rest)) = true := by
  have hw := h.canonical_ne_nil
  have hopen : ∀ line : Text, '\n' ∉ line → '(' ∈ line → ¬ hasLine wanted line = true := by
    intro line hplain hmem hline
    rw [hasLine_of_not_mem hw hplain] at hline
    exact (h.spells hline).not_mem_parentheses h.symbol h.package (.inl rfl) hmem
  obtain ⟨above, line, rfl, habove, hline⟩ := exists_lastLine called
  rcases habove with rfl | ⟨above, rfl⟩
  · exact hopen _ (by simp [hfront, hline, hrest]) (by simp)
  · have hsplit : front ++ ((above ++ ['\n'] ++ line) ++ '(' :: rest) =
        (front ++ above) ++ '\n' :: (line ++ '(' :: rest) := by simp
    rw [hsplit, hasLine_append_newline hw]
    rintro (hline' | hline')
    · refine not_hasLine_behind h hfront ?_ (fun c hc => hcalled c (by simp [hc])) hline'
      cases above with
      | nil => exact absurd ink (by simp [isInk, isBlank])
      | cons c above => simpa using ink
    · exact hopen _ (by simp [hline, hrest]) (by simp) hline'

end Import

namespace Script

open Text Import

variable {host from_ : Text}

/-! ## The install call -/

/-- Whether a line starts with the word `import`. -/
def startsImport (line : Text) : Bool :=
  (afterWord keyword (trimStart line)).any (isBoundary (some 't') ·)

/-- Whether one of the lines that a call goes on over starts with the word `import`. -/
def spansImport (call : Text) : Bool := (pieces '\n' call).tail.any startsImport

theorem startsImport_of_spells {symbol package line : Text} (h : Spells symbol package line) :
    startsImport line = true := by
  obtain ⟨rest, hrest, hhead⟩ := h.trimStart_eq
  simp [startsImport, hrest, afterWord_eq_some_iff.mpr rfl, isBoundary, hhead,
    show isWordChar 't' = true by decide]

theorem installCall_reads (host symbol : Text) : (installCall host symbol).Reads :=
  .boundary <| .literal _ <| .run _ <| .literal _ <| .run _ <| .literal _ <| .run _ <|
    .literal _ <| .boundary <| .run _ <| .literal _ .finish

/-- An install call, taken apart: white space is all that stands between its words and signs, and
    its symbol ends where a word does. -/
theorem installCall_eq_some {symbol : Text} {last : Option Char} {text rest : Text}
    (h : installCall host symbol last text = some rest) :
    ∃ gap₁ gap₂ gap₃ inner, text = (host ++ (gap₁ ++ ('.' :: (gap₂ ++ ['u', 's', 'e'])))) ++
        '(' :: ((gap₃ ++ (symbol ++ inner)) ++ ')' :: rest) ∧
      (∀ c ∈ gap₁, isBlank c = true) ∧ (∀ c ∈ gap₂, isBlank c = true) ∧
      (∀ c ∈ gap₃, isBlank c = true) ∧ ')' ∉ inner ∧ isBoundary last text = true ∧
      ∃ earlier, isBoundary (Shape.behind earlier symbol) (inner ++ ')' :: rest) = true := by
  unfold installCall at h
  obtain ⟨hleft, h⟩ := Shape.boundary_eq_some.mp h
  obtain ⟨_, hhost, h⟩ := Shape.literal_eq_some.mp h
  obtain ⟨gap₁, _, hgap₁, hblank₁, h⟩ := Shape.run_eq_some h
  obtain ⟨_, hdot, h⟩ := Shape.literal_eq_some.mp h
  obtain ⟨gap₂, _, hgap₂, hblank₂, h⟩ := Shape.run_eq_some h
  obtain ⟨_, huse, h⟩ := Shape.literal_eq_some.mp h
  obtain ⟨gap₃, _, hgap₃, hblank₃, h⟩ := Shape.run_eq_some h
  obtain ⟨_, hsymbol, h⟩ := Shape.literal_eq_some.mp h
  obtain ⟨hright, h⟩ := Shape.boundary_eq_some.mp h
  obtain ⟨inner, _, hinner, hopen, h⟩ := Shape.run_eq_some h
  obtain ⟨_, hclose, h⟩ := Shape.literal_eq_some.mp h
  obtain rfl := Shape.finish_eq_some.mp h
  subst hhost hgap₁ hdot hgap₂ huse hgap₃ hsymbol hinner hclose
  exact ⟨gap₁, gap₂, gap₃, inner, by simp, hblank₁, hblank₂, hblank₃,
    fun hmem => by simpa using hopen _ hmem, hleft, _, hright⟩

/-- **No import line meets an install call** that takes none in with it. -/
theorem not_hasLine_installCall {symbol package wanted : Text} (h : Imports symbol package wanted)
    (hhost : IsSymbol host) {gap₁ gap₂ args front tail : Text}
    (hblank₁ : ∀ c ∈ gap₁, isBlank c = true) (hblank₂ : ∀ c ∈ gap₂, isBlank c = true)
    (spans : spansImport ((host ++ (gap₁ ++ ('.' :: (gap₂ ++ ['u', 's', 'e'])))) ++
      '(' :: (args ++ [')'])) = false) (hfront : '\n' ∉ front) (htail : '\n' ∉ tail) :
    ¬ hasLine wanted (front ++ (((host ++ (gap₁ ++ ('.' :: (gap₂ ++ ['u', 's', 'e'])))) ++
      '(' :: (args ++ [')'])) ++ tail)) = true := by
  have hw := h.canonical_ne_nil
  generalize hcalled : host ++ (gap₁ ++ ('.' :: (gap₂ ++ ['u', 's', 'e']))) = called at *
  have ink : called.head?.any isInk = true := by
    obtain ⟨c, more, rfl⟩ := List.exists_cons_of_ne_nil hhost.nonempty
    simpa [← hcalled] using hhost.ink c (by simp)
  have hquote : ∀ c ∈ called, ¬ isQuoteMark c := by
    have hword : ∀ c ∈ ['.', 'u', 's', 'e'], ¬ (c = '\'' ∨ c = '"') := by decide
    intro c hc
    simp only [← hcalled, List.mem_append, List.mem_cons] at hc
    rcases hc with hc | hc | rfl | hc | hc
    · exact hhost.noQuote c hc
    · exact not_isQuoteMark_of_isBlank (hblank₁ c hc)
    · exact hword _ (by simp)
    · exact not_isQuoteMark_of_isBlank (hblank₂ c hc)
    · exact hword c (List.mem_cons_of_mem _ (by simpa using hc))
  by_cases hbreak : '\n' ∈ args
  · -- the call goes on over other lines, and its last line ends with its parenthesis
    obtain ⟨args, more, rfl, hargs⟩ := List.eq_append_cons_of_mem hbreak
    have hspanned : called ++ '(' :: ((args ++ '\n' :: more) ++ [')']) =
        (called ++ '(' :: args) ++ '\n' :: (more ++ [')']) := by simp
    have hsplit : front ++ ((called ++ '(' :: ((args ++ '\n' :: more) ++ [')'])) ++ tail) =
        (front ++ (called ++ '(' :: args)) ++ '\n' :: (more ++ ([')'] ++ tail)) := by simp
    rw [hspanned, spansImport, pieces_append, List.tail_append_of_ne_nil (pieces_ne_nil _ _),
      List.any_append, Bool.or_eq_false_iff] at spans
    rw [hsplit, hasLine_append_newline hw]
    rintro (hline | hline)
    · exact not_hasLine_open h hfront ink hquote hargs hline
    · obtain ⟨line, hmem, hline⟩ := (hasLine_iff hw).mp hline
      have spells := h.spells hline
      obtain ⟨init, last, hmore, hclosed⟩ :=
        pieces_append_of_not_mem more (show '\n' ∉ [')'] by decide)
      obtain ⟨init', last', hmore', hbehind⟩ :=
        pieces_append_of_not_mem more (show '\n' ∉ [')'] ++ tail by simpa using htail)
      obtain ⟨rfl, hlast⟩ := List.append_inj' (hmore.symm.trans hmore') rfl
      rw [hbehind, List.mem_append, List.mem_singleton] at hmem
      rcases hmem with hmem | rfl
      · have := List.any_eq_false.mp spans.2 line (by simp [hclosed, hmem])
        exact this (startsImport_of_spells spells)
      · exact spells.not_mem_parentheses h.symbol h.package (.inr rfl) (by simp)
  · have hwhole : front ++ ((called ++ '(' :: (args ++ [')'])) ++ tail) =
        front ++ (called ++ '(' :: (args ++ ')' :: tail)) := by simp
    rw [hwhole]
    exact not_hasLine_open h hfront ink hquote (by simp [hbreak, htail])

variable {w : Wiring} {text : Text}

/-- **Swapping the install call keeps the import lines** that stand in no part of it. -/
theorem hasLine_swapInstallCall {symbol package wanted : Text} (h : Imports symbol package wanted)
    (hhost : IsSymbol w.host) (args : InstallArgs)
    (spans : ∀ p, findInstallCall w.host w.fromSymbol text = some p → spansImport p.body = false)
    (hline : hasLine wanted text = true) :
    hasLine wanted (swapInstallCall w args text) = true := by
  unfold swapInstallCall
  split
  · rename_i p hp
    obtain ⟨hwhole, hfits, -⟩ :=
      Shape.firstFrom_eq_some (installCall_reads w.host w.fromSymbol) hp
    obtain ⟨gap₁, gap₂, gap₃, inner, hcall, hblank₁, hblank₂, -⟩ := installCall_eq_some hfits
    have hbody : p.body = (w.host ++ (gap₁ ++ ('.' :: (gap₂ ++ ['u', 's', 'e'])))) ++
        '(' :: ((gap₃ ++ (w.fromSymbol ++ inner)) ++ [')']) :=
      (List.append_left_inj p.after).mp (by simpa using hcall)
    have hspans := spans p hp
    rw [hwhole] at hline
    rw [Passage.replaceWith, List.append_assoc]
    refine hasLine_replaced h.canonical_ne_nil hline fun front tail _ _ hfront htail => ?_
    rw [hbody] at hspans ⊢
    exact not_hasLine_installCall h hhost hblank₁ hblank₂ hspans hfront htail
  · exact hline

/-! ## The construction -/

theorem construction_reads (symbol : Text) : (construction symbol).Reads :=
  .boundary <| .literal _ <| .runOne _ <| .literal _ <| .boundary .finish

/-- What a construction is, whatever its symbol is made of. -/
theorem construction_eq_some_iff {symbol : Text} (hsymbol : ∃ c ∈ symbol.head?, isBlank c = false)
    {last : Option Char} {text rest : Text} : construction symbol last text = some rest ↔
      isBoundary last text = true ∧ ∃ gap, text = ['n', 'e', 'w'] ++ (gap ++ (symbol ++ rest)) ∧
        gap ≠ [] ∧ (∀ c ∈ gap, isBlank c = true) ∧ isBoundary symbol.getLast? rest = true := by
  obtain ⟨s₀, hs₀, hblank₀⟩ := hsymbol
  obtain ⟨symbol, rfl⟩ := List.head?_eq_some_iff.mp hs₀
  have hbehind : ∀ earlier, Shape.behind earlier (s₀ :: symbol) = (s₀ :: symbol).getLast? := by
    simp [Shape.behind, List.getLast?_cons]
  rw [construction, Shape.boundary_eq_some]
  refine and_congr_right fun _ => ⟨fun h => ?_, ?_⟩
  · obtain ⟨_, hnew, h⟩ := Shape.literal_eq_some.mp h
    obtain ⟨gap, _, hgap, hne, hblank, h⟩ := Shape.runOne_eq_some h
    obtain ⟨_, hname, h⟩ := Shape.literal_eq_some.mp h
    obtain ⟨hright, h⟩ := Shape.boundary_eq_some.mp h
    obtain rfl := Shape.finish_eq_some.mp h
    subst hnew hgap hname
    rw [hbehind] at hright
    exact ⟨gap, rfl, hne, hblank, hright⟩
  · rintro ⟨gap, rfl, hne, hblank, hright⟩
    rw [Shape.literal_append, Shape.runOne_append (Shape.excludes_literal hblank₀ _) hne hblank _
      (by simp [hblank₀]), Shape.literal_append, hbehind]
    exact Shape.boundary_eq_some.mpr ⟨hright, rfl⟩

/-- A construction, taken apart. -/
theorem construction_eq_some {symbol : Text} (hsymbol : IsName symbol) {last : Option Char}
    {text rest : Text} (h : construction symbol last text = some rest) :
    ∃ gap, text = ['n', 'e', 'w'] ++ (gap ++ (symbol ++ rest)) ∧ gap ≠ [] ∧
      (∀ c ∈ gap, isBlank c = true) ∧ last.any isWordChar = false ∧
      rest.head?.any isWordChar = false := by
  obtain ⟨hleft, gap, rfl, hne, hblank, hright⟩ :=
    (construction_eq_some_iff (exists_head_of_isIdentifier hsymbol.isIdentifier)).mp h
  obtain ⟨front, c, rfl⟩ := exists_concat hsymbol.nonempty
  have hc : isWordChar c = true := hsymbol.word c (by simp)
  refine ⟨gap, rfl, hne, hblank, ?_, by simpa [isBoundary, hc] using hright⟩
  simpa [isBoundary, show isWordChar 'n' = true by decide] using hleft

/-- What the search for a construction finds. -/
theorem findConstruction_eq_some {symbol : Text} (hsymbol : IsName symbol) {q : Passage}
    (hq : findConstruction symbol text = some q) :
    text = q.before ++ (q.body ++ q.after) ∧ q.before.getLast?.any isWordChar = false ∧
      (∃ gap, q.body = ['n', 'e', 'w'] ++ (gap ++ symbol) ∧ gap ≠ [] ∧
        ∀ c ∈ gap, isBlank c = true) ∧ q.after.head?.any isWordChar = false := by
  obtain ⟨hwhole, hfits, -⟩ := Shape.firstFrom_eq_some (construction_reads symbol) hq
  obtain ⟨gap, hfound, hne, hblank, hleft, hright⟩ := construction_eq_some hsymbol hfits
  have hbody : q.body = ['n', 'e', 'w'] ++ (gap ++ symbol) :=
    (List.append_left_inj q.after).mp (by simpa using hfound)
  exact ⟨hwhole, by simpa [Shape.behind] using hleft, ⟨gap, hbody, hne, hblank⟩, hright⟩

/-- **No import line meets a construction.** -/
theorem not_hasLine_construction {symbol package wanted : Text} (h : Imports symbol package wanted)
    {name gap front tail : Text} (hname : IsSymbol name) (hne : gap ≠ [])
    (hblank : ∀ c ∈ gap, isBlank c = true) (hfront : '\n' ∉ front) (htail : '\n' ∉ tail)
    (hleft : front.getLast?.any isWordChar = false) (hright : tail.head?.any isWordChar = false) :
    ¬ hasLine wanted (front ++ ((['n', 'e', 'w'] ++ (gap ++ name)) ++ tail)) = true := by
  have hw := h.canonical_ne_nil
  have hplain : '\n' ∉ name := fun hmem => absurd (hname.chars _ hmem) (by decide)
  obtain ⟨above, line, rfl, habove, hline⟩ := exists_lastLine gap
  rcases habove with rfl | ⟨above, rfl⟩
  · -- all on one line: the word `new` would be a word of the import
    obtain ⟨b, more, rfl⟩ := List.exists_cons_of_ne_nil hne
    rw [hasLine_of_not_mem hw (by simpa [hfront, htail, hplain] using hline)]
    intro heq
    exact (h.spells heq).no_new (u := front) (v := more ++ (name ++ tail)) h.symbol (by simp)
      (hblank b (by simp)) hleft
  · have hsplit : front ++ ((['n', 'e', 'w'] ++ ((above ++ ['\n'] ++ line) ++ name)) ++ tail) =
        (front ++ (['n', 'e', 'w'] ++ above)) ++ '\n' :: (line ++ (name ++ tail)) := by simp
    rw [hsplit, hasLine_append_newline hw]
    rintro (hline' | hline')
    · have ink : (['n', 'e', 'w'] ++ above).head?.any isInk = true :=
        show isInk 'n' = true by decide
      refine not_hasLine_behind h hfront ink (fun c hc => ?_) hline'
      rcases List.mem_append.mp hc with hc | hc
      · have hnew : ∀ c ∈ ['n', 'e', 'w'], ¬ (c = '\'' ∨ c = '"') := by decide
        exact hnew c hc
      · exact not_isQuoteMark_of_isBlank (hblank c (by simp [hc]))
    · rw [hasLine_of_not_mem hw (by simp [hline, hplain, htail])] at hline'
      obtain ⟨rest, hrest, hhead⟩ := (h.spells hline').trimStart_eq
      have htrim : trimStart (line ++ (name ++ tail)) = name ++ tail := by
        refine dropWhile_of_end (fun c hc => hblank c (by simp [hc])) ?_
        obtain ⟨c, name, rfl⟩ := List.exists_cons_of_ne_nil hname.nonempty
        simpa using hname.noBlank c (by simp)
      rw [htrim] at hrest
      have := word_unique hrest hname.word isWordChar_of_mem_keyword hright hhead
      exact hname.free (by simp [this, reservedWords])

/-- **Swapping the construction keeps the import lines.** -/
theorem hasLine_swapConstruction {symbol package wanted : Text}
    (h : Imports symbol package wanted) (hfrom : IsSymbol w.fromSymbol)
    (hline : hasLine wanted text = true) : hasLine wanted (swapConstruction w text) = true := by
  unfold swapConstruction
  split
  · rename_i p hp
    obtain ⟨hwhole, hleft, ⟨gap, hbody, hne, hblank⟩, hright⟩ :=
      findConstruction_eq_some hfrom.isName hp
    rw [hwhole] at hline
    rw [Passage.replaceWith, List.append_assoc]
    refine hasLine_replaced h.canonical_ne_nil hline
      fun front tail hbefore hafter hfront htail => ?_
    rw [hbody]
    exact not_hasLine_construction h hfrom hne hblank hfront htail
      (any_getLast?_of_isSuffix hbefore hleft) (any_head?_of_isPrefix hafter hright)
  · exact hline

end Script

namespace Import

open Text

theorem Imports.symbol_unique {symbol symbol' package package' line : Text}
    (h : Imports symbol package line) (h' : Imports symbol' package' line) : symbol = symbol' := by
  have := h.runs.symm.trans h'.runs
  simp only [List.cons.injEq, true_and] at this
  exact this.1

/-- Imports that are provided one after another: the symbols that are searched for, each with its
    line.  No search goes for a symbol that a line before provides. -/
structure Provided (imports : List (Text × Text)) : Prop where
  searched : ∀ i ∈ imports, IsSymbol i.1
  lines : ∀ i ∈ imports, ∃ symbol package, Imports symbol package i.2
  apart : imports.Pairwise fun i j => ∀ {symbol package}, Imports symbol package i.2 → j.1 ≠ symbol

/-- The text with one import after another provided. -/
def provideAll (imports : List (Text × Text)) (text : Text) : Text :=
  imports.foldl (fun text i => provide i.1 i.2 text) text

/-- Providing imports keeps a line whose name none of them searches for. -/
theorem hasLine_provideAll_other {imports : List (Text × Text)} {name module wanted text : Text}
    (h : ImportsName name module wanted) (searched : ∀ i ∈ imports, IsName i.1 ∧ i.1 ≠ name)
    (plain : ∀ i ∈ imports, ∀ c ∈ i.2, isLineEnd c = false)
    (paired : endsPaired text = true) (hline : hasLine wanted text = true) :
    hasLine wanted (provideAll imports text) = true := by
  induction imports generalizing text with
  | nil => exact hline
  | cons i imports ih =>
    obtain ⟨hname, hne⟩ := searched i (by simp)
    exact ih (fun j hj => searched j (by simp [hj])) (fun j hj => plain j (by simp [hj]))
      (endsPaired_provide hname.oneLine (plain i (by simp)) paired)
      (hasLine_provide_other hname h hne paired hline)

theorem Provided.plain {imports : List (Text × Text)} (h : Provided imports) :
    ∀ i ∈ imports, ∀ c ∈ i.2, isLineEnd c = false := by
  intro i hi
  obtain ⟨_, _, himport⟩ := h.lines i hi
  exact himport.plain

/-- **Every import that is provided is there in the end.** -/
theorem hasLine_provideAll {imports : List (Text × Text)} (h : Provided imports) {text : Text}
    (paired : endsPaired text = true) :
    ∀ i ∈ imports, hasLine i.2 (provideAll imports text) = true := by
  induction imports generalizing text with
  | nil => simp
  | cons i imports ih =>
    obtain ⟨hfirst, hrest⟩ := List.pairwise_cons.mp h.apart
    have hsymbol := h.searched i (by simp)
    obtain ⟨symbol, package, himport⟩ := h.lines i (by simp)
    have later : Provided imports := ⟨fun j hj => h.searched j (by simp [hj]),
      fun j hj => h.lines j (by simp [hj]), hrest⟩
    have paired' := endsPaired_provide hsymbol.oneLine himport.plain paired
    intro j hj
    rcases List.mem_cons.mp hj with rfl | hj
    · have hkept : hasLine j.2 (provideAll imports (provide j.1 j.2 text)) = true :=
        hasLine_provideAll_other himport.importsName (fun k hk =>
          ⟨(later.searched k hk).isName, hfirst k hk himport⟩) later.plain paired'
          (hasLine_provide hsymbol.oneLine himport.canonical_ne_nil himport.newline_not_mem paired)
      exact hkept
    · exact ih later paired' j hj

theorem provideAll_of_hasLine {imports : List (Text × Text)} {text : Text}
    (h : ∀ i ∈ imports, hasLine i.2 text = true) : provideAll imports text = text := by
  induction imports with
  | nil => rfl
  | cons i imports ih =>
    rw [provideAll, List.foldl_cons, provide_of_hasLine (h i (by simp))]
    exact ih fun j hj => h j (by simp [hj])

end Import

namespace Pass

open Text Import Script

variable {s : Settings} {withExamples : Bool} {text : Text}

/-! ## The router file -/

/-- The imports that a pass provides in the router file. -/
def routerProvides (s : Settings) (withExamples : Bool) : List (Text × Text) :=
  (s.router.fromSymbol, s.router.routerImportLine) ::
    if withExamples then Template.routerImports else []

/-- The text of the router file with all its imports, before the router is swapped. -/
def importedText (s : Settings) (withExamples : Bool) (text : Text) : Text :=
  provideAll (routerProvides s withExamples) text

/-- The edit of the router file is the imports, and the swap behind them. -/
theorem routerText_eq (s : Settings) (withExamples : Bool) (text : Text) :
    routerText s withExamples text = swapRouter s.router
      (if withExamples then exampleArgs s else {}) (importedText s withExamples text) := by
  cases withExamples <;> rfl

/-- Settings whose names and package can be told apart in a script. -/
structure ScriptNames (w : Wiring) : Prop where
  host : IsSymbol w.host
  fromSymbol : IsSymbol w.fromSymbol
  toSymbol : IsSymbol w.toSymbol
  i18nSymbol : IsSymbol w.i18nSymbol
  package : IsPackage w.package
  /-- The localized router has not the name of an example file's import. -/
  apart : w.toSymbol ∉ exampleSymbols

instance (w : Wiring) : Decidable (ScriptNames w) :=
  decidable_of_iff (IsSymbol w.host ∧ IsSymbol w.fromSymbol ∧ IsSymbol w.toSymbol ∧
      IsSymbol w.i18nSymbol ∧ IsPackage w.package ∧ ∀ symbol ∈ exampleSymbols, w.toSymbol ≠ symbol)
    ⟨fun ⟨host, fromSymbol, toSymbol, i18nSymbol, package, apart⟩ =>
      ⟨host, fromSymbol, toSymbol, i18nSymbol, package, fun h => apart _ h rfl⟩,
      fun h => ⟨h.host, h.fromSymbol, h.toSymbol, h.i18nSymbol, h.package,
        fun _ hsymbol heq => h.apart (heq ▸ hsymbol)⟩⟩

/-- The example files' imports can be provided one after another. -/
theorem routerImports_provided : Provided Template.routerImports where
  searched i hi := by
    obtain ⟨_, himport⟩ := imports_example hi
    exact himport.symbol
  lines i hi := by
    obtain ⟨_, himport⟩ := imports_example hi
    exact ⟨_, _, himport⟩
  apart := by
    have hne : Template.routerImports.Pairwise fun i j => j.1 ≠ i.1 := by decide
    refine hne.imp_of_mem fun hi _ hij symbol package himport' => ?_
    obtain ⟨_, himport⟩ := imports_example hi
    rwa [himport'.symbol_unique himport]

theorem routerProvides_provided (h : ScriptNames s.router) (withExamples : Bool) :
    Provided (routerProvides s withExamples) := by
  have himport := imports_importLine h.toSymbol h.package
  have examples := routerImports_provided
  have hexamples : ∀ i ∈ (if withExamples then Template.routerImports else []),
      i ∈ Template.routerImports := by
    cases withExamples <;> simp
  refine ⟨fun i hi => ?_, fun i hi => ?_, List.pairwise_cons.mpr ⟨fun i hi => ?_, ?_⟩⟩
  · rcases List.mem_cons.mp hi with rfl | hi
    · exact h.fromSymbol
    · exact examples.searched i (hexamples i hi)
  · rcases List.mem_cons.mp hi with rfl | hi
    · exact ⟨_, _, himport⟩
    · exact examples.lines i (hexamples i hi)
  · intro symbol package himport' heq
    rw [himport'.symbol_unique himport] at heq
    exact h.apart (heq ▸ List.mem_map_of_mem (f := Prod.fst) (hexamples i hi))
  · cases withExamples with
    | true => exact examples.apart
    | false => exact .nil

/-- Every import that the edit provides is there after it. -/
theorem hasLine_routerText (h : ScriptNames s.router) (paired : endsPaired text = true)
    (spans : ∀ p, findInstallCall s.router.host s.router.fromSymbol
      (importedText s withExamples text) = some p → spansImport p.body = false) :
    ∀ i ∈ routerProvides s withExamples, hasLine i.2 (routerText s withExamples text) = true := by
  have provided := routerProvides_provided h withExamples
  intro i hi
  obtain ⟨_, _, himport⟩ := provided.lines i hi
  rw [routerText_eq]
  exact hasLine_swapConstruction himport h.fromSymbol
    (hasLine_swapInstallCall himport h.host _ spans (hasLine_provideAll provided paired i hi))

/-- **The router file is finished after one edit**, as long as the edit leaves nothing of the stock
    router. -/
theorem routerText_routerText (h : ScriptNames s.router) (paired : endsPaired text = true)
    (spans : ∀ p, findInstallCall s.router.host s.router.fromSymbol
      (importedText s withExamples text) = some p → spansImport p.body = false)
    (installed : findInstallCall s.router.host s.router.fromSymbol
      (routerText s withExamples text) = none)
    (constructed : findConstruction s.router.fromSymbol (routerText s withExamples text) = none) :
    routerText s withExamples (routerText s withExamples text) =
      routerText s withExamples text := by
  conv => lhs; rw [routerText_eq, importedText, provideAll_of_hasLine
    (hasLine_routerText h paired spans)]
  simp only [swapRouter, swapInstallCall, swapConstruction, installed, constructed]

end Pass

end RouteLocalizer
