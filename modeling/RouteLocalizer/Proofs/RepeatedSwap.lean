/-
  Swapping the router AGAIN.

  An application swaps the first install call and the first construction of the stock router; a
  project has one router.  Where a text has more of them, the next application finds the second
  ones, so the question is how many applications it takes until nothing is left.

  1. **Fixed points** — an application leaves a text alone exactly when the stock router is neither
     installed nor constructed in it (`swapRouter_eq_self_iff`).  That the two swaps never undo each
     other has to be shown: the construction that is swapped may run into the call.

  2. **Counting** — each application takes a call and a construction away (`callCount_swapRouter`,
     `constructionCount_swapRouter`), so as many applications as there are of them settle a text.

  3. **The crux** — no place is made.  What is written starts with the word that stood there before,
     the host or `new`, so what runs into it from the front did so before (`inherits_…`), and it
     ends between words or in a word as before.  What starts within it is left to the names and the
     arguments: a localized router with the name `new` or that of the host, or a call that is passed
     as an argument, can make a place, and these are set apart.
-/
import Mathlib.Logic.Function.Iterate
import RouteLocalizer.Proofs.Rewiring

namespace RouteLocalizer

namespace Script

open Text Import

variable {host symbol : Text} {last : Option Char} {text rest : Text}

/-! ## One symbol at a place -/

/-- What stands in front of a construction matters only by whether it is a word character. -/
theorem construction_congr (hsymbol : IsName symbol) {last last' : Option Char}
    (h : last.any isWordChar = last'.any isWordChar) (text : Text) :
    construction symbol last text = construction symbol last' text :=
  Option.ext fun rest => by
    simp only [construction_iff hsymbol, h]

/-- A text that starts with a construction starts with that of one symbol. -/
theorem StartsConstruction.symbol_unique {other rest' : Text} (hsymbol : IsName symbol)
    (hother : IsName other) (h : StartsConstruction symbol text rest)
    (h' : StartsConstruction other text rest') : symbol = other := by
  obtain ⟨gap, htext, -, hblank, hrest⟩ := h
  obtain ⟨gap', htext', -, hblank', hrest'⟩ := h'
  have hnames : gap ++ (symbol ++ rest) = gap' ++ (other ++ rest') :=
    List.append_cancel_left (htext.symm.trans htext')
  have hstart : ∀ {name : Text}, IsName name → ∀ rest : Text,
      (name ++ rest).head?.any isBlank = false := by
    intro name hname rest
    obtain ⟨c, name, rfl⟩ := List.exists_cons_of_ne_nil hname.nonempty
    simpa using hname.noBlank c (by simp)
  obtain rfl := word_unique hnames hblank hblank' (hstart hsymbol rest) (hstart hother rest')
  exact word_unique (List.append_cancel_left hnames) hsymbol.word hother.word hrest hrest'

/-- In front of what is no white space there is no gap. -/
theorem gap_eq_nil {gap front text : Text} (h : front = gap ++ text)
    (hblank : ∀ c ∈ gap, isBlank c = true) (hfront : front.head?.any isBlank = false) :
    gap = [] := by
  cases gap with
  | nil => rfl
  | cons c gap =>
    have hc : isBlank c = true := hblank c (by simp)
    simp [h, hc] at hfront

/-- The symbol of an install call that is written without white space. -/
theorem StartsCall.symbol_eq {name t : Text} (hsymbol : IsName symbol) (hname : IsName name)
    (h : StartsCall host symbol (callHead host name t) rest)
    (ht : t.head?.any isWordChar = false) : symbol = name := by
  obtain ⟨gap₁, gap₂, gap₃, inner, htext, hblank₁, hblank₂, hblank₃, -, hinner⟩ := h
  have hdot : '.' :: (['u', 's', 'e'] ++ ('(' :: (name ++ t))) = gap₁ ++ ('.' :: (gap₂ ++
      (['u', 's', 'e'] ++ ('(' :: (gap₃ ++ (symbol ++ (inner ++ ')' :: rest))))))) := by
    rw [callHead_eq] at htext
    simpa using List.append_cancel_left htext
  obtain rfl := gap_eq_nil hdot hblank₁ rfl
  have huse := (List.cons.inj hdot).2
  obtain rfl := gap_eq_nil huse hblank₂ rfl
  have hopen := (List.cons.inj (List.append_cancel_left huse)).2
  obtain ⟨c, name', hc⟩ := List.exists_cons_of_ne_nil hname.nonempty
  obtain rfl := gap_eq_nil hopen hblank₃
    (by simpa [hc] using hname.noBlank c (by simp [hc]))
  have hnames : name ++ t = symbol ++ (inner ++ ')' :: rest) := by simpa using hopen
  refine (word_unique hnames hname.word hsymbol.word ht ?_).symm
  cases inner with
  | nil => exact (show isWordChar ')' = false by decide)
  | cons c inner => exact hinner

/-! ## What is written -/

variable {w : Wiring} {args : InstallArgs}

/-- The install call that is written, with what stands behind its symbol. -/
theorem installText_eq (w : Wiring) (args : InstallArgs) (newline : Text) :
    ∃ inner, installText w args newline = installed w.host w.toSymbol inner ∧
      ∀ c ∈ inner.head?, c = ',' := by
  unfold installText
  split
  · exact ⟨[], by rw [installed_eq, List.append_nil], by simp⟩
  · refine ⟨", " ++ args.render newline, ?_, ?_⟩
    · rw [installed_eq]
      simp only [List.append_assoc]
    · rintro c ⟨⟩
      rfl

/-- No construction goes on over a closing parenthesis. -/
theorem construction_closedBy (hsymbol : IsName symbol) : (construction symbol).ClosedBy ')' := by
  intro last front rest rest' h
  obtain ⟨more, h⟩ := Option.isSome_iff_exists.mp h
  obtain ⟨hlast, gap, htext, hgap, hblank, hmore⟩ := (construction_iff hsymbol).mp h
  have hplain : ')' ∉ ['n', 'e', 'w'] ++ (gap ++ symbol) := by
    have hopen : ')' ∉ gap := fun hmem => absurd (hblank _ hmem) (by decide)
    simp [hopen, hsymbol.not_mem_signs ')' (by decide)]
  have htext : front ++ ')' :: rest = (['n', 'e', 'w'] ++ (gap ++ symbol)) ++ more := by
    simpa using htext
  obtain ⟨u, rfl, rfl⟩ := exists_of_cut hplain htext
  refine Option.isSome_iff_exists.mpr ⟨u ++ ')' :: rest', (construction_iff hsymbol).mpr
    ⟨hlast, gap, by simp, hgap, hblank, ?_⟩⟩
  cases u with
  | nil => exact (show isWordChar ')' = false by decide)
  | cons d u => simpa using hmore

theorem installCall_nil (hhost : IsName host) (hsymbol : IsName symbol) (last : Option Char) :
    installCall host symbol last [] = none := by
  refine Option.eq_none_iff_forall_not_mem.mpr fun rest h => ?_
  obtain ⟨-, _, _, _, _, htext, -⟩ := (installCall_iff hhost hsymbol).mp h
  exact hhost.nonempty (List.append_eq_nil_iff.mp htext.symm).1

theorem construction_nil (hsymbol : IsName symbol) (last : Option Char) :
    construction symbol last [] = none := by
  refine Option.eq_none_iff_forall_not_mem.mpr fun rest h => ?_
  obtain ⟨-, _, htext, -⟩ := (construction_iff hsymbol).mp h
  cases htext

/-- No construction of another symbol starts in one, where its own symbol is not `new`. -/
theorem noConstruction_bareConstruction (hsymbol : IsName symbol) {name after : Text}
    (hname : IsName name) (hne : name ≠ symbol) (hnew : name ≠ ['n', 'e', 'w'])
    (hafter : after.head?.any isWordChar = false) :
    Shape.NoneIn (construction symbol) last (bareConstruction name) after := by
  have hleft : ∀ ⦃last text rest⦄, construction symbol last text = some rest →
      last.any isWordChar = false := fun _ _ _ h => ((construction_iff hsymbol).mp h).1
  rw [bareConstruction_eq]
  refine .append (noneIn_of_word hleft isWordChar_of_mem_new ?_)
    (.append (.singleton (construction_gap hsymbol (by decide)))
      (noneIn_of_word hleft hname.word ?_))
  · refine Option.eq_none_iff_forall_not_mem.mpr fun rest h => ?_
    have starts : StartsConstruction name (['n', 'e', 'w'] ++ ([' '] ++ name ++ after)) after :=
      ⟨[' '], by simp, by simp, by decide, hafter⟩
    exact hne (starts.symbol_unique hname hsymbol ((construction_iff hsymbol).mp h).2)
  · refine Option.eq_none_iff_forall_not_mem.mpr fun rest h => ?_
    obtain ⟨-, gap, htext, hgap, hblank, -⟩ := (construction_iff hsymbol).mp h
    obtain ⟨b, gap, rfl⟩ := List.exists_cons_of_ne_nil hgap
    have hb : isWordChar b = false := isWordChar_of_isBlank (hblank b (by simp))
    exact hnew (word_unique htext hname.word isWordChar_of_mem_new hafter hb)

/-! ## What is left of the stock router -/

/-- The names of a wiring, any words, of which the last two differ. -/
structure SwapNames (w : Wiring) : Prop where
  host : IsName w.host
  fromSymbol : IsName w.fromSymbol
  toSymbol : IsName w.toSymbol
  apart : w.toSymbol ≠ w.fromSymbol

instance (w : Wiring) : Decidable (SwapNames w) :=
  decidable_of_iff (IsName w.host ∧ IsName w.fromSymbol ∧ IsName w.toSymbol ∧
      w.toSymbol ≠ w.fromSymbol)
    ⟨fun ⟨host, fromSymbol, toSymbol, apart⟩ => ⟨host, fromSymbol, toSymbol, apart⟩,
      fun h => ⟨h.host, h.fromSymbol, h.toSymbol, h.apart⟩⟩

/-- A text that neither installs nor constructs the stock router. -/
structure Settled (w : Wiring) (text : Text) : Prop where
  call : findInstallCall w.host w.fromSymbol text = none
  construction : findConstruction w.fromSymbol text = none

instance (w : Wiring) (text : Text) : Decidable (Settled w text) :=
  decidable_of_iff (findInstallCall w.host w.fromSymbol text = none ∧
      findConstruction w.fromSymbol text = none)
    ⟨fun ⟨call, construction⟩ => ⟨call, construction⟩, fun h => ⟨h.call, h.construction⟩⟩

/-- Arguments of which the call that is written takes nothing of the stock router in with it. -/
def Inert (w : Wiring) (args : InstallArgs) : Prop :=
  ∀ newline ∈ [(['\n'] : Text), ['\r', '\n']], Settled w (installText w args newline)

instance (w : Wiring) (args : InstallArgs) : Decidable (Inert w args) :=
  inferInstanceAs (Decidable (∀ newline ∈ [(['\n'] : Text), ['\r', '\n']],
    Settled w (installText w args newline)))

/-- The number of places at which the stock router is installed. -/
def callCount (w : Wiring) (text : Text) : Nat :=
  Shape.countIn (installCall w.host w.fromSymbol) none text []

/-- The number of places at which the stock router is constructed. -/
def constructionCount (w : Wiring) (text : Text) : Nat :=
  Shape.countIn (construction w.fromSymbol) none text []

theorem settled_iff (names : SwapNames w) :
    Settled w text ↔ callCount w text = 0 ∧ constructionCount w text = 0 := by
  have hcall := Shape.firstOf_eq_none_iff (installCall_nil names.host names.fromSymbol) text
  have hconstruction := Shape.firstOf_eq_none_iff (construction_nil names.fromSymbol) text
  exact ⟨fun h => ⟨hcall.mp h.call, hconstruction.mp h.construction⟩,
    fun h => ⟨hcall.mpr h.1, hconstruction.mpr h.2⟩⟩

theorem swapRouter_of_settled (h : Settled w text) : swapRouter w args text = text := by
  have hcall : swapInstallCall w args text = text := by simp only [swapInstallCall, h.call]
  rw [swapRouter, hcall]
  simp only [swapConstruction, h.construction]

/-! ## In front of what is written -/

variable {front after : Text}

theorem installed_append (host symbol inner after : Text) :
    installed host symbol inner ++ after = callHead host symbol (inner ++ [')'] ++ after) := by
  simp [installed, callHead]

/-- An install call that starts in front of the one that is written, started there before. -/
theorem inherits_installCall_installed (names : SwapNames w) {t : Text}
    (hfront : front.getLast?.any isWordChar = false) (ht : t.head?.any isWordChar = false)
    (hclose : ')' ∈ t) (inner after : Text) :
    Shape.Inherits (installCall w.host w.fromSymbol) last front
      (installed w.host w.toSymbol inner ++ after) (w.host ++ t) := by
  have hdot : isWordChar '.' = false := by decide
  rw [installed_append, callHead_eq]
  exact inherits_installCall names.host names.fromSymbol hfront names.host.word
    names.host.nonempty hdot (by simp) (fun heq _ => ⟨t, by rw [heq], ht, hclose⟩)
    fun _ => List.mem_append_right _ hclose

/-- A construction that starts in front of the call that is written, started there before. -/
theorem inherits_construction_installed (names : SwapNames w) {t : Text}
    (hfront : front.getLast?.any isWordChar = false) (ht : t.head?.any isWordChar = false)
    (inner after : Text) :
    Shape.Inherits (construction w.fromSymbol) last front
      (installed w.host w.toSymbol inner ++ after) (w.host ++ t) := by
  have hdot : isWordChar '.' = false := by decide
  rw [installed_append, callHead_eq]
  refine inherits_construction names.fromSymbol hfront ?_ fun t' heq ht' => ⟨t, ?_, ht⟩
  · obtain ⟨c, host, hhost⟩ := List.exists_cons_of_ne_nil names.host.nonempty
    simpa [hhost] using names.host.word c (by simp [hhost])
  · rw [word_unique heq names.host.word names.fromSymbol.word hdot ht']

variable {gap name : Text}

/-- An install call that starts in front of the construction that is written, started there
    before. -/
theorem inherits_installCall_constructed (hhost : IsName host) (hsymbol : IsName symbol)
    (hname : IsName name) (hfront : front.getLast?.any isWordChar = false) (hgap : gap ≠ [])
    (hblank : ∀ c ∈ gap, isBlank c = true) :
    Shape.Inherits (installCall host symbol) last front (bareConstruction name ++ after)
      (['n', 'e', 'w'] ++ (gap ++ (symbol ++ after))) := by
  have hplain : ')' ∉ name := hname.not_mem_signs _ (by decide)
  have hlater : ')' ∈ [' '] ++ (name ++ after) → ')' ∈ gap ++ (symbol ++ after) := by
    intro hmem
    have : ')' ∈ after := by simpa [hplain] using hmem
    simp [this]
  have hright : (gap ++ (symbol ++ after)).head?.any isWordChar = false := by
    obtain ⟨b, gap, rfl⟩ := List.exists_cons_of_ne_nil hgap
    simpa using isWordChar_of_isBlank (hblank b (by simp))
  rw [bareConstruction_eq, List.append_assoc, List.append_assoc]
  refine inherits_installCall hhost hsymbol hfront (by decide) (by simp)
    (show isWordChar ' ' = false by decide) (by simp)
    (fun heq hmem => ⟨_, by rw [heq], hright, hlater hmem⟩) fun hmem => ?_
  rcases List.mem_append.mp hmem with hmem | hmem
  · exact absurd hmem (by decide)
  · exact List.mem_append_right _ (hlater hmem)

/-- A construction that starts in front of the one that is written, started there before. -/
theorem inherits_construction_constructed (hsymbol : IsName symbol)
    (hfront : front.getLast?.any isWordChar = false) (hgap : gap ≠ [])
    (hblank : ∀ c ∈ gap, isBlank c = true) :
    Shape.Inherits (construction symbol) last front (bareConstruction name ++ after)
      (['n', 'e', 'w'] ++ (gap ++ (symbol ++ after))) := by
  have hspace : isWordChar ' ' = false := by decide
  rw [bareConstruction_eq, List.append_assoc, List.append_assoc]
  refine inherits_construction hsymbol hfront (show isWordChar 'n' = true by decide)
    fun t heq ht => ?_
  obtain rfl := word_unique heq isWordChar_of_mem_new hsymbol.word hspace ht
  obtain ⟨b, gap, rfl⟩ := List.exists_cons_of_ne_nil hgap
  exact ⟨_, rfl, by simpa using isWordChar_of_isBlank (hblank b (by simp))⟩

/-! ## Each swap takes a place away -/

/-- The call that is written at the place of the first one: it ends as that does, and whatever
    starts in front of it did so before. -/
theorem installText_at (names : SwapNames w) {p : Passage}
    (hp : findInstallCall w.host w.fromSymbol text = some p) (args : InstallArgs)
    (newline : Text) :
    (∃ t, installText w args newline = t ++ [')']) ∧ (∃ t, p.body = t ++ [')']) ∧
      Shape.Inherits (installCall w.host w.fromSymbol) none p.before
        (installText w args newline ++ p.after) (p.body ++ p.after) ∧
      Shape.Inherits (construction w.fromSymbol) none p.before
        (installText w args newline ++ p.after) (p.body ++ p.after) := by
  obtain ⟨-, hbefore, starts, -⟩ := findInstallCall_eq_some names.host names.fromSymbol hp
  obtain ⟨c, t, hbody, hc⟩ := starts.body_eq
  obtain ⟨inner, hnew, -⟩ := installText_eq w args newline
  have hsplit : p.body ++ p.after = w.host ++ (c :: (t ++ ')' :: p.after)) := by
    simp [hbody]
  have hhead : (c :: (t ++ ')' :: p.after)).head?.any isWordChar = false := hc
  rw [hnew, hsplit]
  refine ⟨?_, ⟨w.host ++ c :: t, by simp [hbody]⟩,
    inherits_installCall_installed names hbefore hhead (by simp) inner p.after,
    inherits_construction_installed names hbefore hhead inner p.after⟩
  exact ⟨w.host ++ ('.' :: (['u', 's', 'e'] ++ ('(' :: (w.toSymbol ++ inner)))),
    by simp [installed]⟩

/-- The construction that is written at the place of the first one: it ends in a word as that does,
    and whatever starts in front of it did so before. -/
theorem bareConstruction_at (names : SwapNames w) {q : Passage}
    (hq : findConstruction w.fromSymbol text = some q) :
    (∀ last, (Shape.behind last (bareConstruction w.toSymbol)).any isWordChar =
        (Shape.behind last q.body).any isWordChar) ∧
      Shape.Inherits (installCall w.host w.fromSymbol) none q.before
        (bareConstruction w.toSymbol ++ q.after) (q.body ++ q.after) ∧
      Shape.Inherits (construction w.fromSymbol) none q.before
        (bareConstruction w.toSymbol ++ q.after) (q.body ++ q.after) := by
  obtain ⟨-, hbefore, ⟨gap, hbody, hgap, hblank⟩, -⟩ := findConstruction_eq_some names.fromSymbol hq
  have hsplit : q.body ++ q.after = ['n', 'e', 'w'] ++ (gap ++ (w.fromSymbol ++ q.after)) := by
    simp [hbody]
  rw [hsplit]
  refine ⟨fun last => ?_, inherits_installCall_constructed names.host names.fromSymbol
    names.toSymbol hbefore hgap hblank, inherits_construction_constructed names.fromSymbol hbefore
    hgap hblank⟩
  rw [hbody, ← List.append_assoc, any_behind names.fromSymbol, bareConstruction_eq,
    ← List.append_assoc, any_behind names.toSymbol]

theorem Inert.settled (h : Inert w args) (text : Text) :
    Settled w (installText w args (lineEnding text)) := h _ (lineEnding_mem text)

/-- Swapping the install call takes one of the calls away. -/
theorem callCount_swapInstallCall (names : SwapNames w) (inert : Inert w args) (text : Text) :
    callCount w (swapInstallCall w args text) ≤ callCount w text - 1 := by
  have closed := (installCall_stopsAt names.host names.fromSymbol).closedBy
  have hnil : ∀ last, installCall w.host w.fromSymbol last [] = none :=
    installCall_nil names.host names.fromSymbol
  unfold swapInstallCall
  split
  · rename_i p hp
    obtain ⟨-, hbefore, -⟩ := findInstallCall_eq_some names.host names.fromSymbol hp
    obtain ⟨⟨t, hnew⟩, ⟨t', hbody⟩, hinherits, -⟩ := installText_at names hp args (lineEnding text)
    have hsettled := (inert.settled text).call
    rw [hnew] at hinherits hsettled ⊢
    refine Shape.countIn_replaceWith (installCall_reads w.host w.fromSymbol) hp
      (by simp [hbody]) hinherits (closed.noneIn hnil (fun text => ?_) hsettled p.after)
      fun text => by rw [hbody, Shape.behind_concat, Shape.behind_concat]
    exact installCall_congr names.host names.fromSymbol (by simpa [Shape.behind] using hbefore) text
  · rename_i hnone
    have := (Shape.firstOf_eq_none_iff hnil _).mp hnone
    rw [callCount, this]

/-- Swapping the install call makes no construction. -/
theorem constructionCount_swapInstallCall (names : SwapNames w) (inert : Inert w args)
    (text : Text) :
    constructionCount w (swapInstallCall w args text) ≤ constructionCount w text := by
  have closed := construction_closedBy names.fromSymbol
  have hnil : ∀ last, construction w.fromSymbol last [] = none :=
    construction_nil names.fromSymbol
  unfold swapInstallCall
  split
  · rename_i p hp
    obtain ⟨hwhole, hbefore, -⟩ := findInstallCall_eq_some names.host names.fromSymbol hp
    obtain ⟨⟨t, hnew⟩, ⟨t', hbody⟩, -, hinherits⟩ := installText_at names hp args (lineEnding text)
    have hsettled := (inert.settled text).construction
    rw [hnew] at hinherits hsettled ⊢
    have hsplice := Shape.countIn_splice hinherits
      (closed.noneIn hnil (fun text => construction_congr names.fromSymbol
        (by simpa [Shape.behind] using hbefore) text) hsettled p.after)
      fun text => by rw [hbody, Shape.behind_concat, Shape.behind_concat]
    rw [← hwhole] at hsplice
    rw [Passage.replaceWith, List.append_assoc]
    exact Nat.le_trans (Nat.le_add_right _ _) hsplice
  · exact Nat.le_refl _

/-- Swapping the construction makes no install call, unless the new router has the host's name. -/
theorem callCount_swapConstruction (names : SwapNames w) (hne : w.toSymbol ≠ w.host)
    (text : Text) : callCount w (swapConstruction w text) ≤ callCount w text := by
  unfold swapConstruction
  split
  · rename_i q hq
    obtain ⟨hwhole, -, -, hright⟩ := findConstruction_eq_some names.fromSymbol hq
    obtain ⟨hbehind, hinherits, -⟩ := bareConstruction_at names hq
    have hwithin : Shape.NoneIn (installCall w.host w.fromSymbol) (Shape.behind none q.before)
        (bareConstruction w.toSymbol) q.after := by
      rw [bareConstruction_eq]
      exact noneIn_construction names.host names.fromSymbol names.toSymbol hne hright
    have hsplice := Shape.countIn_splice hinherits hwithin fun text =>
      installCall_congr names.host names.fromSymbol (hbehind _) text
    rw [← hwhole] at hsplice
    rw [Passage.replaceWith, List.append_assoc]
    exact Nat.le_trans (Nat.le_add_right _ _) hsplice
  · exact Nat.le_refl _

/-- Swapping the construction takes one of the constructions away, unless the new router has the
    name `new`. -/
theorem constructionCount_swapConstruction (names : SwapNames w)
    (hnew : w.toSymbol ≠ ['n', 'e', 'w']) (text : Text) :
    constructionCount w (swapConstruction w text) ≤ constructionCount w text - 1 := by
  have hnil : ∀ last, construction w.fromSymbol last [] = none :=
    construction_nil names.fromSymbol
  unfold swapConstruction
  split
  · rename_i q hq
    obtain ⟨-, -, ⟨gap, hbody, -⟩, hright⟩ := findConstruction_eq_some names.fromSymbol hq
    obtain ⟨hbehind, -, hinherits⟩ := bareConstruction_at names hq
    exact Shape.countIn_replaceWith (construction_reads w.fromSymbol) hq (by simp [hbody]) hinherits
      (noConstruction_bareConstruction names.fromSymbol names.toSymbol names.apart hnew hright)
      fun text => construction_congr names.fromSymbol (hbehind _) text
  · rename_i hnone
    have := (Shape.firstOf_eq_none_iff hnil _).mp hnone
    rw [constructionCount, this]

/-! ## Fixed points -/

theorem startsConstruction_bareConstruction (h : after.head?.any isWordChar = false) :
    StartsConstruction name (bareConstruction name ++ after) after :=
  ⟨[' '], by rw [bareConstruction_eq]; simp, by simp, by decide, h⟩

/-- A construction that is found, as its words. -/
theorem startsConstruction_of_find (hsymbol : IsName symbol) {q : Passage}
    (hq : findConstruction symbol text = some q) :
    StartsConstruction symbol (q.body ++ q.after) q.after := by
  obtain ⟨-, -, ⟨gap, hbody, hgap, hblank⟩, hright⟩ := findConstruction_eq_some hsymbol hq
  exact ⟨gap, by simp [hbody], hgap, hblank, hright⟩

/-- The character behind the symbol of the call that is written: a comma or the parenthesis. -/
theorem behind_installed {inner : Text} (hinner : ∀ c ∈ inner.head?, c = ',') (after : Text) :
    ∃ e more, inner ++ [')'] ++ after = e :: more ∧ isWordChar e = false ∧ isBlank e = false := by
  cases inner with
  | nil => exact ⟨')', after, rfl, by decide⟩
  | cons c inner =>
    obtain rfl := hinner c rfl
    exact ⟨',', inner ++ [')'] ++ after, rfl, by decide⟩

/-- No construction starts in the call that is written before its symbol has ended. -/
theorem call_behind_installed (names : SwapNames w) {inner z y rest : Text}
    (hinner : ∀ c ∈ inner.head?, c = ',')
    (h : installed w.host w.toSymbol inner ++ after = z ++ y)
    (hy : StartsConstruction symbol y rest) : ∃ e more, isWordChar e = false ∧
      z = callHead w.host w.toSymbol (e :: more) := by
  obtain ⟨e, tail, htail, hword, hblank⟩ := behind_installed hinner after
  have hsplit : callHead w.host w.toSymbol [e] ++ tail = z ++ y := by
    rw [← h, installed_append, htail]
    simp [callHead]
  have hunspaced : Unspaced (callHead w.host w.toSymbol [e]) :=
    unspaced_of_noBlank (List.forall_mem_append.mpr
      ⟨noBlank_call names.host names.toSymbol, by simpa using hblank⟩)
  have hlast : (callHead w.host w.toSymbol [e]).getLast?.any isWordChar = false := by
    rw [callHead, List.getLast?_concat]
    simpa using hword
  rcases append_cases hsplit with ⟨more, hz, -⟩ | ⟨u, hu, hhead, hstart⟩
  · exact ⟨e, more, hword, by simp [hz, callHead]⟩
  · -- the construction would start within the call's head
    obtain ⟨gap, htext, hgap, hblanks, -⟩ := hy
    have hsuffix : u <:+ callHead w.host w.toSymbol [e] := ⟨z, hhead.symm⟩
    exact absurd (hstart.symm.trans htext) ((hunspaced.suffix hsuffix).no_construction hu
      (any_getLast?_of_isSuffix hsuffix hlast) hgap hblanks)

/-- **The two swaps do not undo each other**: where the router is installed, the text changes. -/
theorem swapRouter_ne_self (names : SwapNames w) {p : Passage}
    (hp : findInstallCall w.host w.fromSymbol text = some p) (args : InstallArgs) :
    swapRouter w args text ≠ text := by
  obtain ⟨hwhole, -, starts, -⟩ := findInstallCall_eq_some names.host names.fromSymbol hp
  obtain ⟨-, -, -, hinherits⟩ := installText_at names hp args (lineEnding text)
  obtain ⟨inner, hnew, hinner⟩ := installText_eq w args (lineEnding text)
  have hswapped : swapInstallCall w args text =
      p.before ++ (installed w.host w.toSymbol inner ++ p.after) := by
    simp only [swapInstallCall, hp, Passage.replaceWith, hnew, List.append_assoc]
  -- the call in the text has the stock router's name
  have hcall : ∀ e more, isWordChar e = false →
      p.body ++ p.after ≠ callHead w.host w.toSymbol (e :: more) := by
    intro e more he heq
    rw [heq] at starts
    exact names.apart (starts.symbol_eq names.fromSymbol names.toSymbol he).symm
  intro hself
  rw [swapRouter, hswapped] at hself
  cases hq : findConstruction w.fromSymbol
    (p.before ++ (installed w.host w.toSymbol inner ++ p.after)) with
  | some q =>
    obtain ⟨hsplit, hleft, -, hright⟩ := findConstruction_eq_some names.fromSymbol hq
    have hstarts := startsConstruction_of_find names.fromSymbol hq
    have hwritten : q.before ++ (bareConstruction w.toSymbol ++ q.after) =
        p.before ++ (p.body ++ p.after) := by
      rw [← hwhole, ← swapConstruction_eq hq, hself]
    rcases append_cases hsplit with ⟨z, hz, hrest⟩ | ⟨u, hu, hz, hrest⟩
    · -- the construction stands behind the call's symbol, which is left as it was written
      obtain ⟨e, more, he, rfl⟩ := call_behind_installed names hinner hrest hstarts
      rw [hz, List.append_assoc] at hwritten
      exact hcall e (more ++ (bareConstruction w.toSymbol ++ q.after)) he
        (by rw [← List.append_cancel_left hwritten]; simp [callHead])
    · -- it stands in front of the call, and started there before
      obtain ⟨c, v, rfl⟩ := List.exists_cons_of_ne_nil hu
      have hold := hinherits q.before c v hz (by
        rw [hnew, ← hrest]
        exact Option.isSome_iff_exists.mpr ⟨_, (construction_iff names.fromSymbol).mpr
          ⟨by simpa [Shape.behind] using hleft, hstarts⟩⟩)
      obtain ⟨rest, hold⟩ := Option.isSome_iff_exists.mp hold
      rw [hz, List.append_assoc] at hwritten
      rw [← List.append_cancel_left hwritten] at hold
      exact names.apart ((startsConstruction_bareConstruction hright).symbol_unique names.toSymbol
        names.fromSymbol ((construction_iff names.fromSymbol).mp hold).2)
  | none =>
    obtain ⟨e, more, hhead, he, -⟩ := behind_installed hinner p.after
    simp only [swapConstruction, hq] at hself
    rw [hwhole] at hself
    refine hcall e more he ?_
    rw [← List.append_cancel_left hself, installed_append, hhead]

/-- **The fixed points** are the texts in which nothing of the stock router is left. -/
theorem swapRouter_eq_self_iff (names : SwapNames w) (args : InstallArgs) (text : Text) :
    swapRouter w args text = text ↔ Settled w text := by
  constructor
  · intro h
    have hcall : findInstallCall w.host w.fromSymbol text = none :=
      Option.eq_none_iff_forall_not_mem.mpr fun p hp => swapRouter_ne_self names hp args h
    refine ⟨hcall, Option.eq_none_iff_forall_not_mem.mpr fun q hq => ?_⟩
    obtain ⟨hwhole, -, -, hright⟩ := findConstruction_eq_some names.fromSymbol hq
    have hstarts := startsConstruction_of_find names.fromSymbol hq
    have hswapped : q.before ++ (bareConstruction w.toSymbol ++ q.after) =
        q.before ++ (q.body ++ q.after) := by
      have hunswapped : swapInstallCall w args text = text := by
        simp only [swapInstallCall, hcall]
      rw [swapRouter, hunswapped] at h
      rw [← hwhole, ← swapConstruction_eq hq, h]
    rw [← List.append_cancel_left hswapped] at hstarts
    exact names.apart ((startsConstruction_bareConstruction hright).symbol_unique names.toSymbol
      names.fromSymbol hstarts)
  · exact fun h => swapRouter_of_settled h

/-! ## One application after another -/

/-- Names and arguments with which no application makes a place for the next one. -/
structure MakesNoPlace (w : Wiring) (args : InstallArgs) : Prop where
  host : w.toSymbol ≠ w.host
  new : w.toSymbol ≠ ['n', 'e', 'w']
  inert : Inert w args

instance (w : Wiring) (args : InstallArgs) : Decidable (MakesNoPlace w args) :=
  decidable_of_iff (w.toSymbol ≠ w.host ∧ w.toSymbol ≠ ['n', 'e', 'w'] ∧ Inert w args)
    ⟨fun ⟨host, new, inert⟩ => ⟨host, new, inert⟩, fun h => ⟨h.host, h.new, h.inert⟩⟩

/-- One application takes away a call and a construction, where there are any. -/
theorem count_swapRouter (names : SwapNames w) (h : MakesNoPlace w args) (text : Text) :
    callCount w (swapRouter w args text) ≤ callCount w text - 1 ∧
      constructionCount w (swapRouter w args text) ≤ constructionCount w text - 1 := by
  have hcall := callCount_swapInstallCall names h.inert text
  have hconstruction := constructionCount_swapInstallCall names h.inert text
  rw [swapRouter]
  generalize swapInstallCall w args text = installed at *
  have hcall' := callCount_swapConstruction names h.host installed
  have hconstruction' := constructionCount_swapConstruction names h.new installed
  omega

theorem count_iterate (names : SwapNames w) (h : MakesNoPlace w args) (text : Text) (n : Nat) :
    callCount w ((swapRouter w args)^[n] text) ≤ callCount w text - n ∧
      constructionCount w ((swapRouter w args)^[n] text) ≤ constructionCount w text - n := by
  induction n with
  | zero => exact ⟨Nat.le_refl _, Nat.le_refl _⟩
  | succ n ih =>
    have hstep := count_swapRouter names h ((swapRouter w args)^[n] text)
    rw [Function.iterate_succ_apply']
    omega

/-- **Swapping the router again** changes nothing exactly when the stock router is gone, and it is
    gone after as many applications as it was installed and constructed at places of the text. -/
theorem swapRouter_again (names : SwapNames w) (args : InstallArgs) (text : Text) :
    (swapRouter w args (swapRouter w args text) = swapRouter w args text ↔
        Settled w (swapRouter w args text)) ∧
      (MakesNoPlace w args → ∀ n, callCount w text ≤ n → constructionCount w text ≤ n →
        swapRouter w args ((swapRouter w args)^[n] text) = (swapRouter w args)^[n] text) := by
  refine ⟨swapRouter_eq_self_iff names args _, fun h n hcalls hconstructions => ?_⟩
  obtain ⟨hcall, hconstruction⟩ := count_iterate names h text n
  refine swapRouter_of_settled ((settled_iff names).mpr ⟨?_, ?_⟩)
  · omega
  · omega

/-- Two calls and two constructions, of which the second ones stay for the second application. -/
theorem swapRouter_again_sample :
    let args : InstallArgs := ⟨some "en", some "translations", some "localizedURLs"⟩
    let text : Text := "new VueRouter(VueRouter)\r\nVue.use(VueRouter)\nVue . use( VueRouter)\n" ++
      "new  VueRouter()\n"
    let once := swapRouter {} args text
    ¬ Settled {} once ∧ swapRouter {} args once ≠ once ∧
      swapRouter {} args (swapRouter {} args once) = swapRouter {} args once := by
  intro args text once
  have hleft : ¬ Settled {} once := by decide +kernel
  obtain ⟨hfixed, hsettles⟩ := swapRouter_again (w := {}) (by decide +kernel) args text
  have htwice := hsettles (by decide +kernel) 2 (by decide +kernel) (by decide +kernel)
  rw [Function.iterate_succ_apply, Function.iterate_one] at htwice
  exact ⟨hleft, fun h => hleft (hfixed.mp h), htwice⟩

/-- **Once is not enough** for a second call and construction, nor for a single one where the new
    router is called `new` or as the host, or where an argument is a call itself. -/
theorem swapRouter_again_differs :
    let double : Text :=
      "Vue.use(VueRouter)\nVue.use(VueRouter)\nnew VueRouter()\nnew VueRouter()\n"
    let inputs : List (Wiring × InstallArgs × Text) := [({}, {}, double),
      ({ toSymbol := "new" }, {}, "new VueRouter VueRouter"),
      ({ toSymbol := "Vue" }, {}, "new VueRouter.use(VueRouter)"),
      ({}, { messages := some "Vue.use(VueRouter)" }, "Vue.use(VueRouter)")]
    (∀ i ∈ inputs, SwapNames i.1 ∧ swapRouter i.1 i.2.1 (swapRouter i.1 i.2.1 i.2.2) ≠
      swapRouter i.1 i.2.1 i.2.2) ∧
    ∀ i ∈ inputs.tail, callCount i.1 i.2.2 ≤ 1 ∧ constructionCount i.1 i.2.2 ≤ 1 := by
  decide +kernel

end Script

end RouteLocalizer
