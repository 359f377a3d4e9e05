/-
  REWIRING a router file touches three places: the line that imports the stock router, the call that
  installs it and the expression that constructs it.  Every other character stays where it was.

  The three edits are searches, one after another, each in the text that the edit before has left.
  So the crux is that no edit makes a find for the searches after it and none hides one.  A find
  runs over words and white space, and where it crosses the border of what was edited it has to read
  the first word behind the border as its own; that word is `import` in front of the new line and
  the host in front of the new call, and neither has changed what the search would make of it.
  Within the new line nothing starts: it opens no parenthesis and has no word `new` in front of
  white space.

  SPECIFICATION, one statement for each edit and each search that comes after it:
  (1) `construction_iff` — a construction from both sides, and `StartsConstruction.word` where it
      ends;
  (2) `findInstallCall_provided`, `noConstruction_provided` — the new import line;
  (3) `noConstruction_swapCall`, `findConstruction_swapped` — the new install call.
-/
import RouteLocalizer.Proofs.InstallCall

namespace RouteLocalizer

namespace Script

open Text Import

variable {host symbol : Text} {last : Option Char} {text rest : Text}

/-! ## Constructions, word by word -/

/-- A text that starts with a construction, taken apart. -/
def StartsConstruction (symbol text rest : Text) : Prop :=
  ∃ gap, text = ['n', 'e', 'w'] ++ (gap ++ (symbol ++ rest)) ∧ gap ≠ [] ∧
    (∀ c ∈ gap, isBlank c = true) ∧ rest.head?.any isWordChar = false

/-- **A construction, from both sides**: what it takes, and that all of this is one. -/
theorem construction_iff (hsymbol : IsName symbol) :
    construction symbol last text = some rest ↔
      last.any isWordChar = false ∧ StartsConstruction symbol text rest := by
  constructor
  · intro h
    obtain ⟨gap, htext, hne, hblank, hlast, hrest⟩ := construction_eq_some hsymbol h
    exact ⟨hlast, gap, htext, hne, hblank, hrest⟩
  · rintro ⟨hlast, gap, rfl, hne, hblank, hrest⟩
    have hn : isWordChar 'n' = true := by decide
    have hbehind : Shape.behind none symbol = symbol.getLast? := by simp [Shape.behind]
    refine (construction_eq_some_iff (exists_head_of_isIdentifier hsymbol.isIdentifier)).mpr
      ⟨by simp [isBoundary, hn, hlast], gap, rfl, hne, hblank, ?_⟩
    rw [← hbehind, boundary_behind hsymbol, hrest]
    rfl

/-- **A construction does not run into a word** behind it, unless that is its symbol. -/
theorem StartsConstruction.word {w y : Text} (hsymbol : IsName symbol)
    (h : StartsConstruction symbol (w ++ y) rest) (hw : w ≠ [])
    (hlast : w.getLast?.any isWordChar = false) (hy : y.head?.any isWordChar = true) :
    (∃ gap, w = ['n', 'e', 'w'] ++ gap ∧ gap ≠ [] ∧ (∀ c ∈ gap, isBlank c = true) ∧
      y = symbol ++ rest) ∨ ∀ y', ∃ rest', StartsConstruction symbol (w ++ y') rest' := by
  obtain ⟨gap, htext, hne, hblank, hrest⟩ := h
  obtain ⟨w₁, rfl, -, hlast₁, htext₁⟩ := split_word isWordChar_of_mem_new hw hlast htext
  obtain ⟨w₂, rfl, htext₂⟩ := split_gap (fun c hc => isWordChar_of_isBlank (hblank c hc)) hy htext₁
  by_cases hw₂ : w₂ = []
  · subst hw₂
    exact .inl ⟨gap, by simp, hne, hblank, htext₂⟩
  · -- the construction ends in front of the word
    have hlast₂ := any_getLast?_of_isSuffix (List.suffix_append gap w₂) hlast₁
    obtain ⟨w₃, rfl, hw₃, -, rfl⟩ := split_word hsymbol.word hw₂ hlast₂ htext₂
    obtain ⟨c, w₃, rfl⟩ := List.exists_cons_of_ne_nil hw₃
    exact .inr fun y' => ⟨c :: w₃ ++ y', gap, by simp, hne, hblank, by simpa using hrest⟩

/-- No construction starts at a character between words. -/
theorem construction_gap (hsymbol : IsName symbol) {c : Char} (hc : isWordChar c = false) :
    construction symbol last (c :: text) = none := by
  by_contra h
  obtain ⟨rest, h⟩ := Option.ne_none_iff_exists'.mp h
  obtain ⟨-, gap, htext, -⟩ := (construction_iff hsymbol).mp h
  obtain ⟨rfl, -⟩ := List.cons.inj htext
  exact absurd hc (by decide)

/-- **A construction in front of a word** was there in front of another text too, unless the word
    is its symbol and the other text does not start with that. -/
theorem inherits_construction (hsymbol : IsName symbol) {front y y' : Text}
    (hfront : front.getLast?.any isWordChar = false) (hy' : y'.head?.any isWordChar = true)
    (hother : ∀ t, y' = symbol ++ t → t.head?.any isWordChar = false →
      ∃ t', y = symbol ++ t' ∧ t'.head?.any isWordChar = false) :
    Shape.Inherits (construction symbol) last front y' y := by
  intro u c v huv hfound
  obtain ⟨rest, hfound⟩ := Option.isSome_iff_exists.mp hfound
  obtain ⟨hlast, starts⟩ := (construction_iff hsymbol).mp hfound
  have hlater : (c :: v).getLast?.any isWordChar = false :=
    any_getLast?_of_isSuffix ⟨u, huv.symm⟩ hfront
  obtain ⟨-, -, -, -, hrest⟩ := id starts
  suffices hold : ∃ rest', StartsConstruction symbol (c :: v ++ y) rest' by
    obtain ⟨rest', hold⟩ := hold
    exact Option.isSome_iff_exists.mpr ⟨rest', (construction_iff hsymbol).mpr ⟨hlast, hold⟩⟩
  rcases starts.word hsymbol (by simp) hlater hy' with ⟨gap, hgap, hne, hblank, hy⟩ | hstays
  · obtain ⟨t', rfl, ht'⟩ := hother _ hy hrest
    exact ⟨t', gap, by simp [hgap], hne, hblank, ht'⟩
  · exact hstays y

/-- **No construction starts in front of a word** where none started in front of another text that
    stood there, unless the word is its symbol. -/
theorem noConstruction_before (hsymbol : IsName symbol) {front y y' : Text}
    (h : Shape.NoneIn (construction symbol) last front y)
    (hfront : front.getLast?.any isWordChar = false) (hy' : y'.head?.any isWordChar = true)
    (hother : ∀ t, y' = symbol ++ t → t.head?.any isWordChar = false →
      ∃ t', y = symbol ++ t' ∧ t'.head?.any isWordChar = false) :
    Shape.NoneIn (construction symbol) last front y' :=
  (inherits_construction hsymbol hfront hy' hother).noneIn h

/-! ## Nothing starts in what is written -/

/-- No install call starts in a text that ends with a quote and opens no parenthesis. -/
theorem noInstallCall_quoted (hhost : IsSymbol host) (hsymbol : IsSymbol symbol) {line : Text}
    (hopen : '(' ∉ line) (hquote : line.getLast? = some '\'') :
    Shape.NoneIn (installCall host symbol) last line rest := by
  rintro u c v rfl
  by_contra hcall
  obtain ⟨rest', hcall⟩ := Option.ne_none_iff_exists'.mp hcall
  obtain ⟨-, gap₁, gap₂, gap₃, inner, htext, hblank₁, hblank₂, -⟩ :=
    (installCall_iff hhost.isName hsymbol.isName).mp hcall
  have hsplit : (c :: v) ++ rest = (host ++ (gap₁ ++ '.' :: (gap₂ ++ ['u', 's', 'e']))) ++
      '(' :: (gap₃ ++ (symbol ++ (inner ++ ')' :: rest'))) := by
    rw [htext]
    simp
  have hmem : '\'' ∈ c :: v := List.mem_of_getLast? (by simpa [List.getLast?_append] using hquote)
  rcases append_cases hsplit with ⟨z, hhead, -⟩ | ⟨z, hz, hcv, htail⟩
  · -- the quote would stand in front of the call's parenthesis
    have hquote : '\'' ∈ host ++ (gap₁ ++ '.' :: (gap₂ ++ ['u', 's', 'e'])) := by
      rw [hhead]
      exact List.mem_append_left _ hmem
    have hnone : ∀ {gap : Text}, (∀ c ∈ gap, isBlank c = true) → '\'' ∉ gap :=
      fun hgap hmem => absurd (hgap _ hmem) (by decide)
    simp [hnone hblank₁, hnone hblank₂, hhost.not_mem_signs '\'' (by decide)] at hquote
  · obtain ⟨d, z, rfl⟩ := List.exists_cons_of_ne_nil hz
    obtain ⟨rfl, -⟩ := List.cons.inj htail
    exact hopen (List.mem_append_right u (by simp [hcv]))

/-- No construction starts in a text without white space that ends between words. -/
theorem noConstruction_unspaced (hsymbol : IsSymbol symbol) (h : Unspaced text)
    (hlast : text.getLast?.any isWordChar = false) :
    Shape.NoneIn (construction symbol) last text rest := by
  rintro u c v rfl
  by_contra hfound
  obtain ⟨rest', hfound⟩ := Option.ne_none_iff_exists'.mp hfound
  obtain ⟨-, gap, htext, hne, hblank, -⟩ := (construction_iff hsymbol.isName).mp hfound
  exact (h.suffix (List.suffix_append u _)).no_construction (by simp)
    (any_getLast?_of_isSuffix (List.suffix_append u _) hlast) hne hblank htext

/-- No construction starts in an import line that ends with its quote. -/
theorem noConstruction_imports {name package line : Text} (hsymbol : IsSymbol symbol)
    (h : Imports name package line) (hquote : line.getLast? = some '\'') :
    Shape.NoneIn (construction symbol) last line rest := by
  rintro u c v rfl
  by_contra hfound
  obtain ⟨rest', hfound⟩ := Option.ne_none_iff_exists'.mp hfound
  obtain ⟨hleft, gap, htext, hne, hblank, -⟩ := (construction_iff hsymbol.isName).mp hfound
  have hend : (c :: v).getLast?.any isWordChar = false :=
    any_getLast?_of_isSuffix (List.suffix_append u _)
      (by rw [hquote]; exact (show isWordChar '\'' = false by decide))
  obtain ⟨w, hw, hwne, -, hcut⟩ := split_word isWordChar_of_mem_new (by simp) hend htext
  -- the line itself has the word `new` and a blank behind it
  obtain ⟨b, gap, rfl⟩ := List.exists_cons_of_ne_nil hne
  obtain ⟨d, w, rfl⟩ := List.exists_cons_of_ne_nil hwne
  obtain ⟨rfl, -⟩ := List.cons.inj hcut
  refine (h.spells rfl).no_new h.symbol (u := u) (by rw [hw]) (hblank d (by simp)) ?_
  cases hu : u.getLast? with
  | none => rfl
  | some e => simpa [Shape.behind, hu] using hleft

/-! ## The file around its three places -/

/-- The install call of a symbol without further arguments. -/
def bareCall (host symbol : Text) : Text := host ++ ".use(" ++ symbol ++ ")"

/-- The construction of a symbol, with one space. -/
def bareConstruction (symbol : Text) : Text := "new " ++ symbol

theorem bareCall_eq (host symbol : Text) : bareCall host symbol = installed host symbol [] := by
  rw [bareCall, installed_eq, List.append_nil]

theorem bareConstruction_eq (symbol : Text) :
    bareConstruction symbol = ['n', 'e', 'w'] ++ ([' '] ++ symbol) := by
  have hnew : ("new " : Text) = ['n', 'e', 'w'] ++ [' '] := by decide
  rw [bareConstruction, hnew, List.append_assoc]

theorem swapConstruction_eq {w : Wiring} {q : Passage}
    (hq : findConstruction w.fromSymbol text = some q) :
    swapConstruction w text = q.before ++ (bareConstruction w.toSymbol ++ q.after) := by
  simp only [swapConstruction, hq, Passage.replaceWith, List.append_assoc]
  rfl

/-- A bare call starts with its host and a dot. -/
theorem bareCall_append (host symbol more : Text) : ∃ t,
    bareCall host symbol ++ more = host ++ '.' :: t := by
  rw [bareCall_eq]
  exact ⟨_, by rw [installed, List.append_assoc, List.cons_append]⟩

/-- A bare call ends with a parenthesis behind its symbol. -/
theorem bareCall_concat (host symbol : Text) : bareCall host symbol =
    (host ++ ('.' :: (['u', 's', 'e'] ++ ('(' :: symbol)))) ++ [')'] := by
  rw [bareCall_eq]
  simp [installed]

theorem unspaced_bareCall (hhost : IsSymbol host) (hsymbol : IsSymbol symbol) :
    Unspaced (bareCall host symbol) := by
  rw [bareCall_concat]
  exact unspaced_of_noBlank (List.forall_mem_append.mpr
    ⟨noBlank_call hhost.isName hsymbol.isName, by decide⟩)

theorem getLast?_bareCall (host symbol : Text) : (bareCall host symbol).getLast? = some ')' := by
  rw [bareCall_concat, List.getLast?_concat]

/-- What a router file holds around the import of the router, its install call and its
    construction. -/
structure Surroundings where
  /-- The text in front of the import. -/
  above : Text
  /-- The text between the import and the call. -/
  between : Text
  /-- The text between the call and the construction. -/
  below : Text
  /-- The text behind the construction. -/
  behind : Text
deriving DecidableEq, Repr

namespace Surroundings

/-- The file with the three in their places. -/
def fill (s : Surroundings) (imported call construction : Text) : Text :=
  s.above ++ (imported ++ (s.between ++ (call ++ (s.below ++ (construction ++ s.behind)))))

/-- The file of the stock router. -/
def stock (s : Surroundings) (w : Wiring) (imported : Text) : Text :=
  s.fill imported (bareCall w.host w.fromSymbol) (bareConstruction w.fromSymbol)

/-- The file of the localized router. -/
def localized (s : Surroundings) (w : Wiring) : Text :=
  s.fill w.routerImportLine (bareCall w.host w.toSymbol) (bareConstruction w.toSymbol)

/-- The three places are the ones that the searches find in the file of the stock router. -/
structure Found (s : Surroundings) (w : Wiring) (imported : Text) : Prop where
  alone : findStandalone w.fromSymbol (s.stock w imported) = some (.standalone ⟨s.above, imported,
    s.between ++ (bareCall w.host w.fromSymbol ++
      (s.below ++ (bareConstruction w.fromSymbol ++ s.behind)))⟩)
  call : findInstallCall w.host w.fromSymbol (s.stock w imported) =
    some ⟨s.above ++ (imported ++ s.between), bareCall w.host w.fromSymbol,
      s.below ++ (bareConstruction w.fromSymbol ++ s.behind)⟩
  construction : findConstruction w.fromSymbol (s.stock w imported) =
    some ⟨s.above ++ (imported ++ (s.between ++ (bareCall w.host w.fromSymbol ++ s.below))),
      bareConstruction w.fromSymbol, s.behind⟩

end Surroundings

/-! ## One edit after another -/

variable {s : Surroundings} {w : Wiring} {imported : Text}

/-- In front of a line no word goes on. -/
theorem not_word_of_atLineStart {front : Text} (h : AtLineStart front) :
    front.getLast?.any isWordChar = false := by
  rcases h with rfl | ⟨front, rfl⟩
  · rfl
  · rw [List.getLast?_concat]
    exact (show isWordChar '\n' = false by decide)

/-- Behind a line no word goes on. -/
theorem not_word_of_atLineEnd {behind : Text} (h : AtLineEnd behind) :
    behind.head?.any isWordChar = false := by
  have hend : isWordChar '\n' = false ∧ isWordChar '\r' = false := by decide
  rcases h with rfl | ⟨more, rfl | rfl⟩
  · rfl
  · exact hend.1
  · exact hend.2

/-- The line that imports the localized router starts with its keyword and ends with its quote. -/
theorem routerImportLine_ends (w : Wiring) :
    (∃ t, w.routerImportLine = keyword ++ ' ' :: t) ∧ w.routerImportLine.getLast? = some '\'' := by
  have hopening : ("import \x7b " : Text) = keyword ++ [' ', '\x7b', ' '] := by decide
  have hclosing : ("'" : Text) = ['\''] := by decide
  unfold Wiring.routerImportLine Wiring.importLine
  rw [hclosing, hopening, List.getLast?_concat]
  generalize (" \x7d from '" : Text) = closing
  refine ⟨⟨['\x7b', ' '] ++ (w.toSymbol ++ (closing ++ (w.package ++ ['\'']))), ?_⟩, rfl⟩
  simp only [List.append_assoc, List.cons_append, List.nil_append]

/-- The names of a wiring that a router file is searched for. -/
structure RouterNames (w : Wiring) : Prop where
  host : IsSymbol w.host
  fromSymbol : IsSymbol w.fromSymbol
  toSymbol : IsSymbol w.toSymbol
  package : IsPackage w.package

instance (w : Wiring) : Decidable (RouterNames w) :=
  decidable_of_iff (IsSymbol w.host ∧ IsSymbol w.fromSymbol ∧ IsSymbol w.toSymbol ∧
      IsPackage w.package)
    ⟨fun ⟨host, fromSymbol, toSymbol, package⟩ => ⟨host, fromSymbol, toSymbol, package⟩,
      fun h => ⟨h.host, h.fromSymbol, h.toSymbol, h.package⟩⟩

/-- The import is provided in its place. -/
theorem provide_stock (found : s.Found w imported)
    (missing : hasLine w.routerImportLine (s.stock w imported) = false) :
    provide w.fromSymbol w.routerImportLine (s.stock w imported) =
      s.stock w w.routerImportLine := by
  have hfind : find w.fromSymbol (s.stock w imported) = some (.standalone ⟨s.above, imported,
      s.between ++ (bareCall w.host w.fromSymbol ++
        (s.below ++ (bareConstruction w.fromSymbol ++ s.behind)))⟩) := by
    rw [find, found.alone]
    rfl
  rw [provide, missing, if_neg Bool.false_ne_true, hfind]
  simp only [Passage.replaceWith, Surroundings.stock, Surroundings.fill, List.append_assoc]

/-- The import stands between the start and the end of a line, and a line end is not the call. -/
theorem borders_of_found (found : s.Found w imported) (names : RouterNames w)
    (paired : endsPaired (s.stock w imported) = true) :
    s.above.getLast?.any isWordChar = false ∧
      ∃ b more, s.between = b :: more ∧ isWordChar b = false := by
  have hwhole := standalone_wholeLine names.fromSymbol.oneLine paired found.alone
  refine ⟨not_word_of_atLineStart hwhole.starts, ?_⟩
  have hbehind := not_word_of_atLineEnd hwhole.ends
  cases hbetween : s.between with
  | nil =>
    -- the line would go on with the host
    obtain ⟨c, host, hhost⟩ := List.exists_cons_of_ne_nil names.host.nonempty
    have hc := names.host.word c (by simp [hhost])
    simp [hbetween, bareCall, hhost, hc] at hbehind
  | cons b more => exact ⟨b, more, rfl, by simpa [hbetween] using hbehind⟩

/-- What stands in front of the install call does not depend on the import line. -/
theorem behind_between {b : Char} {more : Text} (hb : s.between = b :: more) (line' : Text)
    {line : Text} : Shape.behind none (s.above ++ (line ++ s.between)) =
      Shape.behind none (s.above ++ (line' ++ s.between)) := by
  simp only [Shape.behind_append, hb, Shape.behind_cons]

/-- **Providing the import leaves the install call the first one.** -/
theorem findInstallCall_provided (found : s.Found w imported) (names : RouterNames w)
    (paired : endsPaired (s.stock w imported) = true) :
    findInstallCall w.host w.fromSymbol (s.stock w w.routerImportLine) =
      some ⟨s.above ++ (w.routerImportLine ++ s.between), bareCall w.host w.fromSymbol,
        s.below ++ (bareConstruction w.fromSymbol ++ s.behind)⟩ := by
  obtain ⟨habove, b, more, hb, hword⟩ := borders_of_found found names paired
  obtain ⟨⟨t, hline⟩, hquote⟩ := routerImportLine_ends w
  obtain ⟨-, hfits, hearlier⟩ :=
    Shape.firstFrom_eq_some (installCall_reads w.host w.fromSymbol) found.call
  have hsplit : s.stock w w.routerImportLine = (s.above ++ (w.routerImportLine ++ s.between)) ++
      (bareCall w.host w.fromSymbol ++
        (s.below ++ (bareConstruction w.fromSymbol ++ s.behind))) := by
    simp only [Surroundings.stock, Surroundings.fill, List.append_assoc]
  rw [hsplit]
  refine Shape.firstFrom_of_fits (by rwa [behind_between hb imported]) ?_
  refine Shape.NoneIn.splice imported hearlier (fun h => ?_) ?_ (fun h => h.recut ?_)
  · -- in front of the new line: a call would have to run into the keyword
    rw [hline, List.append_assoc, List.cons_append]
    refine noneIn_before names.host.isName names.fromSymbol.isName h habove (by decide)
      (by decide) ?_ (show isWordChar ' ' = false by decide) (by simp) fun _ => ?_
    · exact fun heq => names.fromSymbol.free (by simp [← heq, reservedWords])
    · simp [bareCall_eq, installed]
  · -- in the new line: it opens no parenthesis
    have himports := imports_importLine names.toSymbol names.package
    exact noInstallCall_quoted names.host names.fromSymbol
      ((himports.spells rfl).not_mem_parentheses names.toSymbol names.package (.inl rfl)) hquote
  · -- behind the new line: a line end comes first
    intro c v hcv
    obtain ⟨rfl, -⟩ := List.cons.inj (hb.symm.trans hcv)
    exact noneIn_gap names.host.isName names.fromSymbol.isName hword [] b [] rfl

/-- No word runs into the install call, whatever line stands in front of it. -/
theorem not_word_before_call (found : s.Found w imported) (names : RouterNames w)
    (paired : endsPaired (s.stock w imported) = true) (line : Text) :
    (s.above ++ (line ++ s.between)).getLast?.any isWordChar = false := by
  obtain ⟨-, b, more, hb, -⟩ := borders_of_found found names paired
  obtain ⟨-, hcall, -⟩ :=
    Shape.firstFrom_eq_some (installCall_reads w.host w.fromSymbol) found.call
  have hword := ((installCall_iff names.host.isName names.fromSymbol.isName).mp hcall).1
  rw [behind_between hb line] at hword
  simpa only [Shape.behind, Option.or_none] using hword

/-- **Providing the import makes no construction** in front of the one that is there. -/
theorem noConstruction_provided (found : s.Found w imported) (names : RouterNames w)
    (paired : endsPaired (s.stock w imported) = true) :
    Shape.NoneIn (construction w.fromSymbol) none (s.above ++ (w.routerImportLine ++
      (s.between ++ (bareCall w.host w.fromSymbol ++ s.below))))
      (bareConstruction w.fromSymbol ++ s.behind) := by
  obtain ⟨habove, b, more, hb, hword⟩ := borders_of_found found names paired
  obtain ⟨⟨t, hline⟩, hquote⟩ := routerImportLine_ends w
  obtain ⟨-, -, hearlier⟩ :=
    Shape.firstFrom_eq_some (construction_reads w.fromSymbol) found.construction
  have hfrom := names.fromSymbol
  refine Shape.NoneIn.splice imported hearlier (fun h => ?_) ?_ (fun h => h.recut ?_)
  · -- in front of the new line: a construction would have to run into the keyword
    rw [hline, List.append_assoc, List.cons_append]
    refine noConstruction_before hfrom.isName h habove (by simp; decide)
      fun t heq ht => ?_
    have hother := word_unique heq (by decide) hfrom.word
      (show isWordChar ' ' = false by decide) ht
    exact absurd (by simp [← hother, reservedWords]) hfrom.free
  · exact noConstruction_imports hfrom (imports_importLine names.toSymbol names.package) hquote
  · intro c v hcv
    obtain ⟨rfl, -⟩ : b = c ∧ _ = v := List.cons.inj (by rw [← hcv, hb]; rfl)
    exact construction_gap hfrom.isName hword

theorem behind_bareCall (last : Option Char) (host symbol : Text) :
    Shape.behind last (bareCall host symbol) = some ')' := by
  rw [Shape.behind, getLast?_bareCall]
  rfl

/-- **Swapping the install call makes no construction**: where one runs into the call's host, it did
    so before. -/
theorem noConstruction_swapCall (names : RouterNames w) {front below behind : Text}
    (hfront : front.getLast?.any isWordChar = false)
    (h : Shape.NoneIn (construction w.fromSymbol) none
      (front ++ (bareCall w.host w.fromSymbol ++ below)) behind) :
    Shape.NoneIn (construction w.fromSymbol) none
      (front ++ (bareCall w.host w.toSymbol ++ below)) behind := by
  have hfrom := names.fromSymbol
  refine Shape.NoneIn.splice (bareCall w.host w.fromSymbol) h (fun h => ?_) ?_ (fun h => ?_)
  · obtain ⟨t₁, hold⟩ := bareCall_append w.host w.fromSymbol (below ++ behind)
    obtain ⟨t₂, hnew⟩ := bareCall_append w.host w.toSymbol (below ++ behind)
    have hdot : isWordChar '.' = false := by decide
    rw [hold] at h
    rw [hnew]
    refine noConstruction_before hfrom.isName h hfront ?_ fun t heq ht => ?_
    · obtain ⟨c, host, hhost⟩ := List.exists_cons_of_ne_nil names.host.nonempty
      simpa [hhost] using names.host.word c (by simp [hhost])
    · exact ⟨'.' :: t₁, by rw [← word_unique heq names.host.word hfrom.word hdot ht], hdot⟩
  · refine noConstruction_unspaced hfrom (unspaced_bareCall names.host names.toSymbol) ?_
    rw [getLast?_bareCall]
    exact (show isWordChar ')' = false by decide)
  · rwa [behind_bareCall] at h ⊢

/-- **Providing the import and swapping the install call leave the construction the first one.** -/
theorem findConstruction_swapped (found : s.Found w imported) (names : RouterNames w)
    (paired : endsPaired (s.stock w imported) = true) :
    findConstruction w.fromSymbol (s.fill w.routerImportLine (bareCall w.host w.toSymbol)
      (bareConstruction w.fromSymbol)) = some ⟨s.above ++ (w.routerImportLine ++ (s.between ++
        (bareCall w.host w.toSymbol ++ s.below))), bareConstruction w.fromSymbol, s.behind⟩ := by
  obtain ⟨-, hfits, -⟩ :=
    Shape.firstFrom_eq_some (construction_reads w.fromSymbol) found.construction
  have hprovided := noConstruction_provided found names paired
  have hswapped := noConstruction_swapCall names
    (not_word_before_call found names paired w.routerImportLine)
    (by simpa only [List.append_assoc] using hprovided)
  have hsplit : s.fill w.routerImportLine (bareCall w.host w.toSymbol)
      (bareConstruction w.fromSymbol) = (s.above ++ (w.routerImportLine ++ (s.between ++
        (bareCall w.host w.toSymbol ++ s.below)))) ++
          (bareConstruction w.fromSymbol ++ s.behind) := by
    simp only [Surroundings.fill, List.append_assoc]
  rw [hsplit]
  simp only [List.append_assoc] at hswapped
  refine Shape.firstFrom_of_fits ?_ hswapped
  simpa only [Shape.behind_append, behind_bareCall] using hfits

/-! ## The whole edit -/

/-- **Rewiring touches three places only**: the import gives way to the localized router's line, the
    call and the construction get the new symbol, and all else stays. -/
theorem swapRouter_provide (names : RouterNames w) (found : s.Found w imported)
    (paired : endsPaired (s.stock w imported) = true)
    (missing : hasLine w.routerImportLine (s.stock w imported) = false) :
    swapRouter w {} (provide w.fromSymbol w.routerImportLine (s.stock w imported)) =
      s.localized w := by
  have hcall := findInstallCall_provided found names paired
  have hconstruction := findConstruction_swapped found names paired
  have hinstall : ∀ newline, installText w {} newline = bareCall w.host w.toSymbol := fun _ => rfl
  have hswapped : swapInstallCall w {} (s.stock w w.routerImportLine) =
      s.fill w.routerImportLine (bareCall w.host w.toSymbol) (bareConstruction w.fromSymbol) := by
    unfold swapInstallCall
    rw [hcall]
    simp only [hinstall, Passage.replaceWith, Surroundings.fill, List.append_assoc]
  rw [provide_stock found missing, swapRouter, hswapped, swapConstruction, hconstruction]
  simp only [Passage.replaceWith, Surroundings.localized, Surroundings.fill, bareConstruction,
    List.append_assoc]

/-- A router file in which a word `new` stands right in front of the import, and the host in front
    of its call. -/
theorem swapRouter_provide_sample :
    let s : Surroundings :=
      ⟨"// new\r\n", "\r\nVue\r\n", "\r\nexport default new VueRouterLike || ", "()\r\n"⟩
    let w : Wiring := { toSymbol := "arrow" }
    let old : Text := "\timport VueRouter from 'vue-router';"
    swapRouter w {} (provide w.fromSymbol w.routerImportLine (s.stock w old)) =
      ("// new\r\nimport \x7b arrow \x7d from 'vue-lang-router'\r\nVue\r\nVue.use(arrow)\r\n" ++
        "export default new VueRouterLike || new arrow()\r\n" : String).toList := by
  intro s w old
  have found : s.Found w old := ⟨by decide +kernel, by decide +kernel, by decide +kernel⟩
  exact (swapRouter_provide (by decide) found (by decide +kernel) (by decide +kernel)).trans
    (by decide +kernel)

end Script

end RouteLocalizer
