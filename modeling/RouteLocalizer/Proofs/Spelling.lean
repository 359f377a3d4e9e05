/-
  The SPELLINGS of an import line.

  `canonical` throws away spacing, the kind of quote and semicolons at the end.  What it keeps are
  the runs of ink: two lines of one canonical form have the same runs up to the quotes
  (`runsOf_canonical`).  So every spelling of a line that imports one symbol from one package has
  the four runs of that line and starts with the keyword (`Spells`).  That is all that is ever
  needed of a spelling, and it says what such a line cannot hold: a parenthesis, the word `new` in
  front of a blank, a binding of another symbol.

  PROGRAM: `canonical` is trimming, dropping semicolons, joining the words with one space, changing
  the quotes, and dropping the spaces beside braces and commas (`tighten`).
  SPECIFICATION:
  (1) `runsOf_canonical`, `head?_canonical` — what the canonical form keeps: the runs of ink, and
      the first character behind the white space;
  (2) `spells_of_canonical` — a line that is compared equal to an import line `Spells` that import;
  (3) `Spells.not_mem_parentheses`, `Spells.no_new`, `Spells.eq_of_standalone` — the texts that the
      other searches look for are in no spelling, so no edit of theirs runs through one.

  The names of symbols and packages are plain (`IsSymbol`, `IsPackage`): no sign, no white space, no
  quote.  A package may be any such word; a symbol may be none of the words that the searches
  tell imports and constructions by (`reservedWords`).
-/
import RouteLocalizer.Proofs.Characters
import RouteLocalizer.Proofs.Runs
import RouteLocalizer.Proofs.Sites

namespace RouteLocalizer.Import

open Text

/-! ## What the canonical form keeps -/

/-- The single quote for the double one. -/
def straight (c : Char) : Char := if c = '"' then '\'' else c

/-- Either quote is ink. -/
theorem isInk_straight (c : Char) : isInk (straight c) = isInk c := by
  unfold straight
  split
  · rename_i h
    subst h
    decide
  · rfl

/-- Spaces beside braces and commas are gaps beside gaps. -/
theorem runsOf_tighten (last : Option Char) (text : Text) :
    runsOf isInk (tighten last text) = runsOf isInk text ∧
      (last.any isTight = false →
        (tighten last text).head?.any isInk = text.head?.any isInk) := by
  have hspace : isInk ' ' = false := by decide
  have htight : ∀ c, isTight c = true → isInk c = false := by
    intro c hc
    simp [isInk, hc]
  induction text generalizing last with
  | nil => exact ⟨rfl, fun _ => rfl⟩
  | cons c cs ih =>
    by_cases hdrop : (c == ' ' && (last.any isTight || cs.head?.any isTight)) = true
    · simp only [tighten, hdrop, if_true]
      obtain ⟨hc, hbeside⟩ := Bool.and_eq_true_iff.mp hdrop
      obtain rfl := beq_iff_eq.mp hc
      obtain ⟨hruns, hhead⟩ := ih last
      refine ⟨by rw [hruns, runsOf_gap_cons hspace], fun hlast => ?_⟩
      -- the space was dropped because of what follows it, which is no ink either
      rw [hlast, Bool.false_or] at hbeside
      cases cs with
      | nil => cases hbeside
      | cons d ds =>
        have hd : isInk d = false := htight d (by simpa using hbeside)
        rw [hhead hlast]
        simp [hd, hspace]
    · simp only [tighten, hdrop, Bool.false_eq_true, if_false, List.head?_cons, Option.any_some,
        implies_true, and_true]
      obtain ⟨hruns, hhead⟩ := ih (some c)
      by_cases hink : isInk c = true
      · have hloose : isTight c = false := by
          rw [Bool.eq_false_iff]
          intro ht
          rw [htight c ht] at hink
          cases hink
        rw [runsOf_cons hink, runsOf_cons hink, hruns, hhead (by simpa using hloose)]
      · have hink : isInk c = false := by simpa using hink
        rw [runsOf_gap_cons hink, runsOf_gap_cons hink, hruns]

/-- **The canonical form keeps the runs of ink**, up to the kind of quote. -/
theorem runsOf_canonical (line : Text) :
    runsOf isInk (canonical line) = (runsOf isInk line).map (List.map straight) := by
  have hblank : ∀ c, isBlank c = true → isInk c = false := fun _ => isInk_of_isBlank
  have hsemicolon : ∀ c : Char, (c == ';') = true → isInk c = false := by
    intro c hc
    simp [isInk, beq_iff_eq.mp hc]
  have hmap : (fun c => if c = '"' then '\'' else c) = straight := rfl
  unfold canonical
  simp only [hmap]
  rw [(runsOf_tighten none _).1, runsOf_map isInk_straight, runsOf_joinWith (by decide),
    runsOf_flatMap_words hblank, runsOf_dropEndWhile hsemicolon, runsOf_trim hblank]

/-- A carriage return at the end of a line is white space. -/
theorem canonical_carriageReturn (line : Text) : canonical (line ++ ['\r']) = canonical line := by
  have htrim : trim (line ++ ['\r']) = trim line := by
    have hend : ∀ text : Text, trimEnd (text ++ ['\r']) = trimEnd text := by
      intro text
      simp [trimEnd, dropEndWhile, show isBlank '\r' = true by decide]
    unfold trim trimStart
    by_cases hall : ∀ c ∈ line, isBlank c = true
    · rw [List.dropWhile_append_of_pos hall, List.dropWhile_eq_nil_iff.mpr hall]
      decide
    · have hne : line.dropWhile isBlank ≠ [] := by
        rw [Ne, List.dropWhile_eq_nil_iff]
        exact hall
      rw [List.dropWhile_append, if_neg (by simpa using hne), hend]
  simp [canonical, htrim]

/-- The canonical form starts like the line, unless nothing is left of it. -/
theorem head?_canonical {line : Text} (h : canonical line ≠ []) :
    (canonical line).head? = (trimStart line).head?.map straight := by
  obtain ⟨tail, htail, -⟩ := dropEndWhile_append isBlank (trimStart line)
  obtain ⟨semicolons, hsemicolons, -⟩ := dropEndWhile_append (· == ';') (trim line)
  have htext : trimStart line =
      dropEndWhile (· == ';') (trim line) ++ (semicolons ++ tail) := by
    rw [← List.append_assoc, ← hsemicolons]
    exact htail
  cases hkept : dropEndWhile (· == ';') (trim line) with
  | nil => exact absurd (by simp [canonical, hkept, words, joinWith, tighten]) h
  | cons c cs =>
    rw [hkept] at htext
    have hc : isBlank c = false := by
      have := List.head?_dropWhile_not isBlank line
      rw [show line.dropWhile isBlank = trimStart line from rfl, htext] at this
      simpa using this
    -- the first word starts with the first character, and nothing that stands there is dropped
    have hwords : ∃ w ws, words (c :: cs) = (c :: w) :: ws := by
      rw [words_eq_runsOf, runsOf_cons (by simp [hc])]
      cases (cs.head?.any fun c => !isBlank c) <;>
        cases runsOf (fun c => !isBlank c) cs <;> exact ⟨_, _, rfl⟩
    obtain ⟨w, ws, hwords⟩ := hwords
    have hjoined : ∃ more, joinWith [' '] ((c :: w) :: ws) = c :: more := by
      cases ws <;> exact ⟨_, rfl⟩
    obtain ⟨more, hjoined⟩ := hjoined
    have hspace : (straight c == ' ') = false := by
      rw [beq_eq_false_iff_ne]
      intro heq
      unfold straight at heq
      split at heq
      · cases heq
      · rw [heq] at hc
        revert hc
        decide
    have hcanonical : canonical line =
        tighten none ((joinWith [' '] (words (c :: cs))).map straight) := by
      rw [← hkept]
      rfl
    rw [hcanonical, hwords, hjoined, List.map_cons, tighten, hspace, htext]
    rfl

/-! ## Spellings of a line that imports one symbol -/

/-- The two quotes that a package name can stand in. -/
def isQuoteMark (c : Char) : Prop := c = '\'' ∨ c = '"'

instance (c : Char) : Decidable (isQuoteMark c) :=
  inferInstanceAs (Decidable (c = '\'' ∨ c = '"'))

/-- A line that is a spelling of the import of one symbol from one package. -/
structure Spells (symbol package line : Text) : Prop where
  runs : ∃ opening closing, isQuoteMark opening ∧ isQuoteMark closing ∧
    runsOf isInk line = [keyword, symbol, fromWord, opening :: package ++ [closing]]
  start : ∃ indent rest, line = indent ++ (keyword ++ rest) ∧ (∀ c ∈ indent, isBlank c = true) ∧
    rest.head?.any isInk = false

/-- A character whose straight form is no quote was that character. -/
theorem eq_of_straight {c d : Char} (hd : ¬ isQuoteMark d) (h : straight c = d) : c = d := by
  unfold straight at h
  split at h
  · exact absurd (.inl h.symm) hd
  · exact h

/-- A run whose straight form is a word without quotes is that word. -/
theorem eq_of_map_straight {word text : Text} (hword : ∀ c ∈ word, ¬ isQuoteMark c)
    (h : text.map straight = word) : text = word := by
  induction word generalizing text with
  | nil => exact List.map_eq_nil_iff.mp h
  | cons c word ih =>
    obtain ⟨d, text, rfl, hd, htext⟩ := List.map_eq_cons_iff.mp h
    rw [eq_of_straight (hword c (by simp)) hd, ih (fun e he => hword e (by simp [he])) htext]

/-- What has the straight quote for its straight form is one of the two quotes. -/
theorem isQuoteMark_of_straight {c : Char} (h : straight c = '\'') : isQuoteMark c := by
  unfold straight at h
  split at h
  · exact .inr ‹_›
  · exact .inl h

/-- The last run is the package name in its quotes, of whatever kind they are. -/
theorem quoted_of_straight {package text : Text} (hpackage : ∀ c ∈ package, ¬ isQuoteMark c)
    (h : text.map straight = '\'' :: package ++ ['\'']) :
    ∃ opening closing, isQuoteMark opening ∧ isQuoteMark closing ∧
      text = opening :: package ++ [closing] := by
  obtain ⟨opening, rest, rfl, hopening, hrest⟩ := List.map_eq_cons_iff.mp h
  obtain ⟨inner, tail, rfl, hinner, htail⟩ := List.map_eq_append_iff.mp hrest
  obtain ⟨closing, tail', rfl, hclosing, htail'⟩ := List.map_eq_cons_iff.mp htail
  obtain rfl := List.map_eq_nil_iff.mp htail'
  obtain rfl := eq_of_map_straight hpackage hinner
  exact ⟨opening, closing, isQuoteMark_of_straight hopening, isQuoteMark_of_straight hclosing, rfl⟩

/-- A word without double quotes is its own straight form. -/
theorem map_straight {word : Text} (h : '"' ∉ word) : word.map straight = word := by
  conv => rhs; rw [← List.map_id word]
  exact List.map_congr_left fun c hc => if_neg (ne_of_mem_of_not_mem hc h)

/-- Something is left of a line that has a run of ink. -/
theorem canonical_ne_nil_of_runs {line : Text} (h : runsOf isInk line ≠ []) :
    canonical line ≠ [] := by
  intro hnil
  have hruns := runsOf_canonical line
  rw [hnil] at hruns
  exact h (List.map_eq_nil_iff.mp hruns.symm)

/-- A line of the same canonical form as one that starts with an `i` has an `i` behind its white
    space. -/
theorem head?_trimStart_of_canonical {line wanted : Text} (hstart : wanted.head? = some 'i')
    (hwanted : runsOf isInk wanted ≠ []) (hline : runsOf isInk line ≠ [])
    (h : canonical line = canonical wanted) : (trimStart line).head? = some 'i' := by
  have hw := head?_canonical (canonical_ne_nil_of_runs hwanted)
  have hl := head?_canonical (canonical_ne_nil_of_runs hline)
  have htrim : (trimStart wanted).head? = some 'i' := by
    cases wanted with
    | nil => cases hstart
    | cons c cs =>
      obtain rfl : c = 'i' := by simpa using hstart
      rfl
  rw [htrim] at hw
  rw [h, hw] at hl
  obtain ⟨c, hc, hstraight⟩ := Option.map_eq_some_iff.mp hl.symm
  rw [show straight 'i' = 'i' from rfl] at hstraight
  rw [hc, eq_of_straight (by rintro (h | h) <;> cases h) hstraight]

/-- What stands in front of the first ink is white space, if ink follows the white space. -/
theorem isBlank_of_trimStart {gap rest : Text} {d : Char} (hgap : ∀ c ∈ gap, isInk c = false)
    (hink : isInk d = true) (h : (trimStart (gap ++ rest)).head? = some d) :
    ∀ c ∈ gap, isBlank c = true := by
  refine List.dropWhile_eq_nil_iff.mp ?_
  cases hdrop : gap.dropWhile isBlank with
  | nil => rfl
  | cons c cs =>
    have hc : isInk c = false := hgap c (List.dropWhile_subset _ (by rw [hdrop]; simp))
    rw [trimStart, List.dropWhile_append, if_neg (by simp [hdrop]), hdrop] at h
    obtain rfl : c = d := by simpa using h
    rw [hink] at hc
    cases hc

/-- **What is compared equal to an import line spells the same import.** -/
theorem spells_of_canonical {symbol package wanted line : Text}
    (hsymbol : ∀ c ∈ symbol, ¬ isQuoteMark c) (hpackage : ∀ c ∈ package, ¬ isQuoteMark c)
    (hruns : runsOf isInk wanted = [keyword, symbol, fromWord, '\'' :: package ++ ['\'']])
    (hstart : wanted.head? = some 'i') (h : canonical line = canonical wanted) :
    Spells symbol package line := by
  have hcanonical : (runsOf isInk line).map (List.map straight) =
      [keyword, symbol, fromWord, '\'' :: package ++ ['\'']] := by
    rw [← runsOf_canonical, h, runsOf_canonical, hruns, List.map_cons, List.map_cons,
      List.map_cons, List.map_cons, List.map_nil, map_straight (by decide),
      map_straight fun hc => hsymbol _ hc (.inr rfl), map_straight (by decide), map_straight]
    simpa using fun hc => hpackage _ hc (.inr rfl)
  obtain ⟨r₁, rs, hrs, h₁, hmap⟩ := List.map_eq_cons_iff.mp hcanonical
  obtain ⟨r₂, rs, rfl, h₂, hmap⟩ := List.map_eq_cons_iff.mp hmap
  obtain ⟨r₃, rs, rfl, h₃, hmap⟩ := List.map_eq_cons_iff.mp hmap
  obtain ⟨r₄, rs, rfl, h₄, hmap⟩ := List.map_eq_cons_iff.mp hmap
  obtain rfl := List.map_eq_nil_iff.mp hmap
  have hplain : ∀ word : Text, word = keyword ∨ word = fromWord → ∀ c ∈ word, ¬ isQuoteMark c := by
    intro word hword c hc hquote
    rcases hword with rfl | rfl <;> rcases hquote with rfl | rfl <;> revert hc <;> decide
  obtain rfl := eq_of_map_straight (hplain _ (.inl rfl)) h₁
  obtain rfl := eq_of_map_straight hsymbol h₂
  obtain rfl := eq_of_map_straight (hplain _ (.inr rfl)) h₃
  obtain ⟨opening, closing, hopening, hclosing, rfl⟩ := quoted_of_straight hpackage h₄
  refine ⟨⟨opening, closing, hopening, hclosing, hrs⟩, ?_⟩
  -- the first run is the keyword, and only white space can stand in front of it
  have hhead : (trimStart line).head? = some 'i' :=
    head?_trimStart_of_canonical hstart (by rw [hruns]; simp) (by rw [hrs]; simp) h
  obtain ⟨gap, rest, htext, hgap, -, -, hrest, -⟩ := eq_of_runsOf_cons hrs
  rw [htext] at hhead
  exact ⟨gap, rest, htext, isBlank_of_trimStart hgap (by decide) hhead, hrest⟩

/-! ## What no spelling holds -/

/-- The words by which the searches tell imports and constructions. -/
def reservedWords : List Text := [keyword, fromWord, ['n', 'e', 'w'], ['a', 's']]

/-- No identifier starts with white space. -/
theorem exists_head_of_isIdentifier {name : Text} (h : IsIdentifier name) :
    ∃ c ∈ name.head?, isBlank c = false := by
  obtain ⟨c, name, rfl⟩ := List.exists_cons_of_ne_nil h.nonempty
  refine ⟨c, rfl, Bool.eq_false_iff.mpr fun hblank => ?_⟩
  have hchar := h.chars c (by simp)
  rw [not_isIdentifierChar_of_isBlank hblank] at hchar
  cases hchar

/-- A symbol that settings may name. -/
structure IsSymbol (name : Text) : Prop where
  nonempty : name ≠ []
  chars : ∀ c ∈ name, isSymbolChar c = true
  free : name ∉ reservedWords

instance (name : Text) : Decidable (IsSymbol name) :=
  decidable_of_iff (name ≠ [] ∧ (∀ c ∈ name, isSymbolChar c = true) ∧
      ∀ word ∈ reservedWords, name ≠ word)
    ⟨fun ⟨nonempty, chars, free⟩ => ⟨nonempty, chars, fun h => free name h rfl⟩,
      fun h => ⟨h.nonempty, h.chars, fun _ hword heq => h.free (heq ▸ hword)⟩⟩

/-- A package that settings may name. -/
structure IsPackage (name : Text) : Prop where
  nonempty : name ≠ []
  chars : ∀ c ∈ name, isPackageChar c = true

instance (name : Text) : Decidable (IsPackage name) :=
  decidable_of_iff (name ≠ [] ∧ ∀ c ∈ name, isPackageChar c = true)
    ⟨fun ⟨nonempty, chars⟩ => ⟨nonempty, chars⟩, fun h => ⟨h.1, h.2⟩⟩

/-- Indentation is white space. -/
theorem isBlank_of_isIndent {c : Char} (h : isIndent c = true) : isBlank c = true := by
  have : c = ' ' ∨ c = '\t' := by simpa [isIndent] using h
  rcases this with rfl | rfl <;> decide

/-- A name of plain letters, digits and underscores, whatever word it is. -/
structure IsName (name : Text) : Prop where
  nonempty : name ≠ []
  chars : ∀ c ∈ name, isSymbolChar c = true

instance (name : Text) : Decidable (IsName name) :=
  decidable_of_iff (name ≠ [] ∧ ∀ c ∈ name, isSymbolChar c = true)
    ⟨fun ⟨nonempty, chars⟩ => ⟨nonempty, chars⟩, fun h => ⟨h.1, h.2⟩⟩

namespace IsName

variable {name : Text}

/-- A name is one run of ink. -/
theorem ink (h : IsName name) : ∀ c ∈ name, isInk c = true :=
  fun c hc => (symbolFacts (h.chars c hc)).ink

/-- A name is one word for the searches that look at word boundaries. -/
theorem word (h : IsName name) : ∀ c ∈ name, isWordChar c = true :=
  fun c hc => (symbolFacts (h.chars c hc)).word

/-- No white space stands within a name, ... -/
theorem noBlank (h : IsName name) : ∀ c ∈ name, isBlank c = false :=
  fun c hc => (symbolFacts (h.chars c hc)).blank

/-- ... so none that indents either. -/
theorem noIndent (h : IsName name) : ∀ c ∈ name, isIndent c = false := by
  intro c hc
  rw [Bool.eq_false_iff]
  intro hindent
  have hblank := h.noBlank c hc
  rw [isBlank_of_isIndent hindent] at hblank
  cases hblank

/-- The characters of a name are those of identifiers, ... -/
theorem identifier (h : IsName name) : ∀ c ∈ name, isIdentifierChar c = true :=
  fun c hc => (symbolFacts (h.chars c hc)).identifier

/-- ... so a name is an identifier as the searches for one see it. -/
theorem isIdentifier (h : IsName name) : IsIdentifier name := ⟨h.nonempty, h.identifier⟩

/-- A name holds none of the signs that shapes are made of. -/
theorem not_mem_signs (h : IsName name) : ∀ c ∈ signs, c ∉ name :=
  fun _ hc hmem => not_mem_signs_of_isPackageChar (symbolFacts (h.chars _ hmem)).package hc

/-- A name ends no line. -/
theorem oneLine (h : IsName name) : ∀ c ∈ name, isLineEnd c = false := by
  intro c hc
  rw [Bool.eq_false_iff]
  intro hend
  have : c = '\r' ∨ c = '\n' := by simpa [isLineEnd] using hend
  rcases this with rfl | rfl <;> exact h.not_mem_signs _ (by decide) hc

/-- A name can be put in quotes. -/
theorem noQuote (h : IsName name) : ∀ c ∈ name, ¬ isQuoteMark c := by
  intro c hc hquote
  have := not_mem_signs_of_isPackageChar (symbolFacts (h.chars c hc)).package
  rcases hquote with rfl | rfl <;> exact this (by decide)

end IsName

/-- What is shown of names holds of symbols; these are the names that no search takes for a word of
    its own. -/
theorem IsSymbol.isName {name : Text} (h : IsSymbol name) : IsName name := ⟨h.nonempty, h.chars⟩

theorem IsSymbol.ink {name : Text} (h : IsSymbol name) : ∀ c ∈ name, isInk c = true :=
  h.isName.ink

theorem IsSymbol.word {name : Text} (h : IsSymbol name) : ∀ c ∈ name, isWordChar c = true :=
  h.isName.word

theorem IsSymbol.noBlank {name : Text} (h : IsSymbol name) : ∀ c ∈ name, isBlank c = false :=
  h.isName.noBlank

theorem IsSymbol.identifier {name : Text} (h : IsSymbol name) :
    ∀ c ∈ name, isIdentifierChar c = true :=
  h.isName.identifier

theorem IsSymbol.not_mem_signs {name : Text} (h : IsSymbol name) : ∀ c ∈ signs, c ∉ name :=
  h.isName.not_mem_signs

theorem IsSymbol.oneLine {name : Text} (h : IsSymbol name) :
    ∀ c ∈ name, isLineEnd c = false :=
  h.isName.oneLine

theorem IsSymbol.noQuote {name : Text} (h : IsSymbol name) : ∀ c ∈ name, ¬ isQuoteMark c :=
  h.isName.noQuote

/-- So can the name of a package, which may have dots, dashes and slashes in it. -/
theorem IsPackage.noQuote {name : Text} (h : IsPackage name) : ∀ c ∈ name, ¬ isQuoteMark c := by
  intro c hc hquote
  have := not_mem_signs_of_isPackageChar (h.chars c hc)
  rcases hquote with rfl | rfl <;> exact this (by decide)

namespace Spells

variable {symbol package line : Text}

/-- The ink of a spelling. -/
theorem mem_cases (h : Spells symbol package line) {c : Char} (hc : c ∈ line)
    (ink : isInk c = true) :
    c ∈ keyword ∨ c ∈ symbol ∨ c ∈ fromWord ∨ c ∈ package ∨ isQuoteMark c := by
  obtain ⟨opening, closing, hopening, hclosing, hruns⟩ := h.runs
  obtain ⟨r, hr, hcr⟩ := mem_runsOf hc ink
  rw [hruns] at hr
  simp only [List.mem_cons, List.not_mem_nil, or_false] at hr
  rcases hr with rfl | rfl | rfl | rfl
  · exact .inl hcr
  · exact .inr (.inl hcr)
  · exact .inr (.inr (.inl hcr))
  · simp only [List.cons_append, List.mem_cons, List.mem_append, List.not_mem_nil,
      or_false] at hcr
    rcases hcr with rfl | hcr | rfl
    · exact .inr (.inr (.inr (.inr hopening)))
    · exact .inr (.inr (.inr (.inl hcr)))
    · exact .inr (.inr (.inr (.inr hclosing)))

/-- A spelling holds no parenthesis. -/
theorem not_mem_parentheses (h : Spells symbol package line) (hsymbol : IsSymbol symbol)
    (hpackage : IsPackage package) {c : Char} (hc : c = '(' ∨ c = ')') : c ∉ line := by
  intro hmem
  have ink : isInk c = true := by rcases hc with rfl | rfl <;> decide
  have hsign : c ∈ signs := by rcases hc with rfl | rfl <;> decide
  rcases h.mem_cases hmem ink with hk | hs | hf | hp | hq
  · rcases hc with rfl | rfl <;> revert hk <;> decide
  · exact not_mem_signs_of_isPackageChar (symbolFacts (hsymbol.chars c hs)).package hsign
  · rcases hc with rfl | rfl <;> revert hf <;> decide
  · exact not_mem_signs_of_isPackageChar (hpackage.chars c hp) hsign
  · rcases hc with rfl | rfl <;> rcases hq with hq | hq <;> cases hq

/-- The last ink of a spelling is a quote. -/
theorem last_ink (h : Spells symbol package line) {u tail : Text} {c : Char}
    (hline : line = u ++ ([c] ++ tail)) (ink : isInk c = true)
    (gap : ∀ d ∈ tail, isInk d = false) : isQuoteMark c := by
  obtain ⟨opening, closing, -, hclosing, hruns⟩ := h.runs
  have hword : ∀ d ∈ [c], isInk d = true := by simpa using ink
  obtain ⟨init, w, hlast, -⟩ := runsOf_append_word u (List.cons_ne_nil c []) hword
  rw [hline, ← List.append_assoc, runsOf_gap_behind gap, hlast] at hruns
  have heq := congrArg List.getLast? hruns
  rw [List.getLast?_concat] at heq
  have heq : w ++ [c] = (opening :: package) ++ [closing] := by simpa using heq
  obtain rfl : c = closing := by simpa using (List.append_inj' heq rfl).2
  exact hclosing

/-- In a spelling no word `new` stands in front of a blank. -/
theorem no_new (h : Spells symbol package line) (hsymbol : IsSymbol symbol) {u v : Text} {b : Char}
    (hline : line = u ++ (['n', 'e', 'w'] ++ (b :: v))) (blank : isBlank b = true)
    (word : u.getLast?.any isWordChar = false) : False := by
  obtain ⟨opening, closing, -, hclosing, hruns⟩ := h.runs
  have hnew : ∀ c ∈ ['n', 'e', 'w'], isInk c = true := by decide
  obtain ⟨init, w, hinit, hw⟩ := runsOf_append_word u (List.cons_ne_nil 'n' ['e', 'w']) hnew
  have hmem : w ++ ['n', 'e', 'w'] ∈ runsOf isInk line := by
    rw [hline, ← List.append_assoc, runsOf_append (.inr (by simp [isInk_of_isBlank blank])), hinit]
    simp
  have hlast : (w ++ ['n', 'e', 'w']).getLast? = some 'w' := by simp
  rw [hruns] at hmem
  simp only [List.mem_cons, List.not_mem_nil, or_false] at hmem
  rcases hmem with heq | heq | heq | heq
  · rw [heq] at hlast
    revert hlast
    decide
  · -- the symbol ends with the word, so what stands in front of the word is a part of the symbol
    cases hback : w.getLast? with
    | none =>
      obtain rfl := List.getLast?_eq_none_iff.mp hback
      exact hsymbol.free (by rw [← heq]; decide)
    | some c =>
      obtain ⟨front, rfl⟩ := List.getLast?_eq_some_iff.mp hback
      obtain ⟨left, rfl⟩ := hw
      have hc : isWordChar c = true :=
        hsymbol.word c (by rw [← heq]; simp)
      simp [hc] at word
  · rw [heq] at hlast
    revert hlast
    decide
  · rw [heq, List.getLast?_concat] at hlast
    rcases hclosing with rfl | rfl <;> revert hlast <;> decide

/-- A spelling starts with the keyword, as a word of its own. -/
theorem trimStart_eq (h : Spells symbol package line) :
    ∃ rest, trimStart line = keyword ++ rest ∧ rest.head?.any isWordChar = false := by
  obtain ⟨indent, rest, rfl, hindent, hrest⟩ := h.start
  refine ⟨rest, ?_, ?_⟩
  · rw [trimStart, List.dropWhile_append_of_pos hindent]
    rfl
  · cases rest with
    | nil => rfl
    | cons c rest => simpa using (gapFacts (by simpa using hrest)).word

/-- A line that imports another symbol and nothing else is no spelling. -/
theorem eq_of_standalone (h : Spells symbol package line) {other indent gap₁ gap₂ rest : Text}
    (hother : IsName other)
    (hline : line = indent ++ (keyword ++ (gap₁ ++ (other ++ (gap₂ ++ rest)))))
    (hindent : ∀ c ∈ indent, isInk c = false) (hgap₁ : ∀ c ∈ gap₁, isInk c = false)
    (hgap₂ : ∀ c ∈ gap₂, isInk c = false) (hne₁ : gap₁ ≠ []) (hne₂ : gap₂ ≠ []) :
    other = symbol := by
  obtain ⟨opening, closing, -, -, hruns⟩ := h.runs
  have hhead : ∀ {gap : Text} (more : Text), (∀ c ∈ gap, isInk c = false) → gap ≠ [] →
      (gap ++ more).head?.any isInk = false := by
    intro gap more hgap hne
    cases gap with
    | nil => exact absurd rfl hne
    | cons c gap => simpa using hgap c (by simp)
  have hkeyword : ∀ c ∈ keyword, isInk c = true := by decide
  rw [hline, runsOf_gap hindent, runsOf_append (.inr (hhead _ hgap₁ hne₁)),
    runsOf_word (by decide) hkeyword, runsOf_gap hgap₁, runsOf_append (.inr (hhead _ hgap₂ hne₂)),
    runsOf_word hother.nonempty hother.ink] at hruns
  exact (List.cons.inj (List.cons.inj hruns).2).1

end Spells

end RouteLocalizer.Import
