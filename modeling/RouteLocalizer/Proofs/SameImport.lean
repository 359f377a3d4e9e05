/-
  Which lines COUNT AS AN IMPORT that is asked for: the spellings of that import, and no others.

  Two lines count as one when their canonical forms are equal, and that form is made in six passes:
  two trims, a cut into words, a join, straight quotes, and a loop that takes spaces back.
  `squeeze` makes the same text in one pass.  It reads the line once and knows only whether the
  character in front is one that a space would have to part from the next, and whether there was
  white space behind it (`canonical_eq`).

  1. One pass can be read backwards.  What a squeezed text starts with says what the text starts
     with, up to white space, and both directions are one equivalence for each kind of start: a
     sign, a word, a space in front of a quote (`squeeze_sign`, `squeeze_word`, `squeeze_space`).
  2. The canonical form of an import is five such starts in a row.  So the equivalences, one behind
     the other, give the spellings (`squeeze_eq_import`).
  3. What is left are the ends of the line, where semicolons may stand (`canonical_eq_iff`).
-/
import RouteLocalizer.Proofs.SingleImport

namespace RouteLocalizer.Import

open Text

/-! ## One pass -/

/-- The text with its gaps closed and its quotes straight.  A gap is kept as one space between two
    characters that are no braces and no commas; `loose` says that such a character stands in
    front, and `spaced` that white space stands behind it. -/
def squeeze (loose spaced : Bool) : Text → Text
  | [] => []
  | c :: cs =>
    if isBlank c then squeeze loose true cs
    else if loose && spaced && !isTight c then ' ' :: straight c :: squeeze true false cs
    else straight c :: squeeze (!isTight c) false cs

/-- The words of a text with single spaces between them, and one in front where a word stands
    there already. -/
def joined (inFront spaced : Bool) (text : Text) : Text :=
  (if inFront && (spaced || text.head?.any isBlank) && !(words text).isEmpty then [' '] else []) ++
    joinWith [' '] (words text)

theorem joined_blank {c : Char} (hc : isBlank c = true) (inFront spaced : Bool) (cs : Text) :
    joined inFront spaced (c :: cs) = joined inFront true cs := by
  simp [joined, words, hc]

theorem joined_ink {c : Char} (hc : isBlank c = false) (inFront spaced : Bool) (cs : Text) :
    joined inFront spaced (c :: cs) =
      (if inFront && spaced then [' '] else []) ++ c :: joined true false cs := by
  have hwords : words (c :: cs) ≠ [] ∧
      joinWith [' '] (words (c :: cs)) = c :: joined true false cs := by
    simp only [words_eq_runsOf, joined]
    rw [runsOf_cons (by simp [hc])]
    cases cs with
    | nil => simp [runsOf, extendRuns, joinWith]
    | cons d ds =>
      cases hd : isBlank d with
      | true =>
        rw [List.head?_cons, Option.any_some, hd, Bool.not_true, extendRuns_false]
        cases hruns : runsOf (fun c => !isBlank c) (d :: ds) <;> simp [joinWith, hd]
      | false =>
        have hne : runsOf (fun c => !isBlank c) (d :: ds) ≠ [] := runsOf_ne_nil (by simp [hd])
        obtain ⟨w, ws, hruns⟩ := List.exists_cons_of_ne_nil hne
        cases ws <;> simp [hd, hruns, extendRuns, joinWith]
  obtain ⟨hne, hjoin⟩ := hwords
  rw [joined, hjoin]
  simp [hc, hne]

theorem isTight_straight (c : Char) : isTight (straight c) = isTight c := by
  unfold straight
  split
  · rename_i h
    subst h
    decide
  · rfl

theorem straight_ne_space {c : Char} (hc : isBlank c = false) : straight c ≠ ' ' := by
  unfold straight
  split
  · decide
  · rintro rfl
    exact absurd hc (by decide)

/-- **The loop that takes spaces back**, run over joined words, is the one pass. -/
theorem tighten_joined (last : Option Char) (spaced : Bool) (text : Text) :
    tighten last ((joined last.isSome spaced text).map straight) =
      squeeze (last.any (!isTight ·)) spaced text := by
  induction text generalizing last spaced with
  | nil => simp [joined, words, joinWith, tighten, squeeze]
  | cons c cs ih =>
    cases hc : isBlank c with
    | true => rw [joined_blank hc, ih, squeeze, if_pos hc]
    | false =>
      have hspace := straight_ne_space hc
      -- behind the first character both go on alike
      have hkept : ∀ last' : Option Char,
          tighten last' (straight c :: (joined true false cs).map straight) =
            straight c :: squeeze (!isTight c) false cs := by
        intro last'
        have := ih (some (straight c)) false
        rw [Option.any_some, isTight_straight] at this
        simpa [tighten, hspace] using this
      simp only [joined_ink hc, squeeze, hc, Bool.false_eq_true, if_false]
      cases last with
      | none => simpa using hkept none
      | some e =>
        cases spaced with
        | false => simpa using hkept (some e)
        | true =>
          -- the space in front goes if one of its two neighbours is tight
          have hfirst : straight ' ' = ' ' := rfl
          have hhead : (straight c :: (joined true false cs).map straight).head?.any isTight =
              isTight c := isTight_straight c
          rw [Option.isSome_some, Bool.and_self, if_pos rfl, List.singleton_append, List.map_cons,
            List.map_cons, hfirst, tighten, hhead, hkept, hkept]
          cases he : isTight e <;> cases htight : isTight c <;> simp [he]

/-- The line without what a spelling may have at its ends. -/
def core (line : Text) : Text := dropEndWhile (· == ';') (trim line)

/-- **The canonical form of a line, in one pass.** -/
theorem canonical_eq (line : Text) : canonical line = squeeze false false (core line) :=
  tighten_joined none false (core line)

/-! ## Reading backwards -/

theorem squeeze_blanks {gap : Text} (hgap : ∀ c ∈ gap, isBlank c = true) (loose spaced : Bool)
    (text : Text) :
    squeeze loose spaced (gap ++ text) = squeeze loose (spaced || !gap.isEmpty) text := by
  induction gap generalizing spaced with
  | nil => simp
  | cons c gap ih =>
    rw [List.cons_append, squeeze, if_pos (hgap c (by simp)), ih fun d hd => hgap d (by simp [hd])]
    simp

/-- Nothing is left of white space alone. -/
theorem squeeze_eq_nil {loose spaced : Bool} {text : Text} :
    squeeze loose spaced text = [] ↔ ∀ c ∈ text, isBlank c = true := by
  induction text generalizing spaced with
  | nil => simp [squeeze]
  | cons c cs ih =>
    cases hc : isBlank c with
    | true => simp [squeeze, hc, ih]
    | false =>
      simp only [squeeze, hc, List.mem_cons, forall_eq_or_imp, Bool.false_eq_true, if_false,
        false_and, iff_false]
      split <;> simp

/-- **What a squeezed text starts with**, if not with a space: a character behind a gap that needs
    no space. -/
theorem squeeze_eq_cons {loose spaced : Bool} {text out : Text} {c : Char} (hc : c ≠ ' ') :
    squeeze loose spaced text = c :: out ↔ ∃ gap d rest, text = gap ++ d :: rest ∧
      (∀ e ∈ gap, isBlank e = true) ∧ isBlank d = false ∧ straight d = c ∧
      (loose && (spaced || !gap.isEmpty) && !isTight d) = false ∧
      squeeze (!isTight d) false rest = out := by
  constructor
  · intro h
    induction text generalizing spaced with
    | nil => cases h
    | cons d ds ih =>
      cases hd : isBlank d with
      | true =>
        rw [squeeze, if_pos hd] at h
        obtain ⟨gap, e, rest, rfl, hgap, he, hstraight, hnone, hrest⟩ := ih h
        refine ⟨d :: gap, e, rest, rfl, ?_, he, hstraight, by simpa using hnone, hrest⟩
        simpa [hd] using hgap
      | false =>
        rw [squeeze, if_neg (by simp [hd])] at h
        split at h
        · exact absurd (List.cons.inj h).1.symm hc
        · rename_i hnone
          obtain ⟨hstraight, hrest⟩ := List.cons.inj h
          exact ⟨[], d, ds, rfl, by simp, hd, hstraight, by simpa using hnone, hrest⟩
  · rintro ⟨gap, d, rest, rfl, hgap, hd, rfl, hnone, rfl⟩
    rw [squeeze_blanks hgap, squeeze, if_neg (by simp [hd]), if_neg (by simp [hnone])]

/-- A brace or a comma stands behind any white space. -/
theorem squeeze_sign {loose spaced : Bool} {text out : Text} {sign : Char}
    (hsign : isTight sign = true) : squeeze loose spaced text = sign :: out ↔
      ∃ gap rest, text = gap ++ sign :: rest ∧ (∀ c ∈ gap, isBlank c = true) ∧
        squeeze false false rest = out := by
  have hcases : sign = '\x7b' ∨ sign = '\x7d' ∨ sign = ',' := by
    simpa [isTight, or_assoc] using hsign
  have hfacts : sign ≠ ' ' ∧ isBlank sign = false ∧ straight sign = sign ∧ ¬ isQuoteMark sign := by
    rcases hcases with rfl | rfl | rfl <;> decide
  obtain ⟨hspace, hblank, hstraight, hquote⟩ := hfacts
  rw [squeeze_eq_cons hspace]
  constructor
  · rintro ⟨gap, d, rest, rfl, hgap, -, hd, -, hrest⟩
    obtain rfl := eq_of_straight hquote hd
    exact ⟨gap, rest, rfl, hgap, by simpa [hsign] using hrest⟩
  · rintro ⟨gap, rest, rfl, hgap, hrest⟩
    exact ⟨gap, sign, rest, rfl, hgap, hblank, hstraight, by simp [hsign],
      by simpa [hsign] using hrest⟩

/-- What is known of a character that no spelling can change. -/
theorem fixedFacts {c : Char} (hink : isInk c = true) (hquote : ¬ isQuoteMark c) :
    c ≠ ' ' ∧ isBlank c = false ∧ isTight c = false ∧ straight c = c := by
  have hparts : isBlank c = false ∧ isTight c = false := by
    simp only [isInk, Bool.and_eq_true, Bool.not_eq_true'] at hink
    exact hink.1
  refine ⟨?_, hparts.1, hparts.2, if_neg fun h => hquote (.inr h)⟩
  rintro rfl
  exact absurd hparts.1 (by decide)

/-- The characters of a word touch. -/
theorem squeeze_touching {word : Text} (hink : ∀ c ∈ word, isInk c = true)
    (hquote : ∀ c ∈ word, ¬ isQuoteMark c) {text out : Text} :
    squeeze true false text = word ++ out ↔
      ∃ rest, text = word ++ rest ∧ squeeze true false rest = out := by
  induction word generalizing text with
  | nil => simp
  | cons c word ih =>
    obtain ⟨hspace, hblank, htight, hstraight⟩ := fixedFacts (hink c (by simp)) (hquote c (by simp))
    have ih := @ih (fun d hd => hink d (by simp [hd])) fun d hd => hquote d (by simp [hd])
    rw [List.cons_append, squeeze_eq_cons hspace]
    constructor
    · rintro ⟨gap, d, rest, rfl, -, -, hd, hnone, hrest⟩
      obtain rfl := eq_of_straight (hquote c (by simp)) hd
      obtain rfl : gap = [] := by simpa [htight] using hnone
      simp only [htight, Bool.not_false] at hrest
      obtain ⟨rest, rfl, hout⟩ := ih.mp hrest
      exact ⟨rest, rfl, hout⟩
    · rintro ⟨rest, rfl, hrest⟩
      exact ⟨[], c, word ++ rest, rfl, by simp, hblank, hstraight, by simp,
        by simpa [htight] using ih.mpr ⟨rest, rfl, hrest⟩⟩

/-- A word at the start of a line, or behind a brace, stands behind any white space. -/
theorem squeeze_word {word : Text} (h : IsModule word) {spaced : Bool} {text out : Text} :
    squeeze false spaced text = word ++ out ↔ ∃ gap rest, text = gap ++ (word ++ rest) ∧
      (∀ c ∈ gap, isBlank c = true) ∧ squeeze true false rest = out := by
  obtain ⟨c, word, rfl⟩ := List.exists_cons_of_ne_nil h.nonempty
  obtain ⟨hspace, hblank, htight, hstraight⟩ :=
    fixedFacts (h.ink c (by simp)) (h.noQuote c (by simp))
  have htouching := fun {text out : Text} => @squeeze_touching word
    (fun d hd => h.ink d (by simp [hd])) (fun d hd => h.noQuote d (by simp [hd])) text out
  rw [List.cons_append, squeeze_eq_cons hspace]
  constructor
  · rintro ⟨gap, d, rest, rfl, hgap, -, hd, -, hrest⟩
    obtain rfl := eq_of_straight (h.noQuote c (by simp)) hd
    simp only [htight, Bool.not_false] at hrest
    obtain ⟨rest, rfl, hout⟩ := htouching.mp hrest
    exact ⟨gap, rest, rfl, hgap, hout⟩
  · rintro ⟨gap, rest, rfl, hgap, hrest⟩
    exact ⟨gap, c, word ++ rest, rfl, hgap, hblank, hstraight, by simp,
      by simpa [htight] using htouching.mpr ⟨rest, rfl, hrest⟩⟩

/-- What is known of a quote. -/
theorem quoteFacts {c : Char} (h : isQuoteMark c) :
    isBlank c = false ∧ isTight c = false ∧ straight c = '\'' := by
  rcases h with rfl | rfl <;> decide

/-- A quote that touches what stands in front, of either kind. -/
theorem squeeze_quote {text out : Text} : squeeze true false text = '\'' :: out ↔
    ∃ quote rest, text = quote :: rest ∧ isQuoteMark quote ∧ squeeze true false rest = out := by
  rw [squeeze_eq_cons (by decide)]
  constructor
  · rintro ⟨gap, quote, rest, rfl, -, -, hquote, hnone, hrest⟩
    have hmark := isQuoteMark_of_straight hquote
    obtain ⟨-, htight, -⟩ := quoteFacts hmark
    obtain rfl : gap = [] := by simpa [htight] using hnone
    exact ⟨quote, rest, rfl, hmark, by simpa [htight] using hrest⟩
  · rintro ⟨quote, rest, rfl, hmark, hrest⟩
    obtain ⟨hblank, htight, hstraight⟩ := quoteFacts hmark
    exact ⟨[], quote, rest, rfl, by simp, hblank, hstraight, by simp, by simpa [htight] using hrest⟩

/-- A quote behind a space stands behind some white space. -/
theorem squeeze_space {text out : Text} : squeeze true false text = ' ' :: '\'' :: out ↔
    ∃ gap quote rest, text = gap ++ quote :: rest ∧ gap ≠ [] ∧ (∀ c ∈ gap, isBlank c = true) ∧
      isQuoteMark quote ∧ squeeze true false rest = out := by
  constructor
  · intro h
    have hgap : ∀ c ∈ text.takeWhile isBlank, isBlank c = true :=
      fun c hc => List.mem_takeWhile_imp hc
    rw [← List.takeWhile_append_dropWhile (p := isBlank) (l := text), squeeze_blanks hgap] at h
    cases hdrop : text.dropWhile isBlank with
    | nil =>
      rw [hdrop] at h
      cases h
    | cons quote rest =>
      have hink : isBlank quote = false := by
        have := List.head?_dropWhile_not isBlank text
        simpa [hdrop] using this
      simp only [hdrop, squeeze, hink, Bool.false_eq_true, if_false] at h
      split at h
      · rename_i hparted
        obtain ⟨hquote, hrest⟩ := List.cons.inj (List.cons.inj h).2
        have hmark := isQuoteMark_of_straight hquote
        refine ⟨_, quote, rest, ?_, ?_, hgap, hmark, hrest⟩
        · rw [← hdrop, List.takeWhile_append_dropWhile]
        · simp only [Bool.true_and, Bool.false_or, Bool.and_eq_true] at hparted
          simpa using hparted.1
      · exact absurd (List.cons.inj h).1 (straight_ne_space hink)
  · rintro ⟨gap, quote, rest, rfl, hne, hgap, hmark, rfl⟩
    obtain ⟨hblank, htight, hstraight⟩ := quoteFacts hmark
    rw [squeeze_blanks hgap, squeeze, if_neg (by simp [hblank]), if_pos (by simp [hne, htight]),
      hstraight]

/-! ## The spellings -/

/-- An import of one name in braces, from the keyword to the closing quote.  White space may stand
    everywhere but inside a word or the quotes, and must stand in front of the module. -/
inductive SpellsImport (name module : Text) : Text → Prop where
  | intro {g₁ g₂ g₃ g₄ g₅ : Text} {opening closing : Char}
      (h₁ : ∀ c ∈ g₁, isBlank c = true) (h₂ : ∀ c ∈ g₂, isBlank c = true)
      (h₃ : ∀ c ∈ g₃, isBlank c = true) (h₄ : ∀ c ∈ g₄, isBlank c = true)
      (h₅ : ∀ c ∈ g₅, isBlank c = true) (apart : g₅ ≠ [])
      (hopening : isQuoteMark opening) (hclosing : isQuoteMark closing) :
      SpellsImport name module
        (keyword ++ (g₁ ++ '\x7b' :: (g₂ ++ (name ++ (g₃ ++ '\x7d' ::
          (g₄ ++ (fromWord ++ (g₅ ++ opening :: (module ++ [closing])))))))))

/-- A line that is such an import, with white space and semicolons at its ends. -/
def SpellsLine (name module line : Text) : Prop :=
  ∃ indent statement gap semicolons tail,
    line = indent ++ (statement ++ (gap ++ (semicolons ++ tail))) ∧
      SpellsImport name module statement ∧ (∀ c ∈ indent, isBlank c = true) ∧
      (∀ c ∈ gap, isBlank c = true) ∧ (∀ c ∈ semicolons, c = ';') ∧ ∀ c ∈ tail, isBlank c = true

/-- The canonical form of all these lines. -/
def canonicalImport (name module : Text) : Text :=
  keyword ++ '\x7b' :: (name ++ '\x7d' :: (fromWord ++ ' ' :: '\'' :: (module ++ ['\''])))

variable {name module : Text}

theorem isModule_keyword : IsModule keyword := by decide

theorem isModule_fromWord : IsModule fromWord := by decide

/-- An identifier is a word that no spelling can change. -/
theorem isModule_of_isIdentifier (h : IsIdentifier name) : IsModule name where
  nonempty := h.nonempty
  ink c hc := by
    by_contra hink
    have := (gapFacts (Bool.eq_false_iff.mpr hink)).identifier
    exact absurd (h.chars c hc) (by simp [this])
  noQuote c hc hquote := by
    have hchar := h.chars c hc
    rcases hquote with rfl | rfl <;> exact absurd hchar (by decide)

/-- **What is squeezed to an import** is an import in white space. -/
theorem squeeze_eq_import (hname : IsModule name) (hmodule : IsModule module) {text : Text} :
    squeeze false false text = canonicalImport name module ↔
      ∃ indent statement gap, text = indent ++ (statement ++ gap) ∧
        SpellsImport name module statement ∧ (∀ c ∈ indent, isBlank c = true) ∧
        ∀ c ∈ gap, isBlank c = true := by
  constructor
  · intro h
    obtain ⟨indent, rest₀, rfl, hindent, h⟩ := (squeeze_word isModule_keyword).mp h
    obtain ⟨g₁, rest₁, rfl, h₁, h⟩ := (squeeze_sign (by decide)).mp h
    obtain ⟨g₂, rest₂, rfl, h₂, h⟩ := (squeeze_word hname).mp h
    obtain ⟨g₃, rest₃, rfl, h₃, h⟩ := (squeeze_sign (by decide)).mp h
    obtain ⟨g₄, rest₄, rfl, h₄, h⟩ := (squeeze_word isModule_fromWord).mp h
    obtain ⟨g₅, opening, rest₅, rfl, apart, h₅, hopening, h⟩ := squeeze_space.mp h
    obtain ⟨rest₆, rfl, hquoted⟩ := (squeeze_touching hmodule.ink hmodule.noQuote).mp h
    obtain ⟨closing, gap, rfl, hclosing, hgap⟩ := squeeze_quote.mp hquoted
    exact ⟨indent, _, gap, by simp, ⟨h₁, h₂, h₃, h₄, h₅, apart, hopening, hclosing⟩, hindent,
      squeeze_eq_nil.mp hgap⟩
  · rintro ⟨indent, -, gap, rfl, ⟨h₁, h₂, h₃, h₄, h₅, apart, hopening, hclosing⟩, hindent, hgap⟩
    refine (squeeze_word isModule_keyword).mpr ⟨indent, _, by simp; rfl, hindent, ?_⟩
    refine (squeeze_sign (by decide)).mpr ⟨_, _, rfl, h₁, ?_⟩
    refine (squeeze_word hname).mpr ⟨_, _, rfl, h₂, ?_⟩
    refine (squeeze_sign (by decide)).mpr ⟨_, _, rfl, h₃, ?_⟩
    refine (squeeze_word isModule_fromWord).mpr ⟨_, _, rfl, h₄, ?_⟩
    refine squeeze_space.mpr ⟨_, _, _, rfl, apart, h₅, hopening, ?_⟩
    refine (squeeze_touching hmodule.ink hmodule.noQuote).mpr ⟨_, rfl, ?_⟩
    exact squeeze_quote.mpr ⟨_, _, rfl, hclosing, squeeze_eq_nil.mpr hgap⟩

/-! ## The ends of a line -/

/-- What stands around the core of a line. -/
theorem core_spec (line : Text) : ∃ indent semicolons tail,
    line = indent ++ (core line ++ (semicolons ++ tail)) ∧ (∀ c ∈ indent, isBlank c = true) ∧
      (∀ c ∈ semicolons, c = ';') ∧ ∀ c ∈ tail, isBlank c = true := by
  obtain ⟨tail, htail, hblank⟩ := dropEndWhile_append isBlank (trimStart line)
  obtain ⟨semicolons, hsemicolons, hall⟩ := dropEndWhile_append (· == ';') (trim line)
  refine ⟨line.takeWhile isBlank, semicolons, tail, ?_, fun c hc => List.mem_takeWhile_imp hc,
    fun c hc => by simpa using hall c hc, hblank⟩
  calc line = line.takeWhile isBlank ++ trimStart line := List.takeWhile_append_dropWhile.symm
    _ = line.takeWhile isBlank ++ (trim line ++ tail) := by rw [htail]; rfl
    _ = line.takeWhile isBlank ++ (core line ++ (semicolons ++ tail)) := by
      rw [hsemicolons, List.append_assoc]; rfl

/-- The core of a line is its statement, and the white space behind it if semicolons stand behind
    that. -/
theorem core_eq {indent statement gap semicolons tail : Text} {first last : Char}
    (hfirst : statement.head? = some first) (hlast : statement.getLast? = some last)
    (hblank : isBlank first = false ∧ isBlank last = false) (hink : last ≠ ';')
    (hindent : ∀ c ∈ indent, isBlank c = true) (hgap : ∀ c ∈ gap, isBlank c = true)
    (hsemicolons : ∀ c ∈ semicolons, c = ';') (htail : ∀ c ∈ tail, isBlank c = true) :
    ∃ kept, (∀ c ∈ kept, isBlank c = true) ∧
      core (indent ++ (statement ++ (gap ++ (semicolons ++ tail)))) = statement ++ kept := by
  have hstart : trimStart (indent ++ (statement ++ (gap ++ (semicolons ++ tail)))) =
      statement ++ (gap ++ (semicolons ++ tail)) := by
    obtain ⟨more, rfl⟩ : ∃ more, statement = first :: more := by
      cases statement with
      | nil => cases hfirst
      | cons c more => exact ⟨more, by simpa using hfirst⟩
    rw [trimStart, List.dropWhile_append_of_pos hindent, List.cons_append,
      List.dropWhile_cons_of_neg (by simp [hblank.1])]
  have hnoSemicolon : ∀ text : Text, (∀ c ∈ text, isBlank c = true) →
      (statement ++ text).getLast?.any (· == ';') = false := by
    intro text htext
    rcases List.eq_nil_or_concat' text with rfl | ⟨front, c, rfl⟩
    · simp [hlast, hink]
    · have hc := htext c (by simp)
      have : c ≠ ';' := by
        rintro rfl
        exact absurd hc (by decide)
      simp [← List.append_assoc, this]
  rw [core, trim, hstart]
  rcases List.eq_nil_or_concat' semicolons with rfl | ⟨front, c, rfl⟩
  · have hall : ∀ c ∈ gap ++ ([] ++ tail), isBlank c = true := by
      intro c hc
      rcases List.mem_append.mp hc with hc | hc
      · exact hgap c hc
      · exact htail c hc
    refine ⟨[], by simp, ?_⟩
    rw [trimEnd, dropEndWhile_behind hall (by simp [hlast, hblank.2])]
    have hend := hnoSemicolon [] (by simp)
    rw [List.append_nil] at hend ⊢
    have hkeep := @dropEndWhile_behind (· == ';') statement [] (by simp) hend
    rwa [List.append_nil] at hkeep
  · obtain rfl := hsemicolons c (by simp)
    have hassoc : statement ++ (gap ++ (front ++ [';'] ++ tail)) =
        (statement ++ gap ++ (front ++ [';'])) ++ tail := by simp
    refine ⟨gap, hgap, ?_⟩
    rw [hassoc, trimEnd, dropEndWhile_behind htail (by simp; decide)]
    exact dropEndWhile_behind (fun d hd => by simpa using hsemicolons d hd) (hnoSemicolon gap hgap)

theorem SpellsImport.ends {statement : Text} (h : SpellsImport name module statement) :
    statement.head? = some 'i' ∧ ∃ closing, isQuoteMark closing ∧
      statement.getLast? = some closing := by
  cases h with
  | @intro _ _ _ _ _ _ closing _ _ _ _ _ _ _ hclosing =>
    exact ⟨rfl, closing, hclosing, by simp [List.getLast?_append, List.getLast?_cons]⟩

/-- **The spellings of an import are the lines of its canonical form.** -/
theorem canonical_eq_iff (hname : IsModule name) (hmodule : IsModule module) {line : Text} :
    canonical line = canonicalImport name module ↔ SpellsLine name module line := by
  rw [canonical_eq, squeeze_eq_import hname hmodule]
  constructor
  · rintro ⟨indent', statement, gap, hcore, hstatement, hindent', hgap⟩
    obtain ⟨indent, semicolons, tail, hline, hindent, hsemicolons, htail⟩ := core_spec line
    refine ⟨indent ++ indent', statement, gap, semicolons, tail, ?_, hstatement, ?_, hgap,
      hsemicolons, htail⟩
    · rw [hline, hcore]
      simp
    · intro c hc
      rcases List.mem_append.mp hc with hc | hc
      · exact hindent c hc
      · exact hindent' c hc
  · rintro ⟨indent, statement, gap, semicolons, tail, rfl, hstatement, hindent, hgap, hsemicolons,
      htail⟩
    obtain ⟨hfirst, closing, hclosing, hlast⟩ := hstatement.ends
    have hink : closing ≠ ';' := by
      rintro rfl
      exact absurd hclosing (by decide)
    obtain ⟨kept, hkept, hcore⟩ := core_eq hfirst hlast ⟨by decide, (quoteFacts hclosing).1⟩ hink
      hindent hgap hsemicolons htail
    exact ⟨[], statement, kept, hcore, hstatement, by simp, hkept⟩

/-! ## The lines of a text -/

/-- The line that is asked for is one of them. -/
theorem spellsLine_braced (name module : Text) :
    SpellsLine name module (ImportForm.braced.line name module) := by
  have hspace : ∀ c ∈ [' '], isBlank c = true := by decide
  have hstatement : SpellsImport name module
      (keyword ++ ([' '] ++ '\x7b' :: ([' '] ++ (name ++ ([' '] ++ '\x7d' ::
        ([' '] ++ (fromWord ++ ([' '] ++ '\'' :: (module ++ ['\'']))))))))) :=
    .intro hspace hspace hspace hspace hspace (by simp) (.inl rfl) (.inl rfl)
  refine ⟨[], _, [], [], [], ?_, hstatement, by simp, by simp, by simp, by simp⟩
  have hopen : "import \x7b ".toList = keyword ++ [' ', '\x7b', ' '] := by decide
  have hclose : " \x7d from '".toList = [' ', '\x7d', ' '] ++ fromWord ++ [' ', '\''] := by
    decide
  have hquote : "'".toList = ['\''] := by decide
  unfold ImportForm.line
  rw [hopen, hclose, hquote]
  simp

/-- **Which texts have the import of a name from a module in braces**: those with a line that is a
    spelling of it.  White space may stand between any two of its words and signs, and has to stand
    in front of the module; either quote may stand on either side; and semicolons may stand at the
    end. -/
theorem hasLine_iff_exists_spelling (hname : IsIdentifier name) (hmodule : IsModule module)
    (text : Text) : hasLine (ImportForm.braced.line name module) text = true ↔
      ∃ line ∈ pieces '\n' text, SpellsLine name module line := by
  have hword := isModule_of_isIdentifier hname
  have hwanted : canonical (ImportForm.braced.line name module) = canonicalImport name module :=
    (canonical_eq_iff hword hmodule).mpr (spellsLine_braced name module)
  rw [hasLine_iff (ImportForm.braced.canonical_line_ne_nil name module), hwanted]
  simp only [canonical_eq_iff hword hmodule]

/-- Hardly any white space, and white space that is no blank; and a line whose module touches the
    word in front of it. -/
theorem hasLine_iff_exists_spelling_sample :
    let found : Text := "a()\n\timport\x7b $S\x7dfrom\u00a0 \"p' ;; \r\n"
    let missed : Text := "import \x7b $S \x7d from'p'\n"
    (∃ line ∈ pieces '\n' found, SpellsLine "$S" "p" line) ∧
      ¬ ∃ line ∈ pieces '\n' missed, SpellsLine "$S" "p" line := by
  intro found missed
  have hname : IsIdentifier "$S" := by decide +kernel
  have hmodule : IsModule "p" := by decide +kernel
  have hfound : hasLine (ImportForm.braced.line "$S" "p") found = true := by decide +kernel
  have hmissed : hasLine (ImportForm.braced.line "$S" "p") missed = false := by decide +kernel
  refine ⟨(hasLine_iff_exists_spelling hname hmodule found).mp hfound, fun h => ?_⟩
  exact Bool.eq_false_iff.mp hmissed ((hasLine_iff_exists_spelling hname hmodule missed).mpr h)

end RouteLocalizer.Import
