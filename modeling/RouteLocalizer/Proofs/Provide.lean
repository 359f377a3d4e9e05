/-
  PROVIDING an import line: the line is there afterwards, and no other import line is lost.

  PROGRAM: `provide` looks for the line first, then for the import of the symbol; a line that
  imports it alone gives way to the new line, a binding among others is cut out of its line and the
  new line is inserted behind the imports, and without either the new line is inserted there too.
  SPECIFICATION, for texts whose line ends are paired:
  (1) `provide_provides` — the four ways, each with what is edited away: a whole line, or a part of
      one;
  (2) `hasLine_provide` — the line is a line of the text afterwards;
  (3) `hasLine_provide_other` — so is every import line of another symbol that was one before;
  (4) `endsPaired_provide` — line ends stay paired, so imports can be provided one after another.

  Both (2) and (3) follow from where the edits cut.  The search for a declaration finds whole lines,
  so a text is cut at the start and the end of a line and `hasLine` can be told part by part.  The
  line that goes away imports the symbol that is provided; a spelling of another symbol's import
  neither imports it alone nor binds it among others, so it is never that line.
-/
import RouteLocalizer.Proofs.Binding
import RouteLocalizer.Proofs.Lines

namespace RouteLocalizer.Import

open Text

/-! ## Import lines -/

/-- A line, without its line end, that imports one symbol from one package. -/
structure Imports (symbol package line : Text) : Prop where
  runs : runsOf isInk line = [keyword, symbol, fromWord, '\'' :: package ++ ['\'']]
  start : line.head? = some 'i'
  plain : ∀ c ∈ line, isLineEnd c = false
  symbol : IsSymbol symbol
  package : IsPackage package

/-- A line that imports one name from one module, of whatever words and signs these are made. -/
structure ImportsName (name module line : Text) : Prop where
  runs : runsOf isInk line = [keyword, name, fromWord, '\'' :: module ++ ['\'']]
  start : line.head? = some 'i'
  name : IsName name
  module : ∀ c ∈ module, ¬ isQuoteMark c

/-- A symbol and a package are a name and a module. -/
theorem Imports.importsName {symbol package line : Text} (h : Imports symbol package line) :
    ImportsName symbol package line :=
  ⟨h.runs, h.start, h.symbol.isName, h.package.noQuote⟩

namespace ImportsName

variable {name module line : Text}

/-- Something is left of such a line when spacing is thrown away. -/
theorem canonical_ne_nil (h : ImportsName name module line) : canonical line ≠ [] :=
  canonical_ne_nil_of_runs (by rw [h.runs]; simp)

/-- What is compared equal to it spells its import. -/
theorem spells (h : ImportsName name module line) {other : Text}
    (heq : canonical other = canonical line) : Spells name module other :=
  spells_of_canonical h.name.noQuote h.module h.runs h.start heq

end ImportsName

namespace Imports

variable {symbol package line : Text}

theorem canonical_ne_nil (h : Imports symbol package line) : canonical line ≠ [] :=
  h.importsName.canonical_ne_nil

theorem spells (h : Imports symbol package line) {other : Text}
    (heq : canonical other = canonical line) : Spells symbol package other :=
  h.importsName.spells heq

theorem newline_not_mem (h : Imports symbol package line) : '\n' ∉ line :=
  fun hmem => absurd (h.plain '\n' hmem) (by decide)

end Imports

/-! ## Inserting behind the imports -/

/-- The shape of import lines reads from the front of the text on. -/
theorem importLine_reads : importLine.Reads :=
  .lineStart (.run _ (.literal _ (.one _ .lineRest)))

theorem takeWhile_getLast?_ne (text : Text) :
    (text.takeWhile (!isLineEnd ·)).getLast? ≠ some '\r' := by
  intro h
  have hmem := List.mem_takeWhile_imp (List.mem_of_getLast? h)
  exact absurd hmem (by decide)

/-- A list of names that is read to its end ends with its brace. -/
theorem throughBrace_eq_some {text list rest : Text} (h : throughBrace text = some (list, rest)) :
    text = list ++ rest ∧ list.getLast? = some '\x7d' := by
  induction text generalizing list with
  | nil => cases h
  | cons c cs ih =>
    simp only [throughBrace] at h
    split at h
    · rename_i hc
      cases h
      exact ⟨rfl, by rw [hc]; rfl⟩
    · obtain ⟨⟨list', rest'⟩, hbrace, heq⟩ := Option.map_eq_some_iff.mp h
      simp only [Prod.mk.injEq] at heq
      obtain ⟨rfl, rfl⟩ := heq
      obtain ⟨htext, hlast⟩ := ih hbrace
      refine ⟨by rw [htext, List.cons_append], ?_⟩
      rw [List.getLast?_cons, hlast]
      rfl

/-- A place in a text where a line ends, as the searches leave it. -/
structure Cut (text front behind : Text) : Prop where
  whole : text = front ++ behind
  ends : ∃ more : Text, behind = more.dropWhile (!isLineEnd ·)
  front : front.getLast? ≠ some '\r'

/-- Behind the last import a line ends. -/
theorem Cut.atLineEnd {text front behind : Text} (h : Cut text front behind)
    (paired : endsPaired text = true) : AtLineEnd behind := by
  obtain ⟨more, hmore⟩ := h.ends
  rw [h.whole] at paired
  have := endsPaired_right paired
  rw [hmore] at this ⊢
  exact atLineEnd_of_dropWhile this

/-- The last import ends where a line ends, with its brace list or without. -/
theorem lastImport_cut {text : Text} {p : Passage} (h : lastImport text = some p) :
    Cut text (p.before ++ p.body) p.after := by
  obtain ⟨line, hline, rfl⟩ := Option.map_eq_some_iff.mp h
  obtain ⟨htext, hfits⟩ := Shape.lastFrom_eq_some importLine_reads hline
  obtain ⟨-, hrun⟩ := Shape.lineStart_eq_some.mp hfits
  obtain ⟨indent, more, hindent, -, hliteral⟩ := Shape.run_eq_some hrun
  obtain ⟨more', rfl, hone⟩ := Shape.literal_eq_some.mp hliteral
  obtain ⟨c, rest, rfl, hc, hrest⟩ := Shape.one_eq_some.mp hone
  have hafter := Shape.lineRest_eq_some.mp hrest
  have hbody : line.body = indent ++ (keyword ++ (c :: rest.takeWhile (!isLineEnd ·))) := by
    have hsplit : rest = rest.takeWhile (!isLineEnd ·) ++ line.after := by
      rw [hafter, List.takeWhile_append_dropWhile]
    rw [hsplit] at hindent
    exact List.append_cancel_right (hindent.trans (by simp))
  have hlast : (line.before ++ line.body).getLast? ≠ some '\r' := by
    rw [hbody]
    intro hr
    cases htake : rest.takeWhile (!isLineEnd ·) with
    | nil =>
      rw [htake] at hr
      obtain rfl : c = '\r' := by simpa using hr
      exact absurd hc (by decide)
    | cons d ds =>
      have hne := takeWhile_getLast?_ne rest
      rw [htake] at hr hne
      exact hne (by simpa [List.getLast?_append, List.getLast?_cons] using hr)
  unfold throughBraceList
  split
  · split
    · rename_i list behind hbrace
      obtain ⟨hlist, hclosing⟩ := throughBrace_eq_some hbrace
      refine ⟨?_, ⟨behind, rfl⟩, ?_⟩
      · rw [htext, hlist]
        simp
      · intro hr
        cases htake : behind.takeWhile (!isLineEnd ·) with
        | nil =>
          rw [htake, List.append_nil, ← List.append_assoc, List.getLast?_append, hclosing] at hr
          cases hr
        | cons d ds =>
          have hne := takeWhile_getLast?_ne behind
          rw [htake] at hr hne
          exact hne (by simpa [List.getLast?_append, List.getLast?_cons] using hr)
    · exact ⟨by rw [htext, List.append_assoc], ⟨rest, hafter⟩, hlast⟩
  · exact ⟨by rw [htext, List.append_assoc], ⟨rest, hafter⟩, hlast⟩

/-- The line end that a text is written with is one of the two. -/
theorem lineEnding_cases (text : Text) :
    lineEnding text = ['\n'] ∨ lineEnding text = ['\r', '\n'] := by
  unfold lineEnding
  split
  · exact .inr rfl
  · exact .inl rfl

theorem lineEnding_mem (text : Text) : lineEnding text ∈ [(['\n'] : Text), ['\r', '\n']] := by
  rcases lineEnding_cases text with h | h <;> simp [h]

/-- Behind a line end a line starts. -/
theorem atLineStart_lineEnding (front text : Text) : AtLineStart (front ++ lineEnding text) := by
  rcases lineEnding_cases text with h | h <;> rw [h]
  · exact .inr ⟨front, rfl⟩
  · exact .inr ⟨front ++ ['\r'], by simp⟩

/-- In front of a line end a line ends. -/
theorem atLineEnd_lineEnding (text rest : Text) : AtLineEnd (lineEnding text ++ rest) := by
  rcases lineEnding_cases text with h | h <;> rw [h]
  · exact .inr ⟨rest, .inl rfl⟩
  · exact .inr ⟨rest, .inr rfl⟩

/-- A line end is no line itself. -/
theorem lineCount_lineEnding {wanted : Text} (hw : canonical wanted ≠ []) (text rest : Text) :
    lineCount wanted (lineEnding text ++ rest) = lineCount wanted rest := by
  rcases lineEnding_cases text with h | h <;> rw [h]
  · exact lineCount_newline hw rest
  · exact lineCount_carriageReturn hw rest

/-- **Inserting a line** adds the line and changes no other. -/
theorem lineCount_insertBehindImports {wanted line text : Text} (hw : canonical wanted ≠ [])
    (paired : endsPaired text = true) :
    lineCount wanted (insertBehindImports line text) =
      lineCount wanted line + lineCount wanted text := by
  unfold insertBehindImports
  split
  · rename_i p hp
    have hcut := lastImport_cut hp
    have hafter := hcut.atLineEnd paired
    conv => rhs; rw [hcut.whole]
    have hassoc : p.insertBehind (lineEnding text ++ line) =
        (p.before ++ p.body) ++ (lineEnding text ++ (line ++ p.after)) := by
      simp [Passage.insertBehind]
    rw [hassoc, lineCount_append_of_end hw (atLineEnd_lineEnding text _), lineCount_lineEnding hw,
      lineCount_append_of_end hw hafter, lineCount_append_of_end hw hafter, Nat.add_left_comm]
  · rw [List.append_assoc, lineCount_append_of_end hw (atLineEnd_lineEnding text _),
      lineCount_lineEnding hw]

/-- **Inserting adds the line and loses none.** -/
theorem hasLine_insertBehindImports {wanted line text : Text} (hw : canonical wanted ≠ [])
    (paired : endsPaired text = true) :
    hasLine wanted (insertBehindImports line text) = true ↔
      hasLine wanted line = true ∨ hasLine wanted text = true := by
  simp only [hasLine_iff_lineCount_pos, lineCount_insertBehindImports hw paired,
    Nat.add_pos_iff_pos_or_pos]

/-- Inserting keeps line ends paired. -/
theorem endsPaired_insertBehindImports {line text : Text} (hline : endsPaired line = true)
    (paired : endsPaired text = true) : endsPaired (insertBehindImports line text) = true := by
  have hend : endsPaired (lineEnding text) = true := by
    rcases lineEnding_cases text with h | h <;> rw [h] <;> rfl
  unfold insertBehindImports
  split
  · rename_i p hp
    have hcut := lastImport_cut hp
    rw [hcut.whole] at paired
    exact endsPaired_append
      (endsPaired_append (endsPaired_left paired hcut.front) (endsPaired_append hend hline))
      (endsPaired_right paired)
  · exact endsPaired_append (endsPaired_append hline hend) paired

/-! ## Whole lines -/

/-- A passage that is a whole line, without its line end. -/
structure WholeLine (text : Text) (p : Passage) : Prop where
  whole : text = p.before ++ (p.body ++ p.after)
  starts : AtLineStart p.before
  plain : ∀ c ∈ p.body, isLineEnd c = false
  ends : AtLineEnd p.after

namespace WholeLine

variable {text : Text} {p : Passage}

theorem newline_not_mem (h : WholeLine text p) : '\n' ∉ p.body :=
  fun hmem => absurd (h.plain '\n' hmem) (by decide)

/-- A text is its whole line and what stands around it. -/
theorem lineCount_eq (h : WholeLine text p) {wanted : Text} (hw : canonical wanted ≠ []) :
    lineCount wanted text =
      lineCount wanted p.before + (lineCount wanted p.body + lineCount wanted p.after) := by
  rw [h.whole, lineCount_append_of_start hw h.starts, lineCount_append_of_end hw h.ends]

/-- A whole line gives way to another line. -/
theorem lineCount_replaceWith (h : WholeLine text p) {wanted : Text} (hw : canonical wanted ≠ [])
    (line : Text) : lineCount wanted (p.replaceWith line) =
      lineCount wanted p.before + (lineCount wanted line + lineCount wanted p.after) := by
  rw [Passage.replaceWith, List.append_assoc, lineCount_append_of_start hw h.starts,
    lineCount_append_of_end hw h.ends]

/-- A text with a whole line in it: its lines are those in front, that one, and those behind. -/
theorem hasLine_iff (h : WholeLine text p) {wanted : Text} (hw : canonical wanted ≠ []) :
    hasLine wanted text = true ↔ hasLine wanted p.before = true ∨
      canonical p.body = canonical wanted ∨ hasLine wanted p.after = true := by
  rw [← hasLine_of_not_mem hw h.newline_not_mem]
  simp only [hasLine_iff_lineCount_pos, h.lineCount_eq hw, Nat.add_pos_iff_pos_or_pos]

/-- Replacing a whole line exchanges that one. -/
theorem hasLine_replaceWith (h : WholeLine text p) {wanted line : Text}
    (hw : canonical wanted ≠ []) :
    hasLine wanted (p.replaceWith line) = true ↔ hasLine wanted p.before = true ∨
      hasLine wanted line = true ∨ hasLine wanted p.after = true := by
  simp only [hasLine_iff_lineCount_pos, h.lineCount_replaceWith hw, Nat.add_pos_iff_pos_or_pos]

/-- The text around a whole line is paired when the text is. -/
theorem endsPaired_around (h : WholeLine text p) (paired : endsPaired text = true) :
    endsPaired p.before = true ∧ endsPaired p.after = true := by
  rw [h.whole] at paired
  refine ⟨endsPaired_left paired ?_, endsPaired_right (endsPaired_right paired)⟩
  rcases h.starts with hnil | ⟨front, hfront⟩
  · simp [hnil]
  · simp [hfront]

/-- Line ends stay paired when a whole line gives way to another. -/
theorem endsPaired_replaceWith (h : WholeLine text p) (paired : endsPaired text = true)
    {line : Text} (hline : endsPaired line = true) : endsPaired (p.replaceWith line) = true := by
  obtain ⟨hbefore, hafter⟩ := h.endsPaired_around paired
  exact endsPaired_append (endsPaired_append hbefore hline) hafter

/-- A whole line ends where the text goes on with a line end. -/
theorem takeWhile_eq (h : WholeLine text p) :
    (p.body ++ p.after).takeWhile (!isLineEnd ·) = p.body := by
  refine takeWhile_of_end (fun c hc => by simp [h.plain c hc]) ?_
  rcases h.ends with hnil | ⟨rest, hrest | hrest⟩
  · simp [hnil]
  · simp [hrest, isLineEnd]
  · simp [hrest, isLineEnd]

/-- A whole line is known from where it starts. -/
theorem eq_of_before {q : Passage} (hp : WholeLine text p)
    (hq : WholeLine text q) (h : p.before = q.before) : p = q := by
  obtain ⟨before, body, after⟩ := p
  obtain ⟨before', body', after'⟩ := q
  obtain rfl : before = before' := h
  have hrest : body ++ after = body' ++ after' :=
    (List.append_right_inj before).mp (hp.whole.symm.trans hq.whole)
  have hbody : body = body' := by
    have htake := hp.takeWhile_eq
    simp only [hrest] at htake
    exact htake.symm.trans hq.takeWhile_eq
  rw [hbody] at hrest ⊢
  rw [(List.append_right_inj body').mp hrest]

end WholeLine

/-- A find that starts where a line starts and takes the rest of the line is a whole line. -/
theorem wholeLine_of_find {text : Text} (front more : Text) {p : Passage}
    (paired : endsPaired text = true) (whole : text = p.before ++ (p.body ++ p.after))
    (starts : isLineStart (Shape.behind none p.before) (p.body ++ p.after) = true)
    (found : p.body ++ p.after = front ++ more) (plain : ∀ c ∈ front, isLineEnd c = false)
    (after : p.after = more.dropWhile (!isLineEnd ·)) :
    WholeLine text p ∧ p.body = front ++ more.takeWhile (!isLineEnd ·) := by
  have hbody : p.body = front ++ more.takeWhile (!isLineEnd ·) := by
    have hsplit : more = more.takeWhile (!isLineEnd ·) ++ p.after := by
      rw [after, List.takeWhile_append_dropWhile]
    rw [hsplit, ← List.append_assoc] at found
    exact List.append_cancel_right found
  refine ⟨⟨whole, ?_, ?_, ?_⟩, hbody⟩
  · rw [whole] at paired
    exact atLineStart_of_isLineStart paired (by simpa [Shape.behind] using starts)
  · intro c hc
    rw [hbody] at hc
    rcases List.mem_append.mp hc with hc | hc
    · exact plain c hc
    · simpa using List.mem_takeWhile_imp hc
  · rw [whole] at paired
    have := endsPaired_right (endsPaired_right paired)
    rw [after] at this ⊢
    exact atLineEnd_of_dropWhile this

/-- The shape of a line that imports the symbol alone reads from the front on, ... -/
theorem standaloneLine_reads (symbol : Text) : (standaloneLine symbol).Reads :=
  .lineStart (.run _ (.literal _ (.runOne _ (.literal _ (.runOne _ (.literal _
    (.boundary .lineRest)))))))

/-- A character that may stand beside the symbol on a line that imports it alone. -/
def isBesideAlone (c : Char) : Bool := isIndent c || c == '\x7b' || c == '\x7d'

/-- Blanks and braces are neither ink nor line ends. -/
theorem isBesideAlone_gap {c : Char} (h : isBesideAlone c = true) :
    isInk c = false ∧ isLineEnd c = false := by
  have : c = ' ' ∨ c = '\t' ∨ c = '\x7b' ∨ c = '\x7d' := by
    simpa [isBesideAlone, isIndent, or_assoc] using h
  rcases this with rfl | rfl | rfl | rfl <;> decide

theorem isBesideAlone_of_isIndent {c : Char} (h : isIndent c = true) : isBesideAlone c = true := by
  simp [isBesideAlone, h]

/-- The two gaps around a symbol that is imported alone, together. -/
theorem isBesideAlone_of_gaps {gap₁ gap₂ : Text}
    (hgap₁ : ∀ c ∈ gap₁, (isIndent c || c == '\x7b') = true)
    (hgap₂ : ∀ c ∈ gap₂, (isIndent c || c == '\x7d') = true) :
    ∀ c ∈ gap₁ ++ gap₂, isBesideAlone c = true := by
  refine List.forall_mem_append.mpr ⟨fun c hc => ?_, fun c hc => ?_⟩
  · exact Bool.or_eq_true_iff.mpr (.inl (hgap₁ c hc))
  · rcases Bool.or_eq_true_iff.mp (hgap₂ c hc) with h | h
    · exact isBesideAlone_of_isIndent h
    · exact Bool.or_eq_true_iff.mpr (.inr h)

/-- A line that imports the symbol alone, taken apart. -/
theorem findStandalone_eq_some {symbol text : Text} {p : Passage}
    (h : findStandalone symbol text = some (.standalone p)) :
    text = p.before ++ (p.body ++ p.after) ∧
      isLineStart (Shape.behind none p.before) (p.body ++ p.after) = true ∧
      ∃ indent gap₁ gap₂ rest, p.body ++ p.after =
          indent ++ (keyword ++ (gap₁ ++ (symbol ++ (gap₂ ++ (fromWord ++ rest))))) ∧
        p.after = rest.dropWhile (!isLineEnd ·) ∧ gap₁ ≠ [] ∧ gap₂ ≠ [] ∧
        (∀ c ∈ indent, isIndent c = true) ∧ (∀ c ∈ gap₁, (isIndent c || c == '\x7b') = true) ∧
        (∀ c ∈ gap₂, (isIndent c || c == '\x7d') = true) ∧
        rest.head?.any isWordChar = false := by
  obtain ⟨q, hq, heq⟩ := Option.map_eq_some_iff.mp h
  cases heq
  obtain ⟨htext, hfits, -⟩ := Shape.firstFrom_eq_some (standaloneLine_reads symbol) hq
  obtain ⟨hstart, hrun⟩ := Shape.lineStart_eq_some.mp hfits
  obtain ⟨indent, more, hindentText, hindent, hliteral⟩ := Shape.run_eq_some hrun
  obtain ⟨more₁, rfl, hgap₁⟩ := Shape.literal_eq_some.mp hliteral
  obtain ⟨gap₁, more₂, rfl, hne₁, hclass₁, hname⟩ := Shape.runOne_eq_some hgap₁
  obtain ⟨more₃, rfl, hgap₂⟩ := Shape.literal_eq_some.mp hname
  obtain ⟨gap₂, more₄, rfl, hne₂, hclass₂, hfrom⟩ := Shape.runOne_eq_some hgap₂
  obtain ⟨rest, rfl, hboundary⟩ := Shape.literal_eq_some.mp hfrom
  obtain ⟨hword, hrest⟩ := Shape.boundary_eq_some.mp hboundary
  exact ⟨htext, hstart, indent, gap₁, gap₂, rest, hindentText, Shape.lineRest_eq_some.mp hrest,
    hne₁, hne₂, hindent, hclass₁, hclass₂, (isBoundary_fromWord _ _).mp hword⟩

/-- The line itself, taken apart. -/
theorem standalone_body {symbol text : Text} {p : Passage}
    (h : findStandalone symbol text = some (.standalone p)) :
    ∃ indent gap₁ gap₂ rest, p.body =
        indent ++ (keyword ++ (gap₁ ++ (symbol ++ (gap₂ ++ (fromWord ++ rest))))) ∧
      gap₁ ≠ [] ∧ gap₂ ≠ [] ∧ (∀ c ∈ indent, isIndent c = true) ∧
      (∀ c ∈ gap₁, (isIndent c || c == '\x7b') = true) ∧
      (∀ c ∈ gap₂, (isIndent c || c == '\x7d') = true) ∧ rest.head?.any isWordChar = false := by
  obtain ⟨-, -, indent, gap₁, gap₂, rest, hparts, hafter, hne₁, hne₂, hindent, hgap₁, hgap₂,
    hrest⟩ := findStandalone_eq_some h
  refine ⟨indent, gap₁, gap₂, rest.takeWhile (!isLineEnd ·), ?_, hne₁, hne₂, hindent, hgap₁, hgap₂,
    ?_⟩
  · refine (List.append_left_inj p.after).mp ?_
    have hsplit : rest.takeWhile (!isLineEnd ·) ++ p.after = rest := by
      rw [hafter, List.takeWhile_append_dropWhile]
    simpa [hsplit] using hparts
  · cases rest with
    | nil => rfl
    | cons c rest =>
      rw [List.takeWhile_cons]
      split
      · exact hrest
      · rfl

/-- A line that imports the symbol alone is a whole line. -/
theorem standalone_wholeLine {symbol text : Text} {p : Passage}
    (hsymbol : ∀ c ∈ symbol, isLineEnd c = false) (paired : endsPaired text = true)
    (h : findStandalone symbol text = some (.standalone p)) : WholeLine text p := by
  obtain ⟨htext, hstart, indent, gap₁, gap₂, rest, hparts, hafter, -, -, hindent, hgap₁, hgap₂,
    -⟩ := findStandalone_eq_some h
  have hgaps := isBesideAlone_of_gaps hgap₁ hgap₂
  have hfront : ∀ c ∈ indent ++ (keyword ++ (gap₁ ++ (symbol ++ (gap₂ ++ fromWord)))),
      isLineEnd c = false := by
    intro c hc
    simp only [List.mem_append] at hc
    rcases hc with hc | hc | hc | hc | hc | hc
    · exact (isBesideAlone_gap (isBesideAlone_of_isIndent (hindent c hc))).2
    · exact (show ∀ c ∈ keyword, isLineEnd c = false by decide) c hc
    · exact (isBesideAlone_gap (hgaps c (by simp [hc]))).2
    · exact hsymbol c hc
    · exact (isBesideAlone_gap (hgaps c (by simp [hc]))).2
    · exact (show ∀ c ∈ fromWord, isLineEnd c = false by decide) c hc
  exact (wholeLine_of_find _ rest paired htext hstart (by simpa using hparts) hfront hafter).1

/-- A line that imports the symbol alone spells the import of no other symbol. -/
theorem standalone_spells {symbol text : Text} {p : Passage} (hsymbol : IsName symbol)
    (h : findStandalone symbol text = some (.standalone p)) {other package : Text}
    (spells : Spells other package p.body) : symbol = other := by
  obtain ⟨indent, gap₁, gap₂, rest, hbody, hne₁, hne₂, hindent, hgap₁, hgap₂, -⟩ :=
    standalone_body h
  have hgap : ∀ c ∈ gap₁ ++ gap₂, isInk c = false := fun c hc =>
    (isBesideAlone_gap (isBesideAlone_of_gaps hgap₁ hgap₂ c hc)).1
  exact spells.eq_of_standalone hsymbol hbody
    (fun c hc => (isBesideAlone_gap (isBesideAlone_of_isIndent (hindent c hc))).1)
    (fun c hc => hgap c (by simp [hc])) (fun c hc => hgap c (by simp [hc])) hne₁ hne₂

/-- ... and so does the one of a line with a list of names. -/
theorem groupedLine_reads (symbol : Text) : (groupedLine symbol).Reads := by
  refine .lineStart ?_
  intro last text rest h
  simp only at h
  split at h
  · cases h
    exact List.dropWhile_suffix _
  · cases h

/-- A line that binds the symbol among others is a whole line. -/
theorem grouped_found {symbol text : Text} {p binding : Passage} (paired : endsPaired text = true)
    (h : findGrouped symbol text = some (.grouped p binding)) :
    WholeLine text p ∧ bindingOnLine symbol p.body = some binding := by
  unfold findGrouped at h
  split at h
  · rename_i q hq
    obtain ⟨b, hb, heq⟩ := Option.map_eq_some_iff.mp h
    cases heq
    obtain ⟨htext, hfits, -⟩ := Shape.firstFrom_eq_some (groupedLine_reads symbol) hq
    obtain ⟨hstart, hgrouped⟩ := Shape.lineStart_eq_some.mp hfits
    split at hgrouped
    · exact ⟨(wholeLine_of_find [] _ paired htext hstart rfl (by simp)
        (Option.some.inj hgrouped).symm).1, hb⟩
    · cases hgrouped
  · cases h

/-! ## Providing an import -/

/-- What a symbol's import is found as: a line of its own, or a line that binds it among others. -/
theorem find_eq_some {symbol text : Text} {site : ImportSite} (h : find symbol text = some site) :
    (∃ p, site = .standalone p ∧ findStandalone symbol text = some (.standalone p)) ∨
      ∃ p b, site = .grouped p b ∧ findGrouped symbol text = some (.grouped p b) := by
  rcases Option.or_eq_some_iff.mp h with h | ⟨-, h⟩
  · obtain ⟨p, hp, rfl⟩ := Option.map_eq_some_iff.mp h
    exact .inl ⟨p, rfl, h⟩
  · unfold findGrouped at h
    split at h
    · rename_i p hp
      obtain ⟨b, hb, rfl⟩ := Option.map_eq_some_iff.mp h
      exact .inr ⟨p, b, rfl, by simp [findGrouped, hp, hb]⟩
    · cases h

/-- A line that imports the symbol alone is a whole line. -/
theorem find_standalone {symbol text : Text} {p : Passage}
    (hsymbol : ∀ c ∈ symbol, isLineEnd c = false) (paired : endsPaired text = true)
    (h : find symbol text = some (.standalone p)) :
    findStandalone symbol text = some (.standalone p) ∧ WholeLine text p := by
  rcases find_eq_some h with ⟨_, heq, hp⟩ | ⟨_, _, heq, -⟩
  · cases heq
    exact ⟨hp, standalone_wholeLine hsymbol paired hp⟩
  · cases heq

/-- A line that binds the symbol among others is a whole line. -/
theorem find_grouped {symbol text : Text} {p b : Passage} (paired : endsPaired text = true)
    (h : find symbol text = some (.grouped p b)) :
    WholeLine text p ∧ bindingOnLine symbol p.body = some b := by
  rcases find_eq_some h with ⟨_, heq, -⟩ | ⟨_, _, heq, hp⟩
  · cases heq
  · cases heq
    exact grouped_found paired hp

/-- Dropping the line end that a line leaves behind drops no line. -/
theorem lineCount_dropLineEnd {wanted text : Text} (hw : canonical wanted ≠ [])
    (h : AtLineEnd text) : lineCount wanted (dropLineEnd text) = lineCount wanted text := by
  rcases h with rfl | ⟨rest, rfl | rfl⟩
  · rfl
  · exact (lineCount_newline hw rest).symm
  · exact (lineCount_carriageReturn hw rest).symm

/-- Nor does it take a pair apart. -/
theorem endsPaired_dropLineEnd {text : Text} (h : endsPaired text = true) :
    endsPaired (dropLineEnd text) = true := by
  unfold dropLineEnd
  split
  · exact endsPaired_right (a := ['\r', '\n']) h
  · exact endsPaired_right (a := ['\n']) h
  · exact h

/-- What cutting a binding out leaves of its line stands among the lines around it. -/
theorem WholeLine.lineCount_exciseBinding {text wanted : Text} {p : Passage} (h : WholeLine text p)
    (hw : canonical wanted ≠ []) (b : Passage) : lineCount wanted (exciseBinding p b) =
      lineCount wanted p.before +
        ((lineWithout b).elim 0 (lineCount wanted) + lineCount wanted p.after) := by
  unfold exciseBinding
  split
  · rename_i rest hrest
    rw [h.lineCount_replaceWith hw, hrest, Option.elim_some]
  · rename_i hrest
    rw [lineCount_append_of_start hw h.starts, lineCount_dropLineEnd hw h.ends, hrest,
      Option.elim_none, Nat.zero_add]

/-- Cutting a binding out keeps the lines that do not bind its symbol, and pairs line ends. -/
theorem exciseBinding_keeps {symbol text : Text} {p b : Passage} (hline : WholeLine text p)
    (hb : bindingOnLine symbol p.body = some b) (paired : endsPaired text = true) :
    endsPaired (exciseBinding p b) = true ∧
      ∀ {other module wanted : Text}, ImportsName other module wanted → IsName symbol →
        symbol ≠ other → hasLine wanted text = true →
          hasLine wanted (exciseBinding p b) = true := by
  obtain ⟨hbefore, hafter⟩ := hline.endsPaired_around paired
  constructor
  · unfold exciseBinding
    split
    · rename_i rest hrest
      refine hline.endsPaired_replaceWith paired (endsPaired_of_noLineEnd fun c hc => ?_)
      exact hline.plain c (bindingOnLine_subset hb (lineWithout_subset hrest hc))
    · exact endsPaired_append hbefore (endsPaired_dropLineEnd hafter)
  · intro other module wanted himport hsymbol hne htext
    have hw := himport.canonical_ne_nil
    have hgone : canonical p.body ≠ canonical wanted := by
      intro heq
      have hnone := (himport.spells heq).bindingOnLine_eq_none himport.name hsymbol hne
      rw [hb] at hnone
      cases hnone
    have hbody : lineCount wanted p.body = 0 := by
      rw [lineCount_of_not_mem hw hline.newline_not_mem, if_neg hgone]
    rw [hasLine_iff_lineCount_pos, hline.lineCount_eq hw, hbody] at htext
    rw [hasLine_iff_lineCount_pos, hline.lineCount_exciseBinding hw]
    omega

/-- The four ways in which an import is provided. -/
inductive Provides (symbol line text : Text) : Text → Prop where
  | present (found : hasLine line text = true) : Provides symbol line text text
  | replaced {old : Passage} (missing : hasLine line text = false)
      (found : find symbol text = some (.standalone old))
      (alone : findStandalone symbol text = some (.standalone old)) (whole : WholeLine text old) :
      Provides symbol line text (old.replaceWith line)
  | moved {old binding : Passage} (missing : hasLine line text = false)
      (found : find symbol text = some (.grouped old binding)) (whole : WholeLine text old)
      (bound : bindingOnLine symbol old.body = some binding) :
      Provides symbol line text (insertBehindImports line (exciseBinding old binding))
  | added (missing : hasLine line text = false) (found : find symbol text = none) :
      Provides symbol line text (insertBehindImports line text)

/-- An import is provided in one of the four ways, and what is edited away is a whole line or a
    part of one. -/
theorem provide_provides {symbol text : Text} (hsymbol : ∀ c ∈ symbol, isLineEnd c = false)
    (paired : endsPaired text = true) (line : Text) :
    Provides symbol line text (provide symbol line text) := by
  unfold provide
  split
  · exact .present ‹_›
  · rename_i hmissing
    have hmissing : hasLine line text = false := by simpa using hmissing
    split
    · rename_i hfind
      obtain ⟨halone, hwhole⟩ := find_standalone hsymbol paired hfind
      exact .replaced hmissing hfind halone hwhole
    · rename_i hfind
      obtain ⟨hwhole, hbound⟩ := find_grouped paired hfind
      exact .moved hmissing hfind hwhole hbound
    · exact .added hmissing ‹_›

/-- **Providing an import** makes its line a line of the text. -/
theorem hasLine_provide {searched line text : Text}
    (hsearched : ∀ c ∈ searched, isLineEnd c = false) (hw : canonical line ≠ [])
    (plain : '\n' ∉ line) (paired : endsPaired text = true) :
    hasLine line (provide searched line text) = true := by
  have hself : hasLine line line = true := (hasLine_of_not_mem hw plain).mpr rfl
  have hout := provide_provides hsearched paired line
  generalize provide searched line text = out at hout ⊢
  cases hout with
  | present found => exact found
  | replaced _ _ _ whole => exact (whole.hasLine_replaceWith hw).mpr (.inr (.inl hself))
  | moved _ _ whole bound =>
    exact (hasLine_insertBehindImports hw (exciseBinding_keeps whole bound paired).1).mpr
      (.inl hself)
  | added => exact (hasLine_insertBehindImports hw paired).mpr (.inl hself)

/-- Providing an import keeps line ends paired. -/
theorem endsPaired_provide {searched line text : Text}
    (hsearched : ∀ c ∈ searched, isLineEnd c = false) (plain : ∀ c ∈ line, isLineEnd c = false)
    (paired : endsPaired text = true) : endsPaired (provide searched line text) = true := by
  have hline := endsPaired_of_noLineEnd plain
  have hout := provide_provides hsearched paired line
  generalize provide searched line text = out at hout ⊢
  cases hout with
  | present => exact paired
  | replaced _ _ _ whole => exact whole.endsPaired_replaceWith paired hline
  | moved _ _ whole bound =>
    exact endsPaired_insertBehindImports hline (exciseBinding_keeps whole bound paired).1
  | added => exact endsPaired_insertBehindImports hline paired

/-- **Providing an import keeps the imports of other symbols.** -/
theorem hasLine_provide_other {searched line name module wanted text : Text}
    (hsearched : IsName searched) (h : ImportsName name module wanted) (hne : searched ≠ name)
    (paired : endsPaired text = true) (hline : hasLine wanted text = true) :
    hasLine wanted (provide searched line text) = true := by
  have hw := h.canonical_ne_nil
  have hout := provide_provides hsearched.oneLine paired line
  generalize provide searched line text = out at hout ⊢
  cases hout with
  | present => exact hline
  | replaced _ _ alone whole =>
    rw [whole.hasLine_iff hw] at hline
    rw [whole.hasLine_replaceWith hw]
    rcases hline with hline | hline | hline
    · exact .inl hline
    · exact absurd (standalone_spells hsearched alone (h.spells hline)) hne
    · exact .inr (.inr hline)
  | moved _ _ whole bound =>
    obtain ⟨hpaired, hkeeps⟩ := exciseBinding_keeps whole bound paired
    exact (hasLine_insertBehindImports hw hpaired).mpr (.inr (hkeeps h hsearched hne hline))
  | added => exact (hasLine_insertBehindImports hw paired).mpr (.inr hline)

/-- An import that is there is left alone. -/
theorem provide_of_hasLine {symbol line text : Text} (h : hasLine line text = true) :
    provide symbol line text = text := by
  simp [provide, h]

end RouteLocalizer.Import
