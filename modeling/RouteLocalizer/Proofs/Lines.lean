/-
  The LINES of a text, and what an edit in the middle of a text leaves of them.

  How often a text has a given line can be told part by part, if the text is cut where a line starts
  or ends (`lineCount_append_of_start`, `lineCount_append_of_end`), and so can whether it has the
  line at all.  So an edit keeps a line unless the line runs through what is edited away
  (`hasLine_replaced`), and that is left to show for each edit.

  PROGRAM: `lines` are the pieces of a text between line feeds, without an empty one at the end;
  `hasLine` compares their canonical forms with that of an import line.
  SPECIFICATION:
  (1) `pieces_eq_lines`, `lineCount_eq` — lines may be counted as pieces, which have no exception at
      the end of the text, if the line that is looked for is not empty;
  (2) `lineCount_append_newline` and the two cuts above — the count of a text is that of its parts;
  (3) `hasLine_replaced` — the general form of an edit: a body between two parts gives way to
      another body.

  A text whose line ends are PAIRED has a line feed behind each carriage return.  There the two
  notions of a line's start and end, the one of the searches and the one of the cuts, agree.
-/
import RouteLocalizer.Proofs.Places
import RouteLocalizer.Proofs.Spelling

namespace RouteLocalizer

namespace Text

/-! ## Pieces -/

/-- A text without the separator is one piece. -/
theorem pieces_of_not_mem {separator : Char} {text : Text} (h : separator ∉ text) :
    pieces separator text = [text] := by
  induction text with
  | nil => rfl
  | cons c cs ih =>
    have hc : c ≠ separator := fun heq => h (by simp [heq])
    simp [pieces, hc, ih fun hmem => h (List.mem_cons_of_mem _ hmem)]

/-- What is written behind a text without a separator goes to the last piece. -/
theorem pieces_append_of_not_mem {separator : Char} (text : Text) {tail : Text}
    (h : separator ∉ tail) :
    ∃ init last, pieces separator text = init ++ [last] ∧
      pieces separator (text ++ tail) = init ++ [last ++ tail] := by
  induction text with
  | nil => exact ⟨[], [], rfl, by simpa using pieces_of_not_mem h⟩
  | cons c cs ih =>
    obtain ⟨init, last, htext, htail⟩ := ih
    by_cases hc : c = separator
    · exact ⟨[] :: init, last, by simp [pieces, hc, htext], by simp [pieces, hc, htail]⟩
    · cases init with
      | nil => exact ⟨[], c :: last, by simp [pieces, hc, htext], by simp [pieces, hc, htail]⟩
      | cons p ps =>
        exact ⟨(c :: p) :: ps, last, by simp [pieces, hc, htext], by simp [pieces, hc, htail]⟩

/-- A piece has no character that the text does not have. -/
theorem subset_of_mem_pieces {separator : Char} {text piece : Text}
    (h : piece ∈ pieces separator text) : piece ⊆ text := by
  induction text generalizing piece with
  | nil =>
    obtain rfl := List.mem_singleton.mp h
    exact List.Subset.refl []
  | cons c cs ih =>
    by_cases hc : c = separator
    · simp only [pieces, hc, if_true, List.mem_cons] at h
      rcases h with rfl | h
      · exact List.nil_subset _
      · exact List.subset_cons_of_subset c (ih h)
    · simp only [pieces, hc, if_false] at h
      cases hcs : pieces separator cs with
      | nil => exact absurd hcs (pieces_ne_nil _ _)
      | cons p ps =>
        rw [hcs] at h ih
        rcases List.mem_cons.mp h with rfl | h
        · exact List.cons_subset_cons c (ih List.mem_cons_self)
        · exact List.subset_cons_of_subset c (ih (List.mem_cons_of_mem _ h))

/-- Lines are pieces between line feeds, without an empty one at the end. -/
theorem pieces_eq_lines (text : Text) :
    ∃ tail, pieces '\n' text = lines text ++ tail ∧ (tail = [] ∨ tail = [[]]) := by
  induction text with
  | nil => exact ⟨[[]], rfl, .inr rfl⟩
  | cons c cs ih =>
    obtain ⟨tail, hpieces, htail⟩ := ih
    by_cases hc : c = '\n'
    · exact ⟨tail, by simp [pieces, lines, hc, hpieces], htail⟩
    · cases hlines : lines cs with
      | nil =>
        rw [hlines] at hpieces
        rcases htail with rfl | rfl
        · exact absurd hpieces (pieces_ne_nil _ _)
        · exact ⟨[], by simp [pieces, lines, hc, hpieces, hlines], .inl rfl⟩
      | cons l ls =>
        rw [hlines] at hpieces
        exact ⟨tail, by simp [pieces, lines, hc, hpieces, hlines], htail⟩

/-! ## Where lines start and end -/

/-- A text behind which a line starts. -/
def AtLineStart (text : Text) : Prop := text = [] ∨ ∃ front, text = front ++ ['\n']

/-- A text in front of which a line ends. -/
def AtLineEnd (text : Text) : Prop :=
  text = [] ∨ ∃ rest, text = '\n' :: rest ∨ text = '\r' :: '\n' :: rest

/-- Every text ends with a part of a line. -/
theorem exists_lastLine (text : Text) :
    ∃ front line, text = front ++ line ∧ AtLineStart front ∧ '\n' ∉ line := by
  induction text with
  | nil => exact ⟨[], [], rfl, .inl rfl, by simp⟩
  | cons c cs ih =>
    obtain ⟨front, line, rfl, hfront, hline⟩ := ih
    rcases hfront with rfl | ⟨front, rfl⟩
    · by_cases hc : c = '\n'
      · exact ⟨['\n'], line, by simp [hc], .inr ⟨[], rfl⟩, hline⟩
      · exact ⟨[], c :: line, by simp, .inl rfl, by simp [Ne.symm hc, hline]⟩
    · exact ⟨c :: (front ++ ['\n']), line, by simp, .inr ⟨c :: front, by simp⟩, hline⟩

/-- Every text starts with a part of a line. -/
theorem exists_firstLine (text : Text) :
    ∃ line rest, text = line ++ rest ∧ '\n' ∉ line ∧ AtLineEnd rest := by
  induction text with
  | nil => exact ⟨[], [], rfl, by simp, .inl rfl⟩
  | cons c cs ih =>
    obtain ⟨line, rest, rfl, hline, hrest⟩ := ih
    by_cases hc : c = '\n'
    · exact ⟨[], '\n' :: (line ++ rest), by simp [hc], by simp, .inr ⟨_, .inl rfl⟩⟩
    · exact ⟨c :: line, rest, by simp, by simp [Ne.symm hc, hline], hrest⟩

/-- What a line starts behind ends with a line feed. -/
theorem atLineStart_append {a b : Text} (h : AtLineStart (a ++ b)) (hne : b ≠ []) :
    ∃ front, b = front ++ ['\n'] := by
  obtain ⟨front, c, rfl⟩ := exists_concat hne
  rcases h with hnil | ⟨more, hmore⟩
  · simp at hnil
  · rw [← List.append_assoc] at hmore
    obtain ⟨-, hc⟩ := List.append_inj' hmore rfl
    exact ⟨front, by rw [hc]⟩

/-- Up to a line feed, what stands behind the end of a line is one. -/
theorem atLineEnd_left {a b : Text} (h : AtLineEnd (a ++ '\n' :: b)) : AtLineEnd (a ++ ['\n']) := by
  right
  cases a with
  | nil => exact ⟨[], .inl rfl⟩
  | cons c a =>
    rcases h with hnil | ⟨rest, hrest | hrest⟩
    · cases hnil
    · obtain ⟨rfl, -⟩ := List.cons.inj hrest
      exact ⟨a ++ ['\n'], .inl rfl⟩
    · obtain ⟨rfl, hmore⟩ := List.cons.inj hrest
      cases a with
      | nil => exact ⟨[], .inr rfl⟩
      | cons d a =>
        obtain ⟨rfl, -⟩ := List.cons.inj hmore
        exact ⟨a ++ ['\n'], .inr rfl⟩

/-! ## Paired line ends -/

/-- Whether a line feed stands behind each carriage return. -/
def endsPaired : Text → Bool
  | [] => true
  | c :: cs => (c != '\r' || cs.head? == some '\n') && endsPaired cs

/-- Two paired texts put together are paired. -/
theorem endsPaired_append {a b : Text} (ha : endsPaired a = true) (hb : endsPaired b = true) :
    endsPaired (a ++ b) = true := by
  induction a with
  | nil => exact hb
  | cons c a ih =>
    simp only [endsPaired, List.cons_append, Bool.and_eq_true] at ha ⊢
    refine ⟨?_, ih ha.2⟩
    cases a with
    | nil =>
      have hc : c ≠ '\r' := by simpa using ha.1
      simp [hc]
    | cons d a => exact ha.1

/-- What stands at the end of a paired text is paired, wherever it is cut. -/
theorem endsPaired_right {a b : Text} (h : endsPaired (a ++ b) = true) : endsPaired b = true := by
  induction a with
  | nil => exact h
  | cons c a ih =>
    simp only [endsPaired, List.cons_append, Bool.and_eq_true] at h
    exact ih h.2

/-- What stands in front is paired too, unless the cut runs through a pair. -/
theorem endsPaired_left {a b : Text} (h : endsPaired (a ++ b) = true)
    (ha : a.getLast? ≠ some '\r') : endsPaired a = true := by
  induction a with
  | nil => rfl
  | cons c a ih =>
    simp only [endsPaired, List.cons_append, Bool.and_eq_true] at h ⊢
    cases a with
    | nil =>
      have hc : c ≠ '\r' := by simpa using ha
      simp [hc, endsPaired]
    | cons d a => exact ⟨h.1, ih h.2 (by simpa [List.getLast?_cons] using ha)⟩

/-- A character that ends no line is no carriage return. -/
theorem ne_carriageReturn {c : Char} (h : isLineEnd c = false) : c ≠ '\r' := by
  rintro rfl
  exact absurd h (by decide)

/-- A text of one line has nothing to pair. -/
theorem endsPaired_of_noLineEnd {text : Text} (h : ∀ c ∈ text, isLineEnd c = false) :
    endsPaired text = true := by
  induction text with
  | nil => rfl
  | cons c cs ih =>
    have hc : c ≠ '\r' := ne_carriageReturn (h c (by simp))
    simp [endsPaired, hc, ih fun d hd => h d (by simp [hd])]

/-- Where the searches see the start of a line, a line starts. -/
theorem atLineStart_of_isLineStart {before rest : Text}
    (paired : endsPaired (before ++ rest) = true)
    (h : isLineStart before.getLast? rest = true) : AtLineStart before := by
  cases hlast : before.getLast? with
  | none => exact .inl (List.getLast?_eq_none_iff.mp hlast)
  | some c =>
    obtain ⟨front, rfl⟩ := List.getLast?_eq_some_iff.mp hlast
    rw [hlast] at h
    by_cases hn : c = '\n'
    · exact .inr ⟨front, by rw [hn]⟩
    · by_cases hr : c = '\r'
      · subst hr
        rw [List.append_assoc] at paired
        have := endsPaired_right paired
        simp [endsPaired, isLineStart] at this h
        exact absurd this.1 h
      · unfold isLineStart at h
        split at h <;> simp_all

/-- Where a line starts, the searches see the start of one. -/
theorem isLineStart_of_atLineStart {before : Text} (h : AtLineStart before) (rest : Text) :
    isLineStart before.getLast? rest = true := by
  rcases h with rfl | ⟨front, rfl⟩
  · rfl
  · rw [List.getLast?_concat]
    rfl

/-- What the searches leave behind a line starts with a line end. -/
theorem atLineEnd_of_dropWhile {text : Text}
    (paired : endsPaired (text.dropWhile (!isLineEnd ·)) = true) :
    AtLineEnd (text.dropWhile (!isLineEnd ·)) := by
  cases hdrop : text.dropWhile (!isLineEnd ·) with
  | nil => exact .inl rfl
  | cons c cs =>
    have hc : isLineEnd c = true := by
      have := List.head?_dropWhile_not (!isLineEnd ·) text
      rw [hdrop] at this
      simpa using this
    rw [hdrop] at paired
    right
    have hcases : c = '\r' ∨ c = '\n' := by simpa [isLineEnd] using hc
    rcases hcases with rfl | rfl
    · simp only [endsPaired, bne_self_eq_false, Bool.false_or, Bool.and_eq_true,
        beq_iff_eq] at paired
      cases cs with
      | nil => cases paired.1
      | cons d ds =>
        obtain rfl : d = '\n' := by simpa using paired.1
        exact ⟨ds, .inr rfl⟩
    · exact ⟨cs, .inl rfl⟩

end Text

/-! ## Lines of a text, up to their spelling -/

namespace Import

open Text

variable {wanted : Text}

theorem canonical_nil : canonical [] = [] := by decide

/-- How many lines of the text are spellings of the given import line. -/
def lineCount (line text : Text) : Nat := (lines text).countP (canonical · == canonical line)

/-- A text has a line when it has it at least once, ... -/
theorem hasLine_iff_lineCount_pos {text : Text} :
    hasLine wanted text = true ↔ 0 < lineCount wanted text := by
  rw [hasLine, lineCount, List.any_eq_true, List.countP_pos_iff]

/-- ... and does not have it when it has it no time. -/
theorem lineCount_eq_zero {text : Text} :
    lineCount wanted text = 0 ↔ hasLine wanted text = false := by
  rw [Bool.eq_false_iff, Ne, hasLine_iff_lineCount_pos, Nat.not_lt, Nat.le_zero]

/-- **Lines may be counted as pieces.** -/
theorem lineCount_eq (hw : canonical wanted ≠ []) (text : Text) :
    lineCount wanted text = (pieces '\n' text).countP (canonical · == canonical wanted) := by
  obtain ⟨tail, hpieces, htail⟩ := pieces_eq_lines text
  have hempty : tail.countP (canonical · == canonical wanted) = 0 := by
    rcases htail with rfl | rfl
    · rfl
    · simpa [canonical_nil] using hw
  rw [hpieces, List.countP_append, hempty, Nat.add_zero, lineCount]

/-- And so may they be looked for. -/
theorem hasLine_iff (hw : canonical wanted ≠ []) {text : Text} : hasLine wanted text = true ↔
    ∃ line ∈ pieces '\n' text, canonical line = canonical wanted := by
  simp [hasLine_iff_lineCount_pos, lineCount_eq hw, List.countP_pos_iff]

/-- A text of one line has that line once or not at all. -/
theorem lineCount_of_not_mem (hw : canonical wanted ≠ []) {line : Text} (h : '\n' ∉ line) :
    lineCount wanted line = if canonical line = canonical wanted then 1 else 0 := by
  rw [lineCount_eq hw, pieces_of_not_mem h]
  simp [List.countP_singleton]

theorem hasLine_of_not_mem (hw : canonical wanted ≠ []) {line : Text} (h : '\n' ∉ line) :
    hasLine wanted line = true ↔ canonical line = canonical wanted := by
  rw [hasLine_iff_lineCount_pos, lineCount_of_not_mem hw h]
  split <;> simp [*]

theorem lineCount_nil : lineCount wanted [] = 0 := rfl

/-- **The lines on the two sides of a line feed are counted apart.** -/
theorem lineCount_append_newline (hw : canonical wanted ≠ []) (a b : Text) :
    lineCount wanted (a ++ '\n' :: b) = lineCount wanted a + lineCount wanted b := by
  simp only [lineCount_eq hw, pieces_append, List.countP_append]

/-- A line end stands in front of no line of its own. -/
theorem lineCount_newline (hw : canonical wanted ≠ []) (rest : Text) :
    lineCount wanted ('\n' :: rest) = lineCount wanted rest := by
  simpa [lineCount_nil] using lineCount_append_newline hw [] rest

/-- A carriage return at the end is white space at the end of the last line. -/
theorem lineCount_append_carriageReturn (hw : canonical wanted ≠ []) (a : Text) :
    lineCount wanted (a ++ ['\r']) = lineCount wanted a := by
  obtain ⟨init, last, ha, hr⟩ :=
    pieces_append_of_not_mem a (show '\n' ∉ ['\r'] by decide)
  simp [lineCount_eq hw, ha, hr, List.countP_append, List.countP_singleton,
    canonical_carriageReturn]

/-- A pair stands in front of no line of its own either. -/
theorem lineCount_carriageReturn (hw : canonical wanted ≠ []) (rest : Text) :
    lineCount wanted ('\r' :: '\n' :: rest) = lineCount wanted rest := by
  have hreturn := lineCount_append_carriageReturn hw []
  rw [List.nil_append, lineCount_nil] at hreturn
  have hcut := lineCount_append_newline hw ['\r'] rest
  rwa [hreturn, Nat.zero_add] at hcut

/-- A text cut where a line ends. -/
theorem lineCount_append_of_end (hw : canonical wanted ≠ []) {b : Text} (hb : AtLineEnd b)
    (a : Text) : lineCount wanted (a ++ b) = lineCount wanted a + lineCount wanted b := by
  rcases hb with rfl | ⟨rest, rfl | rfl⟩
  · rw [List.append_nil, lineCount_nil, Nat.add_zero]
  · rw [lineCount_append_newline hw, lineCount_newline hw]
  · have hcut : a ++ '\r' :: '\n' :: rest = (a ++ ['\r']) ++ '\n' :: rest := by simp
    rw [hcut, lineCount_append_newline hw, lineCount_append_carriageReturn hw,
      lineCount_carriageReturn hw]

/-- A text cut where a line starts. -/
theorem lineCount_append_of_start (hw : canonical wanted ≠ []) {a : Text} (ha : AtLineStart a)
    (b : Text) : lineCount wanted (a ++ b) = lineCount wanted a + lineCount wanted b := by
  rcases ha with rfl | ⟨front, rfl⟩
  · rw [List.nil_append, lineCount_nil, Nat.zero_add]
  · rw [List.append_assoc, List.singleton_append, lineCount_append_newline hw,
      lineCount_append_newline hw, lineCount_nil, Nat.add_zero]

/-- The same three cuts, for whether a text has the line: at a line feed, ... -/
theorem hasLine_append_newline (hw : canonical wanted ≠ []) (a b : Text) :
    hasLine wanted (a ++ '\n' :: b) = true ↔ hasLine wanted a = true ∨ hasLine wanted b = true := by
  simp only [hasLine_iff_lineCount_pos, lineCount_append_newline hw, Nat.add_pos_iff_pos_or_pos]

/-- ... where a line ends, ... -/
theorem hasLine_append_of_end (hw : canonical wanted ≠ []) {b : Text} (hb : AtLineEnd b)
    (a : Text) :
    hasLine wanted (a ++ b) = true ↔ hasLine wanted a = true ∨ hasLine wanted b = true := by
  simp only [hasLine_iff_lineCount_pos, lineCount_append_of_end hw hb, Nat.add_pos_iff_pos_or_pos]

/-- ... and where a line starts. -/
theorem hasLine_append_of_start (hw : canonical wanted ≠ []) {a : Text} (ha : AtLineStart a)
    (b : Text) :
    hasLine wanted (a ++ b) = true ↔ hasLine wanted a = true ∨ hasLine wanted b = true := by
  simp only [hasLine_iff_lineCount_pos, lineCount_append_of_start hw ha, Nat.add_pos_iff_pos_or_pos]

/-- **An edit keeps a line** that does not run through what is edited away. -/
theorem hasLine_replaced (hw : canonical wanted ≠ []) {before body new after : Text}
    (h : hasLine wanted (before ++ (body ++ after)) = true)
    (hbody : ∀ front tail, front <:+ before → tail <+: after → '\n' ∉ front → '\n' ∉ tail →
      ¬ hasLine wanted (front ++ (body ++ tail)) = true) :
    hasLine wanted (before ++ (new ++ after)) = true := by
  obtain ⟨start, front, rfl, hstart, hfront⟩ := exists_lastLine before
  obtain ⟨tail, rest, rfl, htail, hrest⟩ := exists_firstLine after
  have hcut : ∀ middle : Text,
      hasLine wanted (start ++ front ++ (middle ++ (tail ++ rest))) = true ↔
        hasLine wanted start = true ∨ hasLine wanted (front ++ (middle ++ tail)) = true ∨
          hasLine wanted rest = true := by
    intro middle
    rw [List.append_assoc, hasLine_append_of_start hw hstart]
    have hassoc : front ++ (middle ++ (tail ++ rest)) = (front ++ (middle ++ tail)) ++ rest := by
      simp
    rw [hassoc, hasLine_append_of_end hw hrest]
  rw [hcut] at h ⊢
  rcases h with h | h | h
  · exact .inl h
  · exact absurd h (hbody front tail (List.suffix_append _ _) (List.prefix_append _ _) hfront htail)
  · exact .inr (.inr h)

end Import

end RouteLocalizer
