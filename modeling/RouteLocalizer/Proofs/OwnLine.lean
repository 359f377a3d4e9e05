/-
  The import that is provided gets a LINE OF ITS OWN, whatever text it is.

  Whether a line is there is told line by line, between line feeds and with a carriage return as
  white space; where it is written is told by searches that know both line ends.  The crux is that
  the two agree on the place: in front of it a line starts, and behind it a line ends (`placeOf`).
  So the line that is written is found again, and a second time nothing is written.

  The empty line is the one exception.  At the end of a text it is no line: what stands behind the
  last line end is a line only when it holds something.

  SPECIFICATION (`provide_establishes`): for every symbol and every line that holds something,
  (1) the line is one of the text afterwards;
  (2) providing it again changes nothing.
-/
import RouteLocalizer.Proofs.Provide

namespace RouteLocalizer

/-! ## A line among lines -/

namespace Text

/-- Each piece in front of a line feed is a line. -/
theorem lines_append_newline (a b : Text) :
    lines (a ++ '\n' :: b) = pieces '\n' a ++ lines b := by
  induction a with
  | nil => simp [lines, pieces]
  | cons c a ih =>
    by_cases hc : c = '\n'
    · simp [lines, pieces, hc, ih]
    · cases hpieces : pieces '\n' a with
      | nil => exact absurd hpieces (pieces_ne_nil _ _)
      | cons p ps => simp [lines, pieces, hc, ih, hpieces]

/-- A piece that holds something is a line. -/
theorem mem_lines_of_mem_pieces {piece text : Text} (h : piece ∈ pieces '\n' text)
    (hne : piece ≠ []) : piece ∈ lines text := by
  obtain ⟨tail, hpieces, htail⟩ := pieces_eq_lines text
  rw [hpieces, List.mem_append] at h
  rcases h with h | h
  · exact h
  · rcases htail with rfl | rfl
    · cases h
    · exact absurd (List.mem_singleton.mp h) hne

theorem mem_pieces_of_atLineStart {front line : Text} (hfront : AtLineStart front)
    (hline : '\n' ∉ line) : line ∈ pieces '\n' (front ++ line) := by
  rcases hfront with rfl | ⟨front, rfl⟩
  · simp [pieces_of_not_mem hline]
  · rw [List.append_assoc, List.singleton_append, pieces_append, pieces_of_not_mem hline]
    simp

/-- What stands between a start and an end of lines is a line, with the carriage return of its end
    if there is one.  The nothing at the end of a text is none. -/
theorem mem_lines_between {front line behind : Text} (hfront : AtLineStart front)
    (hbehind : AtLineEnd behind) (hline : '\n' ∉ line) (h : line = [] → behind ≠ []) :
    ∃ other ∈ lines (front ++ (line ++ behind)), other = line ∨ other = line ++ ['\r'] := by
  have hpiece := mem_pieces_of_atLineStart hfront hline
  -- the line ends with the text, at a line feed, or at a pair
  rcases hbehind with rfl | ⟨rest, rfl | rfl⟩
  · have hne : line ≠ [] := fun hnil => h hnil rfl
    rw [List.append_nil]
    exact ⟨line, mem_lines_of_mem_pieces hpiece hne, .inl rfl⟩
  · refine ⟨line, ?_, .inl rfl⟩
    rw [← List.append_assoc, lines_append_newline]
    exact List.mem_append_left _ hpiece
  · have hreturn : '\n' ∉ line ++ ['\r'] := by simpa using hline
    refine ⟨line ++ ['\r'], ?_, .inr rfl⟩
    have hcut : front ++ (line ++ '\r' :: '\n' :: rest) =
        (front ++ (line ++ ['\r'])) ++ '\n' :: rest := by simp
    rw [hcut, lines_append_newline]
    exact List.mem_append_left _ (mem_pieces_of_atLineStart hfront hreturn)

end Text

namespace Import

open Text

/-- **A text has the line that stands in it between a start and an end of lines**, unless that line
    is the nothing at the end of the text. -/
theorem hasLine_between {front line behind : Text} (hfront : AtLineStart front)
    (hbehind : AtLineEnd behind) (hline : '\n' ∉ line) (h : line = [] → behind ≠ []) :
    hasLine line (front ++ (line ++ behind)) = true := by
  obtain ⟨other, hother, heq⟩ := mem_lines_between hfront hbehind hline h
  rw [hasLine, List.any_eq_true]
  rcases heq with rfl | rfl
  · exact ⟨_, hother, by simp⟩
  · exact ⟨_, hother, by simp [canonical_carriageReturn]⟩

/-! ## The place of an import line -/

/-- A place for a line: the text in front of it and the text behind it. -/
structure Place where
  front : Text
  behind : Text
deriving DecidableEq, Repr

namespace Place

/-- The text with the line in its place. -/
def fill (place : Place) (line : Text) : Text := place.front ++ (line ++ place.behind)

/-- A place where a line starts and ends. -/
structure IsLine (place : Place) : Prop where
  starts : AtLineStart place.front
  ends : AtLineEnd place.behind

theorem IsLine.hasLine_fill {place : Place} (h : place.IsLine) {line : Text} (hline : '\n' ∉ line)
    (hne : line = [] → place.behind ≠ []) : hasLine line (place.fill line) = true :=
  hasLine_between h.starts h.ends hline hne

end Place

/-- The place behind the imports, or in front of a text without any. -/
def placeBehindImports (text : Text) : Place :=
  match lastImport text with
  | some p => ⟨p.before ++ p.body ++ lineEnding text, p.after⟩
  | none => ⟨[], lineEnding text ++ text⟩

/-- The place of the line that provides a symbol: the line that imports the symbol alone, or behind
    the imports. -/
def placeOf (symbol text : Text) : Place :=
  match find symbol text with
  | some (.standalone old) => ⟨old.before, old.after⟩
  | some (.grouped old binding) => placeBehindImports (exciseBinding old binding)
  | none => placeBehindImports text

theorem insertBehindImports_eq (line text : Text) :
    insertBehindImports line text = (placeBehindImports text).fill line := by
  cases h : lastImport text <;>
    simp [insertBehindImports, placeBehindImports, h, Passage.insertBehind, Place.fill]

/-- An import that is missing is written in its place. -/
theorem provide_eq (symbol line text : Text) : provide symbol line text =
    if hasLine line text then text else (placeOf symbol text).fill line := by
  unfold provide placeOf
  split
  · rfl
  · cases find symbol text with
    | none => exact insertBehindImports_eq line text
    | some site =>
      cases site with
      | standalone old => simp [Passage.replaceWith, Place.fill]
      | grouped old binding => exact insertBehindImports_eq line _

theorem placeBehindImports_isLine {text : Text} (paired : endsPaired text = true) :
    (placeBehindImports text).IsLine := by
  unfold placeBehindImports
  split
  · exact ⟨atLineStart_lineEnding _ _, (lastImport_cut ‹_›).atLineEnd paired⟩
  · exact ⟨.inl rfl, atLineEnd_lineEnding _ _⟩

/-- **The place of an import is a line.** -/
theorem placeOf_isLine {symbol text : Text} (hsymbol : ∀ c ∈ symbol, isLineEnd c = false)
    (paired : endsPaired text = true) : (placeOf symbol text).IsLine := by
  unfold placeOf
  split
  · rename_i hfind
    obtain ⟨-, hwhole⟩ := find_standalone hsymbol paired hfind
    exact ⟨hwhole.starts, hwhole.ends⟩
  · rename_i hfind
    obtain ⟨hwhole, hbound⟩ := find_grouped paired hfind
    exact placeBehindImports_isLine (exciseBinding_keeps hwhole hbound paired).1
  · exact placeBehindImports_isLine paired

/-- **Providing an import establishes its line, and once is enough**, for every line that holds
    something.  An empty line is established where its place is not the end of the text. -/
theorem provide_establishes {symbol line text : Text}
    (hsymbol : ∀ c ∈ symbol, isLineEnd c = false) (hline : '\n' ∉ line)
    (paired : endsPaired text = true)
    (holds : line = [] → hasLine [] text = true ∨ (placeOf symbol text).behind ≠ []) :
    hasLine line (provide symbol line text) = true ∧
      provide symbol line (provide symbol line text) = provide symbol line text := by
  have established : hasLine line (provide symbol line text) = true := by
    rw [provide_eq]
    split
    · assumption
    · rename_i hmissing
      refine (placeOf_isLine hsymbol paired).hasLine_fill hline fun hnil => ?_
      subst hnil
      exact (holds rfl).resolve_left hmissing
  exact ⟨established, provide_of_hasLine established⟩

/-- A binding that moves to a line of its own. -/
theorem provide_establishes_sample :
    let text : Text := "import \x7b A, S \x7d from 'm'\r\nfoo()"
    let line : Text := "import \x7b S \x7d from \"n\";"
    let out := provide "S" line text
    out = "import \x7b A \x7d from 'm'\r\nimport \x7b S \x7d from \"n\";\r\nfoo()" ∧
      hasLine line out = true ∧ provide "S" line out = out := by
  intro text line out
  exact ⟨by decide +kernel, provide_establishes (by decide) (by decide +kernel) (by decide +kernel)
    (by decide +kernel)⟩

/-- An empty line that is written at the end of a text is not there, and the next time one more line
    end is written. -/
theorem provide_emptyLine :
    let text : Text := "import S from 'm'"
    let out := provide "S" [] text
    endsPaired text = true ∧ hasLine [] out = false ∧ provide "S" [] out ≠ out := by
  decide

end Import

end RouteLocalizer
