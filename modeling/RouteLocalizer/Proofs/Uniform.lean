/-
  Texts with ONE KIND OF LINE END.

  A text is uniform when it is made of one line end and of characters that end no line (`Uniform`).
  Uniform texts put together are uniform.  The other way round it depends on the cut: a text of
  pairs may not be cut between a carriage return and its line feed.

  SPECIFICATION:
  (1) `Uniform` — the inductive definition, over either line end; a text of pairs is decidably
      uniform (`uniform_pairs_iff`), and one of line feeds is uniform when it has no carriage return
      (`uniform_lineFeed_iff`);
  (2) `Uniform.split` — a cut that is `Apart` leaves uniform texts on both sides;
  (3) `Uniform.splice`, `Uniform.insert` — a part of a uniform text may give way to another one.

  The crux is (2) for pairs: the induction on the text meets a pair that the cut leaves in front,
  behind, or in two, and being apart excludes just the last case.  Every place where the program
  cuts a text is apart for a reason of its own: a line starts there, a word starts or ends there, or
  the character in front is no carriage return.
-/
import RouteLocalizer.Proofs.Lines
import RouteLocalizer.Proofs.Shapes

namespace RouteLocalizer

namespace Text

/-! ## Texts with one kind of line end -/

/-- A text without a line end. -/
def OneLine (text : Text) : Prop := ∀ c ∈ text, isLineEnd c = false

instance (text : Text) : Decidable (OneLine text) :=
  inferInstanceAs (Decidable (∀ c ∈ text, isLineEnd c = false))

/-- The two texts that end a line. -/
def IsEnding (newline : Text) : Prop := newline = ['\n'] ∨ newline = ['\r', '\n']

/-- A text in which `newline` ends all lines that end: no carriage return or line feed stands
    anywhere else. -/
inductive Uniform (newline : Text) : Text → Prop where
  | nil : Uniform newline []
  | char {c : Char} {rest : Text} (plain : isLineEnd c = false) (later : Uniform newline rest) :
      Uniform newline (c :: rest)
  | ending {rest : Text} (later : Uniform newline rest) : Uniform newline (newline ++ rest)

/-- Whether carriage returns and line feeds stand in pairs only. -/
def onlyPairs : Text → Bool
  | [] => true
  | '\r' :: '\n' :: rest => onlyPairs rest
  | c :: rest => !isLineEnd c && onlyPairs rest

/-- What `onlyPairs` decides. -/
theorem uniform_pairs_iff {text : Text} : Uniform ['\r', '\n'] text ↔ onlyPairs text = true := by
  constructor
  · intro h
    induction h with
    | nil => rfl
    | char plain later ih =>
      rw [onlyPairs]
      · simp [plain, ih]
      · exact fun _ heq => absurd heq (ne_carriageReturn plain)
    | ending later ih => exact ih
  · intro h
    fun_induction onlyPairs text with
    | case1 => exact .nil
    | case2 rest ih => exact .ending (ih h)
    | case3 c rest hpair ih =>
      simp only [Bool.and_eq_true, Bool.not_eq_true'] at h
      exact .char h.1 (ih h.2)

instance (text : Text) : Decidable (Uniform ['\r', '\n'] text) :=
  decidable_of_iff _ uniform_pairs_iff.symm

/-- A text with line feeds alone has no carriage return, and the other way round. -/
theorem uniform_lineFeed_iff {text : Text} : Uniform ['\n'] text ↔ '\r' ∉ text := by
  constructor
  · intro h
    induction h with
    | nil => simp
    | char plain later ih => simp [(ne_carriageReturn plain).symm, ih]
    | ending later ih => simpa using ih
  · intro h
    induction text with
    | nil => exact .nil
    | cons c rest ih =>
      obtain ⟨hc, hrest⟩ := not_or.mp (fun hor => h (List.mem_cons.mpr hor))
      by_cases hn : c = '\n'
      · subst hn
        exact .ending (ih hrest)
      · exact .char (by simp [isLineEnd, Ne.symm hc, hn]) (ih hrest)

variable {newline a b text : Text}

/-- A line end is uniform by itself. -/
theorem uniform_newline (newline : Text) : Uniform newline newline := by
  have := @Uniform.ending newline [] .nil
  rwa [List.append_nil] at this

/-- Two pieces of one line make a piece of one line. -/
theorem OneLine.append (ha : OneLine a) (hb : OneLine b) : OneLine (a ++ b) :=
  List.forall_mem_append.mpr ⟨ha, hb⟩

/-- No carriage return stands within a line. -/
theorem OneLine.not_mem_carriageReturn (h : OneLine text) : '\r' ∉ text :=
  fun hmem => ne_carriageReturn (h _ hmem) rfl

/-- Indentation ends no line. -/
theorem oneLine_of_indented (h : ∀ c ∈ text, isIndent c = true) : OneLine text := by
  intro c hc
  have : c = ' ' ∨ c = '\t' := by simpa [isIndent] using h c hc
  rcases this with rfl | rfl <;> decide

/-- A text without a line end is uniform, whichever line end is asked for. -/
theorem uniform_of_oneLine (h : OneLine text) : Uniform newline text := by
  induction text with
  | nil => exact .nil
  | cons c rest ih => exact .char (h c (by simp)) (ih fun d hd => h d (by simp [hd]))

/-- **Uniform texts put together are uniform.** -/
theorem Uniform.append (ha : Uniform newline a) (hb : Uniform newline b) :
    Uniform newline (a ++ b) := by
  induction ha with
  | nil => exact hb
  | char plain _ ih => exact .char plain ih
  | ending _ ih =>
    rw [List.append_assoc]
    exact .ending ih

/-- And so is a list of them, one behind the other. -/
theorem uniform_flatMap {α : Type} {f : α → Text} {l : List α}
    (h : ∀ x ∈ l, Uniform newline (f x)) : Uniform newline (l.flatMap f) := by
  induction l with
  | nil => exact .nil
  | cons x l ih =>
    rw [List.flatMap_cons]
    exact (h x (by simp)).append (ih fun y hy => h y (by simp [hy]))

/-! ## Cuts -/

/-- A place that is not between a carriage return and its line feed. -/
def Apart (front behind : Text) : Prop :=
  front.getLast? = some '\r' → behind.head? ≠ some '\n'

/-- A cut behind anything but a carriage return is apart. -/
theorem apart_of_getLast? {front : Text} (h : front.getLast? ≠ some '\r') (behind : Text) :
    Apart front behind := fun hr => absurd hr h

/-- Where a line starts, a line feed stands in front. -/
theorem apart_of_atLineStart {front : Text} (h : AtLineStart front) (behind : Text) :
    Apart front behind := by
  refine apart_of_getLast? ?_ behind
  rcases h with rfl | ⟨front, rfl⟩ <;> simp

/-- No word starts or ends within a pair. -/
theorem apart_of_isBoundary {front behind : Text}
    (h : isBoundary (Shape.behind none front) behind = true) : Apart front behind := by
  have hends : isWordChar '\r' = false ∧ isWordChar '\n' = false := by decide
  intro hr hn
  simp [isBoundary, Shape.behind, hr, hn, hends] at h

/-- A cut further on in the text is apart when seen from behind its first character. -/
theorem Apart.tail {c : Char} (h : Apart (c :: a) b) : Apart a b := by
  intro hr
  exact h (by rw [List.getLast?_cons, hr]; rfl)

/-- A text of pairs that is cut outside of them. -/
theorem split_pairs (h : Uniform ['\r', '\n'] (a ++ b)) (apart : Apart a b) :
    Uniform ['\r', '\n'] a ∧ Uniform ['\r', '\n'] b := by
  generalize htext : a ++ b = text at h
  induction h generalizing a with
  | nil =>
    obtain ⟨rfl, rfl⟩ := List.append_eq_nil_iff.mp htext
    exact ⟨.nil, .nil⟩
  | @char c rest plain later ih =>
    cases a with
    | nil =>
      obtain rfl : b = c :: rest := htext
      exact ⟨.nil, .char plain later⟩
    | cons d a =>
      obtain ⟨rfl, hrest⟩ := List.cons.inj htext
      obtain ⟨ha, hb⟩ := ih apart.tail hrest
      exact ⟨.char plain ha, hb⟩
  | @ending rest later ih =>
    -- the cut is in front of the pair, between its two characters, or behind it
    match a with
    | [] =>
      obtain rfl : b = '\r' :: '\n' :: rest := htext
      exact ⟨.nil, .ending later⟩
    | [c] =>
      obtain ⟨rfl, rfl⟩ : c = '\r' ∧ b = '\n' :: rest := by simpa using htext
      exact absurd rfl (apart rfl)
    | c :: d :: a =>
      obtain ⟨rfl, rfl, hrest⟩ : c = '\r' ∧ d = '\n' ∧ a ++ b = rest := by simpa using htext
      obtain ⟨ha, hb⟩ := ih apart.tail.tail hrest
      exact ⟨.ending ha, hb⟩

/-- **A uniform text that is cut outside of its pairs** leaves uniform texts. -/
theorem Uniform.split (hnewline : IsEnding newline) (h : Uniform newline (a ++ b))
    (apart : Apart a b) : Uniform newline a ∧ Uniform newline b := by
  rcases hnewline with rfl | rfl
  · simpa only [uniform_lineFeed_iff, List.mem_append, not_or] using h
  · exact split_pairs h apart

/-- A part of a uniform text gives way to another uniform text. -/
theorem Uniform.splice (hnewline : IsEnding newline) {front b behind new : Text}
    (h : Uniform newline (front ++ (b ++ behind))) (starts : Apart front (b ++ behind))
    (ends : Apart (front ++ b) behind) (hnew : Uniform newline new) :
    Uniform newline (front ++ (new ++ behind)) := by
  have hfront := (h.split hnewline starts).1
  rw [← List.append_assoc] at h
  exact hfront.append (hnew.append (h.split hnewline ends).2)

/-- A uniform text is written into another one. -/
theorem Uniform.insert (hnewline : IsEnding newline) {front behind new : Text}
    (h : Uniform newline (front ++ behind)) (apart : Apart front behind)
    (hnew : Uniform newline new) : Uniform newline (front ++ (new ++ behind)) :=
  h.splice (b := []) hnewline apart (by simpa using apart) hnew

/-- In a uniform text no carriage return is without its line feed. -/
theorem Uniform.endsPaired (hnewline : IsEnding newline) (h : Uniform newline text) :
    endsPaired text = true := by
  induction h with
  | nil => rfl
  | char plain later ih => simp [Text.endsPaired, ne_carriageReturn plain, ih]
  | ending later ih => rcases hnewline with rfl | rfl <;> simp [Text.endsPaired, ih]

end Text

end RouteLocalizer
