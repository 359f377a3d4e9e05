/-
  What a shape FINDS, as plain equations between texts.

  A shape is a small pattern, built from its end to its front: each step has the step that follows
  it as an argument.  There is one lemma for each step: a text fits a literal when it starts with
  the word, a run when it starts with characters of the class, and so on.  A run may give characters
  back, so in general it says only that SOME split of the text fits; where what follows excludes the
  class (`Excludes`) the run takes all there is of it, and the shape can be read in both directions.

  The searches are opened the same way: the first find fits at its place and nothing fits before it.

  SPECIFICATION:
  (1) `literal_eq_some`, `one_eq_some`, `run_eq_some`, … — what each step needs of the text;
  (2) `firstFrom_eq_none`, `NoneIn`, `countIn` — where a shape is not found, and how often it is,
      for texts that are put together from parts;
  (3) `Inherits` — a shape that fits in front of a new text only where it did in front of the old
      one is found no more often than before, so an edit makes no new find.

  What a shape finds depends on the character in front of the place, too (word boundaries, starts of
  lines); `behind` hands that character on.
-/
import RouteLocalizer.Text.Shape

namespace RouteLocalizer

namespace Shape

open Text

/-- The character in front of a place: the last one of what was read, or the one before that. -/
def behind (last : Option Char) (read : Text) : Option Char := read.getLast?.or last

@[simp] theorem behind_nil (last : Option Char) : behind last [] = last := rfl

theorem behind_cons (last : Option Char) (c : Char) (read : Text) :
    behind last (c :: read) = behind (some c) read := by
  cases read with
  | nil => rfl
  | cons d read => simp [behind, List.getLast?_cons]

/-- What was read last is in front of what follows. -/
theorem behind_concat (last : Option Char) (read : Text) (c : Char) :
    behind last (read ++ [c]) = some c := by
  simp [behind]

variable {next : Shape} {last : Option Char} {text rest : Text}

/-! ## Steps -/

theorem finish_eq_some : finish last text = some rest ↔ text = rest := by
  simp [finish]

/-- **A literal fits a text that starts with the word**, if the next step fits behind it. -/
theorem literal_eq_some {word : Text} : literal word next last text = some rest ↔
    ∃ more, text = word ++ more ∧ next (behind last word) more = some rest := by
  unfold literal
  constructor
  · intro h
    split at h
    · rename_i more hword
      exact ⟨more, afterWord_eq_some_iff.mp hword, h⟩
    · cases h
  · rintro ⟨more, rfl, h⟩
    rw [afterWord_eq_some_iff.mpr rfl]
    exact h

/-- Behind its own word a literal is the next step. -/
@[simp] theorem literal_append (word more : Text) :
    literal word next last (word ++ more) = next (behind last word) more := by
  unfold literal
  rw [afterWord_eq_some_iff.mpr rfl]
  rfl

@[simp] theorem literal_singleton (c : Char) (more : Text) :
    literal [c] next last (c :: more) = next (some c) more := literal_append [c] more

/-- A literal fits no other text. -/
theorem literal_eq_none {word : Text} (h : ¬ word <+: text) :
    literal word next last text = none := by
  cases hword : literal word next last text with
  | none => rfl
  | some rest =>
    obtain ⟨more, rfl, -⟩ := literal_eq_some.mp hword
    exact absurd (List.prefix_append word more) h

/-- **One character of a class.** -/
theorem one_eq_some {p : Char → Bool} : one p next last text = some rest ↔
    ∃ c more, text = c :: more ∧ p c = true ∧ next (some c) more = some rest := by
  constructor
  · intro h
    cases text with
    | nil => cases h
    | cons c more =>
      simp only [one] at h
      split at h
      · rename_i hc
        exact ⟨c, more, rfl, hc, h⟩
      · cases h
  · rintro ⟨c, more, rfl, hc, h⟩
    simp [one, hc, h]

/-- **A run fits with some split of the text**, which need not be the longest one. -/
theorem run_eq_some {p : Char → Bool} (h : run p next last text = some rest) :
    ∃ read more, text = read ++ more ∧ (∀ c ∈ read, p c = true) ∧
      next (behind last read) more = some rest := by
  induction text generalizing last with
  | nil => exact ⟨[], [], rfl, by simp, h⟩
  | cons c cs ih =>
    simp only [run] at h
    split at h
    · rename_i hc
      rcases Option.or_eq_some_iff.mp h with h | ⟨-, h⟩
      · obtain ⟨read, more, rfl, hread, hnext⟩ := ih h
        refine ⟨c :: read, more, rfl, ?_, by rw [behind_cons]; exact hnext⟩
        simpa [hc] using hread
      · exact ⟨[], c :: cs, rfl, by simp, h⟩
    · exact ⟨[], c :: cs, rfl, by simp, h⟩

/-- A run that needs a character. -/
theorem runOne_eq_some {p : Char → Bool} (h : runOne p next last text = some rest) :
    ∃ read more, text = read ++ more ∧ read ≠ [] ∧ (∀ c ∈ read, p c = true) ∧
      next (behind last read) more = some rest := by
  obtain ⟨c, cs, rfl, hc, h⟩ := one_eq_some.mp h
  obtain ⟨read, more, rfl, hread, hnext⟩ := run_eq_some h
  refine ⟨c :: read, more, rfl, by simp, ?_, by rw [behind_cons]; exact hnext⟩
  simpa [hc] using hread

/-- A shape that fits no text which starts with a character of the class. -/
def Excludes (next : Shape) (p : Char → Bool) : Prop :=
  ∀ last c cs, p c = true → next last (c :: cs) = none

/-- Where what follows excludes the class, a run takes all of it and gives nothing back. -/
theorem run_append {p : Char → Bool} (hnext : next.Excludes p) {read : Text}
    (hread : ∀ c ∈ read, p c = true) (more : Text) (hmore : ∀ c ∈ more.head?, p c = false) :
    run p next last (read ++ more) = next (behind last read) more := by
  induction read generalizing last with
  | nil =>
    cases more with
    | nil => rfl
    | cons c cs => simp [run, hmore c (by simp)]
  | cons c read ih =>
    have hc : p c = true := hread c (by simp)
    simp only [List.cons_append, run, hc, if_true, hnext last c _ hc, Option.or_none]
    rw [ih (fun d hd => hread d (by simp [hd])), behind_cons]

/-- A run that takes all of its class, where what follows fits behind it. -/
theorem run_of_fits {p : Char → Bool} {read more : Text} (hread : ∀ c ∈ read, p c = true)
    (hmore : more.head?.any p = false) (fits : next (behind last read) more = some rest) :
    run p next last (read ++ more) = some rest := by
  induction read generalizing last with
  | nil =>
    cases more with
    | nil => exact fits
    | cons c more =>
      have hc : p c = false := by simpa using hmore
      simpa [run, hc] using fits
  | cons c read ih =>
    rw [behind_cons] at fits
    simp only [List.cons_append, run, hread c (by simp), if_true,
      ih (fun d hd => hread d (by simp [hd])) fits, Option.some_or]

/-- A run fits where some split of it does. -/
theorem run_isSome {p : Char → Bool} {read more : Text} (hread : ∀ c ∈ read, p c = true)
    (fits : (next (behind last read) more).isSome = true) :
    (run p next last (read ++ more)).isSome = true := by
  induction read generalizing last with
  | nil =>
    cases more with
    | nil => exact fits
    | cons c more =>
      simp only [behind_nil] at fits
      simp only [List.nil_append, run]
      split <;> simp [fits]
  | cons c read ih =>
    rw [behind_cons] at fits
    simp [run, hread c (by simp), ih (fun d hd => hread d (by simp [hd])) fits]

/-- Any split will do for a run to fit, if the next step fits there. -/
theorem runOne_isSome {p : Char → Bool} {read more : Text} (hne : read ≠ [])
    (hread : ∀ c ∈ read, p c = true) (fits : (next (behind last read) more).isSome = true) :
    (runOne p next last (read ++ more)).isSome = true := by
  obtain ⟨c, read, rfl⟩ := List.exists_cons_of_ne_nil hne
  rw [behind_cons] at fits
  simpa [runOne, one, hread c (by simp)] using
    run_isSome (fun d hd => hread d (by simp [hd])) fits

/-- Where what follows excludes the class, the longest split is the one. -/
theorem runOne_append {p : Char → Bool} (hnext : next.Excludes p) {read : Text} (hne : read ≠ [])
    (hread : ∀ c ∈ read, p c = true) (more : Text) (hmore : ∀ c ∈ more.head?, p c = false) :
    runOne p next last (read ++ more) = next (behind last read) more := by
  cases read with
  | nil => exact absurd rfl hne
  | cons c read =>
    simp only [runOne, List.cons_append, one, hread c (by simp), if_true]
    rw [run_append hnext (fun d hd => hread d (by simp [hd])) more hmore, behind_cons]

/-- A word that starts with a character outside of the class excludes it, ... -/
theorem excludes_literal {p : Char → Bool} {c : Char} (hc : p c = false) (word : Text) :
    (literal (c :: word) next).Excludes p := by
  intro last d cs hd
  have hne : c ≠ d := by
    rintro rfl
    rw [hc] at hd
    cases hd
  simp [literal, afterWord, hne]

/-- ... and so does a character of another class. -/
theorem excludes_one {p q : Char → Bool} (h : ∀ c, p c = true → q c = false) :
    (one q next).Excludes p := by
  intro last c cs hc
  simp [one, h c hc]

/-- A word boundary reads nothing, ... -/
theorem boundary_eq_some : boundary next last text = some rest ↔
    isBoundary last text = true ∧ next last text = some rest := by
  simp [boundary]

/-- ... and neither does the start of a line. -/
theorem lineStart_eq_some : lineStart next last text = some rest ↔
    isLineStart last text = true ∧ next last text = some rest := by
  simp [lineStart]

/-- The rest of a line is always there to be read. -/
theorem lineRest_eq_some : lineRest last text = some rest ↔
    rest = text.dropWhile (!isLineEnd ·) := by
  simp [lineRest, eq_comm]

/-! ## The leftmost find -/

/-- A search that finds nothing finds it at no place, ... -/
theorem firstFrom_eq_none {shape : Shape} (h : firstFrom shape last text = none) (u v : Text)
    (huv : text = u ++ v) : shape (behind last u) v = none := by
  induction u generalizing last text with
  | nil =>
    obtain rfl : text = v := huv
    cases text with
    | nil => simpa [firstFrom] using h
    | cons c cs =>
      simp only [firstFrom] at h
      split at h
      · cases h
      · assumption
  | cons c u ih =>
    subst huv
    simp only [List.cons_append, firstFrom] at h
    split at h
    · cases h
    · rw [behind_cons]
      exact ih (by simpa using h) rfl

/-- Where a shape fits anywhere, it is found. -/
theorem firstFrom_isSome {shape : Shape} {u v : Text}
    (fits : (shape (behind last u) v).isSome = true) :
    (firstFrom shape last (u ++ v)).isSome = true := by
  cases h : firstFrom shape last (u ++ v) with
  | some p => rfl
  | none =>
    rw [firstFrom_eq_none h u v rfl] at fits
    cases fits

/-- ... and the other way round. -/
theorem firstFrom_of_none {shape : Shape}
    (h : ∀ u v, text = u ++ v → shape (behind last u) v = none) :
    firstFrom shape last text = none := by
  induction text generalizing last with
  | nil => simpa [firstFrom] using h [] [] rfl
  | cons c cs ih =>
    have hhead := h [] (c :: cs) rfl
    simp only [behind_nil] at hhead
    simp only [firstFrom, hhead, Option.map_eq_none_iff]
    refine ih fun u v huv => ?_
    have := h (c :: u) v (by rw [huv, List.cons_append])
    rwa [behind_cons] at this

/-- **The leftmost find** fits at its place, and nothing fits in front of it. -/
theorem firstFrom_eq_some {shape : Shape} (reads : shape.Reads) {p : Passage}
    (h : firstFrom shape last text = some p) :
    text = p.before ++ (p.body ++ p.after) ∧
      shape (behind last p.before) (p.body ++ p.after) = some p.after ∧
      ∀ u c v, p.before = u ++ c :: v →
        shape (behind last u) (c :: v ++ (p.body ++ p.after)) = none := by
  induction text generalizing last p with
  | nil =>
    obtain ⟨rest, hrest, rfl⟩ := Option.map_eq_some_iff.mp h
    have hnil : rest = [] := List.suffix_nil.mp (reads hrest)
    subst hnil
    refine ⟨rfl, hrest, fun u c v huv => ?_⟩
    simp at huv
  | cons c cs ih =>
    simp only [firstFrom] at h
    split at h
    · rename_i rest hrest
      cases h
      have hbody := upTo_append_of_suffix (reads hrest)
      refine ⟨by simp [hbody], by simpa [hbody] using hrest, fun u c v huv => ?_⟩
      simp at huv
    · rename_i hnone
      obtain ⟨q, hq, rfl⟩ := Option.map_eq_some_iff.mp h
      obtain ⟨htext, hfits, hearlier⟩ := ih hq
      refine ⟨by simp [Passage.behind, htext], ?_, ?_⟩
      · show shape (behind last ([c] ++ q.before)) (q.body ++ q.after) = some q.after
        rw [List.singleton_append, behind_cons]
        exact hfits
      · intro u d v huv
        cases u with
        | nil =>
          obtain ⟨rfl, rfl⟩ : c = d ∧ q.before = v := by simpa [Passage.behind] using huv
          rw [htext] at hnone
          simpa [Passage.behind] using hnone
        | cons e u =>
          obtain ⟨rfl, hbefore⟩ : c = e ∧ q.before = u ++ d :: v := by
            simpa [Passage.behind] using huv
          rw [behind_cons]
          exact hearlier u d v hbefore

/-- A place that fits, with nothing that fits in front of it, is the leftmost find. -/
theorem firstFrom_of_fits {shape : Shape} {before body after : Text}
    (fits : shape (behind last before) (body ++ after) = some after)
    (earlier : ∀ u c v, before = u ++ c :: v →
      shape (behind last u) (c :: v ++ (body ++ after)) = none) :
    firstFrom shape last (before ++ (body ++ after)) = some ⟨before, body, after⟩ := by
  induction before generalizing last with
  | nil =>
    simp only [behind_nil] at fits
    cases hwhole : body ++ after with
    | nil =>
      obtain ⟨rfl, rfl⟩ := List.append_eq_nil_iff.mp hwhole
      simp only [List.nil_append] at fits ⊢
      simp [firstFrom, fits]
    | cons c cs =>
      rw [hwhole] at fits
      simp only [List.nil_append, firstFrom, fits, Option.some.injEq, Passage.mk.injEq, true_and,
        and_true]
      rw [← hwhole, upTo_append]
  | cons c before ih =>
    have hhead := earlier [] c before rfl
    simp only [behind_nil] at hhead
    simp only [List.cons_append] at hhead ⊢
    rw [behind_cons] at fits
    have := ih fits fun u d v huv => by
      have := earlier (c :: u) d v (by rw [huv, List.cons_append])
      rwa [behind_cons] at this
    simp [firstFrom, hhead, this, Passage.behind]

/-- A shape at the start of a text is in the text when it fits there. -/
theorem occursIn_textStart (shape : Shape) (text : Text) :
    occursIn (textStart shape) text = (shape none text).isSome := by
  cases text with
  | nil => simp [occursIn, firstOf, firstFrom, textStart]
  | cons c cs =>
    have hlater : firstFrom (textStart shape) (some c) cs = none :=
      firstFrom_of_none fun u v _ => by
        have hbehind : ∃ d, behind (some c) u = some d := by
          cases h : u.getLast? <;> simp [behind, h]
        obtain ⟨d, hd⟩ := hbehind
        rw [hd]
        rfl
    cases h : shape none (c :: cs) <;> simp [occursIn, firstOf, firstFrom, textStart, h, hlater]

/-! ## Replacing each find -/

/-- What still belongs to the find before is skipped. -/
theorem replaceEachFrom_skip (shape : Shape) (write : Text → Text) (last : Option Char)
    (u v : Text) : replaceEachFrom shape write u.length last (u ++ v) =
      replaceEachFrom shape write 0 (behind last u) v := by
  induction u generalizing last with
  | nil => rfl
  | cons c u ih => rw [List.cons_append, List.length_cons, replaceEachFrom, ih, behind_cons]

/-! ## Places without a find -/

/-- Reading two texts is reading one behind the other. -/
theorem behind_append (last : Option Char) (u v : Text) :
    behind last (u ++ v) = behind (behind last u) v := by
  simp [behind, List.getLast?_append, Option.or_assoc]

/-- Nothing is found that starts in the front of a text, with the rest behind it. -/
def NoneIn (shape : Shape) (last : Option Char) (front rest : Text) : Prop :=
  ∀ u c v, front = u ++ c :: v → shape (behind last u) (c :: v ++ rest) = none

/-- A part without a find in front of another one, each seen with what follows it. -/
theorem NoneIn.append {shape : Shape} {a b rest : Text} (h : NoneIn shape last a (b ++ rest))
    (h' : NoneIn shape (behind last a) b rest) : NoneIn shape last (a ++ b) rest := by
  intro u c v huv
  rcases List.append_eq_append_iff.mp huv with ⟨z, rfl, hz⟩ | ⟨z, rfl, hz⟩
  · rw [behind_append]
    exact h' z c v hz
  · cases z with
    | nil =>
      have := h' [] c v (by simpa using hz.symm)
      simpa using this
    | cons d z =>
      obtain ⟨rfl, rfl⟩ := List.cons.inj hz
      simpa using h u c z rfl

/-- The front one of two parts without a find, ... -/
theorem NoneIn.left {shape : Shape} {a b rest : Text} (h : NoneIn shape last (a ++ b) rest) :
    NoneIn shape last a (b ++ rest) := by
  rintro u c v rfl
  simpa using h u c (v ++ b) (by simp)

/-- ... and the one behind. -/
theorem NoneIn.right {shape : Shape} {a b rest : Text} (h : NoneIn shape last (a ++ b) rest) :
    NoneIn shape (behind last a) b rest := by
  rintro u c v rfl
  rw [← behind_append]
  exact h (a ++ u) c v (by simp)

/-- What stands in front of a text matters only to a find that starts at its first character. -/
theorem NoneIn.recut {shape : Shape} {last' : Option Char} {front rest : Text}
    (h : NoneIn shape last front rest)
    (first : ∀ c v, front = c :: v → shape last' (c :: v ++ rest) = none) :
    NoneIn shape last' front rest := by
  intro u c v huv
  cases u with
  | nil => exact first c v huv
  | cons d u =>
    have := h (d :: u) c v huv
    rwa [behind_cons] at this ⊢

/-- **A splice makes no find** when none starts in front of what is new, in it, or behind it. -/
theorem NoneIn.splice {shape : Shape} {front new tail rest : Text} (old : Text)
    (h : NoneIn shape last (front ++ (old ++ tail)) rest)
    (before : NoneIn shape last front (old ++ (tail ++ rest)) →
      NoneIn shape last front (new ++ (tail ++ rest)))
    (within : NoneIn shape (behind last front) new (tail ++ rest))
    (after : NoneIn shape (behind (behind last front) old) tail rest →
      NoneIn shape (behind (behind last front) new) tail rest) :
    NoneIn shape last (front ++ (new ++ tail)) rest := by
  have hfront := h.left
  rw [List.append_assoc] at hfront
  refine .append ?_ (within.append (after h.right.right))
  rw [List.append_assoc]
  exact before hfront

/-- Where nothing is found in the front of a text, the first find is the first one behind it. -/
theorem firstFrom_append {shape : Shape} {front rest : Text} (h : NoneIn shape last front rest) :
    firstFrom shape last (front ++ rest) =
      (firstFrom shape (behind last front) rest).map (·.behind front) := by
  induction front generalizing last with
  | nil =>
    have hnil : (fun p : Passage => p.behind []) = id := rfl
    simp [hnil]
  | cons c front ih =>
    have hhead : shape last (c :: (front ++ rest)) = none := h [] c front rfl
    have hlater : NoneIn shape (some c) front rest := by
      rintro u d v rfl
      have := h (c :: u) d v rfl
      rwa [behind_cons] at this
    simp only [List.cons_append, firstFrom, hhead, ih hlater, behind_cons, Option.map_map]
    rfl

/-! ## Counting the places of a find -/

/-- The number of places in the front of a text at which a shape fits, with the rest behind it. -/
def countIn (shape : Shape) : Option Char → Text → Text → Nat
  | _, [], _ => 0
  | last, c :: front, rest =>
    (if (shape last (c :: front ++ rest)).isSome then 1 else 0) + countIn shape (some c) front rest

theorem countIn_cons (shape : Shape) (last : Option Char) (c : Char) (front rest : Text) :
    countIn shape last (c :: front) rest =
      (if (shape last (c :: front ++ rest)).isSome then 1 else 0) +
        countIn shape (some c) front rest := rfl

/-- **Finds are counted part by part**, as long as each part is seen with what follows it. -/
theorem countIn_append (shape : Shape) (last : Option Char) (a b rest : Text) :
    countIn shape last (a ++ b) rest =
      countIn shape last a (b ++ rest) + countIn shape (behind last a) b rest := by
  induction a generalizing last with
  | nil => exact (Nat.zero_add _).symm
  | cons c a ih =>
    rw [List.cons_append, countIn_cons, countIn_cons, behind_cons, ih, Nat.add_assoc,
      List.cons_append, List.append_assoc, List.cons_append]

theorem NoneIn.cons_iff {shape : Shape} {c : Char} {front rest : Text} :
    NoneIn shape last (c :: front) rest ↔
      shape last (c :: front ++ rest) = none ∧ NoneIn shape (some c) front rest := by
  constructor
  · intro h
    refine ⟨h [] c front rfl, fun u d v huv => ?_⟩
    have := h (c :: u) d v (by rw [huv, List.cons_append])
    rwa [behind_cons] at this
  · rintro ⟨hhead, htail⟩ u d v huv
    cases u with
    | nil =>
      obtain ⟨rfl, rfl⟩ := List.cons.inj huv
      exact hhead
    | cons e u =>
      obtain ⟨rfl, hfront⟩ := List.cons.inj huv
      rw [behind_cons]
      exact htail u d v hfront

theorem NoneIn.singleton {shape : Shape} {c : Char} (h : shape last (c :: rest) = none) :
    NoneIn shape last [c] rest :=
  NoneIn.cons_iff.mpr ⟨h, fun u d v huv => by simp at huv⟩

/-- Nothing is found where there are no places. -/
theorem countIn_eq_zero {shape : Shape} {front rest : Text} :
    countIn shape last front rest = 0 ↔ NoneIn shape last front rest := by
  induction front generalizing last with
  | nil => exact iff_of_true rfl fun u c v huv => by simp at huv
  | cons c front ih =>
    rw [NoneIn.cons_iff, countIn_cons, Nat.add_eq_zero_iff, ih]
    simp

/-- Whatever is found in the front of a text was found there with the old rest behind it. -/
def Inherits (shape : Shape) (last : Option Char) (front new old : Text) : Prop :=
  ∀ u c v, front = u ++ c :: v → (shape (behind last u) (c :: v ++ new)).isSome = true →
    (shape (behind last u) (c :: v ++ old)).isSome = true

/-- An edit behind a text makes no new find in it. -/
theorem Inherits.noneIn {shape : Shape} {front new old : Text}
    (h : Inherits shape last front new old) (hnone : NoneIn shape last front old) :
    NoneIn shape last front new := by
  intro u c v huv
  cases hnew : shape (behind last u) (c :: v ++ new) with
  | none => rfl
  | some rest =>
    have hold := h u c v huv (by rw [hnew, Option.isSome_some])
    rw [hnone u c v huv] at hold
    cases hold

/-- Nor does it make more finds. -/
theorem Inherits.countIn_le {shape : Shape} {front new old : Text}
    (h : Inherits shape last front new old) :
    countIn shape last front new ≤ countIn shape last front old := by
  induction front generalizing last with
  | nil => exact Nat.le_refl 0
  | cons c front ih =>
    have hhead : (shape last (c :: front ++ new)).isSome = true →
        (shape last (c :: front ++ old)).isSome = true := h [] c front rfl
    have htail : Inherits shape (some c) front new old := by
      intro u d v huv hnew
      have := h (c :: u) d v (by rw [huv, List.cons_append])
      rw [behind_cons] at this
      exact this hnew
    refine Nat.add_le_add ?_ (ih htail)
    split
    · rename_i hnew
      exact Nat.le_of_eq (if_pos (hhead hnew)).symm
    · exact Nat.zero_le _

/-- What stands in front of a text matters only by what the shape makes of it. -/
theorem countIn_congr {shape : Shape} {last' : Option Char}
    (h : ∀ text, shape last text = shape last' text) (front rest : Text) :
    countIn shape last front rest = countIn shape last' front rest := by
  cases front with
  | nil => rfl
  | cons c front => simp only [countIn_cons, h]

/-- **A splice makes no places**: at most those of the old text are left, less the ones that started
    in what was replaced. -/
theorem countIn_splice {shape : Shape} {front new old tail : Text}
    (before : Inherits shape last front (new ++ tail) (old ++ tail))
    (within : NoneIn shape (behind last front) new tail)
    (after : ∀ text, shape (behind (behind last front) new) text =
      shape (behind (behind last front) old) text) :
    countIn shape last (front ++ (new ++ tail)) [] + countIn shape (behind last front) old tail ≤
      countIn shape last (front ++ (old ++ tail)) [] := by
  have hfront := before.countIn_le
  have hnew := countIn_eq_zero.mpr within
  have htail := countIn_congr after tail []
  simp only [countIn_append, List.append_nil, hnew, htail]
  omega

/-- Where the shape fits in front of something, there is a place. -/
theorem one_le_countIn {shape : Shape} {body after : Text} (hbody : body ≠ [])
    (fits : shape last (body ++ after) = some rest) : 1 ≤ countIn shape last body after := by
  obtain ⟨c, body, rfl⟩ := List.exists_cons_of_ne_nil hbody
  rw [countIn_cons, fits, Option.isSome_some, if_pos rfl]
  exact Nat.le_add_right 1 _

/-- A shape that takes something is found nowhere when it has no places. -/
theorem firstOf_eq_none_iff {shape : Shape} (hnil : ∀ last, shape last [] = none) (text : Text) :
    firstOf shape text = none ↔ countIn shape none text [] = 0 := by
  rw [countIn_eq_zero]
  constructor
  · intro h u c v huv
    rw [List.append_nil]
    exact firstFrom_eq_none h u (c :: v) huv
  · intro h
    refine firstFrom_of_none fun u v huv => ?_
    cases v with
    | nil => exact hnil _
    | cons c v =>
      have := h u c v huv
      rwa [List.append_nil] at this

/-- **Replacing the first find leaves a place less**, where a splice makes none. -/
theorem countIn_replaceWith {shape : Shape} (reads : shape.Reads) {p : Passage}
    (hp : firstOf shape text = some p) (hbody : p.body ≠ []) {new : Text}
    (before : Inherits shape none p.before (new ++ p.after) (p.body ++ p.after))
    (within : NoneIn shape (behind none p.before) new p.after)
    (after : ∀ text, shape (behind (behind none p.before) new) text =
      shape (behind (behind none p.before) p.body) text) :
    countIn shape none (p.replaceWith new) [] ≤ countIn shape none text [] - 1 := by
  obtain ⟨hwhole, hfits, -⟩ := firstFrom_eq_some reads hp
  have hsplice := countIn_splice before within after
  have hone := one_le_countIn hbody hfits
  rw [← hwhole] at hsplice
  rw [Passage.replaceWith, List.append_assoc]
  omega

/-! ## Finds that end at the first character of a kind -/

/-- A shape that reads up to the first `stop` and does not look at what stands behind it. -/
def StopsAt (shape : Shape) (stop : Char) : Prop :=
  ∀ ⦃last text rest⦄, shape last text = some rest → ∃ front, text = front ++ (stop :: rest) ∧
    stop ∉ front ∧ ∀ rest', shape last (front ++ (stop :: rest')) = some rest'

/-- A shape that fits in front of a `stop`, or up to it, whatever stands behind that. -/
def ClosedBy (shape : Shape) (stop : Char) : Prop :=
  ∀ ⦃last front rest⦄ (rest' : Text), (shape last (front ++ stop :: rest)).isSome = true →
    (shape last (front ++ stop :: rest')).isSome = true

theorem StopsAt.closedBy {shape : Shape} {stop : Char} (stops : shape.StopsAt stop) :
    shape.ClosedBy stop := by
  intro last front rest rest' h
  obtain ⟨left, hleft⟩ := Option.isSome_iff_exists.mp h
  obtain ⟨front', htext, hfree, hlocal⟩ := stops hleft
  -- the find ends at the same stop, or at one before
  rcases List.append_eq_append_iff.mp htext with ⟨z, rfl, hz⟩ | ⟨z, rfl, hz⟩
  · cases z with
    | nil =>
      have hfits := hlocal rest'
      rw [List.append_nil] at hfits
      rw [hfits, Option.isSome_some]
    | cons d z =>
      obtain ⟨rfl, -⟩ := List.cons.inj hz
      exact absurd (by simp) hfree
  · cases z with
    | nil => simp [hlocal rest']
    | cons d z =>
      obtain ⟨rfl, -⟩ := List.cons.inj hz
      simp [hlocal (z ++ stop :: rest')]

/-- **The leftmost find of such a shape stays** when the text behind it changes. -/
theorem firstOf_of_stopsAt {shape : Shape} {stop : Char} (reads : shape.Reads)
    (stops : shape.StopsAt stop) {p : Passage} (h : firstOf shape text = some p) (after : Text) :
    firstOf shape (p.before ++ (p.body ++ after)) = some ⟨p.before, p.body, after⟩ := by
  obtain ⟨-, hfits, hearlier⟩ := firstFrom_eq_some reads h
  obtain ⟨front, hfront, -, hlocal⟩ := stops hfits
  have hbody : p.body = front ++ [stop] :=
    (List.append_left_inj p.after).mp (by simpa using hfront)
  refine firstFrom_of_fits (by simpa [hbody] using hlocal after) fun u c v hbefore => ?_
  -- a find that starts earlier was there already
  have hinherits : Inherits shape none p.before (p.body ++ after) (p.body ++ p.after) := by
    intro u c v _ hnew
    have hold : (shape (behind none u) ((c :: v ++ front) ++ stop :: p.after)).isSome = true :=
      stops.closedBy p.after (by simpa [hbody] using hnew)
    simpa [hbody] using hold
  exact hinherits.noneIn hearlier u c v hbefore

/-- A text that ends with the stop and has no find, has none in front of another text. -/
theorem ClosedBy.noneIn {shape : Shape} {stop : Char} (closed : shape.ClosedBy stop)
    (hnil : ∀ last, shape last [] = none) {front : Text}
    (hfirst : ∀ text, shape last text = shape none text)
    (h : firstOf shape (front ++ [stop]) = none) (rest : Text) :
    NoneIn shape last (front ++ [stop]) rest := by
  have hnone : NoneIn shape last (front ++ [stop]) [] := by
    rw [← countIn_eq_zero, countIn_congr hfirst]
    exact (firstOf_eq_none_iff hnil _).mp h
  refine Inherits.noneIn (fun u c v huv hnew => ?_) hnone
  obtain ⟨front', hfront⟩ : ∃ front', c :: v = front' ++ [stop] := by
    have hlast := congrArg List.getLast? huv
    rw [List.getLast?_concat, List.getLast?_append, List.getLast?_cons, Option.some_or,
      ← List.getLast?_cons] at hlast
    exact List.getLast?_eq_some_iff.mp hlast.symm
  rw [hfront, List.append_assoc] at hnew ⊢
  exact closed [] hnew

/-! ## The rightmost find -/

/-- Where a shape fits, there is a rightmost find. -/
theorem lastFrom_isSome {shape : Shape} (h : shape last text = some rest) :
    (lastFrom shape last text).isSome = true := by
  cases text with
  | nil => simp [lastFrom, h]
  | cons c cs =>
    simp only [lastFrom]
    split <;> simp [h]

/-- A find behind the front of a text is further to the right than one that starts in it. -/
theorem lastFrom_append {shape : Shape} {front : Text} {p : Passage}
    (h : lastFrom shape (behind last front) text = some p) :
    lastFrom shape last (front ++ text) = some (p.behind front) := by
  induction front generalizing last with
  | nil => exact h
  | cons c front ih =>
    rw [behind_cons] at h
    simp only [List.cons_append, lastFrom, ih h]
    rfl

/-- The rightmost find fits at its place. -/
theorem lastFrom_eq_some {shape : Shape} (reads : shape.Reads) {p : Passage}
    (h : lastFrom shape last text = some p) :
    text = p.before ++ (p.body ++ p.after) ∧
      shape (behind last p.before) (p.body ++ p.after) = some p.after := by
  induction text generalizing last p with
  | nil =>
    obtain ⟨rest, hrest, rfl⟩ := Option.map_eq_some_iff.mp h
    have hnil : rest = [] := List.suffix_nil.mp (reads hrest)
    subst hnil
    exact ⟨rfl, hrest⟩
  | cons c cs ih =>
    simp only [lastFrom] at h
    split at h
    · rename_i q hq
      cases h
      obtain ⟨htext, hfits⟩ := ih hq
      refine ⟨by simp [Passage.behind, htext], ?_⟩
      show shape (behind last ([c] ++ q.before)) (q.body ++ q.after) = some q.after
      rw [List.singleton_append, behind_cons]
      exact hfits
    · obtain ⟨rest, hrest, rfl⟩ := Option.map_eq_some_iff.mp h
      have hbody := upTo_append_of_suffix (reads hrest)
      exact ⟨by simp [hbody], by simpa [hbody] using hrest⟩

end Shape

end RouteLocalizer
