/-
  FILLING IN one name after another is filling in all of them at once.

  `Variables.fill` goes over the whole text once for every name, and what it wrote for the names
  before is text like any other to it.  A template is given here by its PIECES, literal text and
  placeholders.  Filling in one name makes literal text of the placeholders of that name and leaves
  every other piece as it stands (`replaceAll_spell`), so by induction over the names all of them
  are filled in, in whatever order they come.

  The crux is that two opening braces stand together nowhere but at the start of a placeholder: not
  in literal text, not where two pieces meet, and not in a value.  Nothing has to be known of
  closing braces in literal text.
-/
import Mathlib.Data.List.Infix
import RouteLocalizer.Proofs.Runs
import RouteLocalizer.Proofs.Shapes
import RouteLocalizer.Template.Basic

namespace RouteLocalizer

/-! ## Replacing one part everywhere -/

namespace Text

variable {part text : Text} {c : Char}

/-- The character in front of a place does not matter to whether a part stands there. -/
theorem replaceEachFrom_literal (part : Text) (write : Text → Text) (last : Option Char)
    (text : Text) : Shape.replaceEachFrom (Shape.literal part Shape.finish) write 0 last text =
      Shape.replaceEachFrom (Shape.literal part Shape.finish) write 0 none text := by
  cases text with
  | nil => rfl
  | cons c cs => rfl

/-- A character at which the part does not stand is kept. -/
theorem replaceAll_cons (h : ¬ part <+: c :: text) (new : Text) :
    replaceAll part new (c :: text) = c :: replaceAll part new text := by
  have hnone : Shape.literal part Shape.finish none (c :: text) = none := Shape.literal_eq_none h
  simp only [replaceAll, Shape.replaceEach, Shape.replaceEachFrom, hnone]
  rw [replaceEachFrom_literal]

/-- The part is replaced where it stands, and the search goes on behind it. -/
theorem replaceAll_append (h : part ≠ []) (new rest : Text) :
    replaceAll part new (part ++ rest) = new ++ replaceAll part new rest := by
  obtain ⟨c, cs, rfl⟩ := List.exists_cons_of_ne_nil h
  have hfound : Shape.literal (c :: cs) Shape.finish none (c :: (cs ++ rest)) = some rest :=
    Shape.literal_append (c :: cs) rest
  simp only [replaceAll, Shape.replaceEach, List.cons_append, Shape.replaceEachFrom, hfound]
  rw [← List.cons_append, upTo_append, List.length_cons, Nat.add_sub_cancel,
    Shape.replaceEachFrom_skip, replaceEachFrom_literal]

end Text

open Text

/-! ## Pieces of a template -/

/-- A text without braces: every name in capital letters, digits and underscores is one. -/
def IsBraceless (text : Text) : Prop := ∀ c ∈ text, c ≠ '\x7b' ∧ c ≠ '\x7d'

instance (text : Text) : Decidable (IsBraceless text) := decidableForallMem text

/-- A text in which no placeholder starts, whatever stands behind it: two opening braces stand
    nowhere together in it, and it does not end with one. -/
structure IsLiteral (text : Text) : Prop where
  opening : ¬ ['\x7b', '\x7b'] <:+: text
  last : text.getLast? ≠ some '\x7b'

instance (text : Text) : Decidable (IsLiteral text) :=
  decidable_of_iff (¬ ['\x7b', '\x7b'] <:+: text ∧ text.getLast? ≠ some '\x7b')
    ⟨fun h => ⟨h.1, h.2⟩, fun h => ⟨h.1, h.2⟩⟩

theorem IsBraceless.isLiteral {text : Text} (h : IsBraceless text) : IsLiteral text where
  opening := fun hopening => (h '\x7b' (hopening.subset (by simp))).1 rfl
  last := fun hlast => (h '\x7b' (List.mem_of_getLast? hlast)).1 rfl

/-- A piece of a template. -/
inductive Piece where
  | literal (text : Text)
  | placeholder (name : Text)

namespace Piece

/-- How a piece stands in a template. -/
def spell : Piece → Text
  | .literal text => text
  | .placeholder name => Variables.placeholder name

/-- What a piece has to be like. -/
def IsLegal : Piece → Prop
  | .literal text => IsLiteral text
  | .placeholder name => IsBraceless name

instance : (p : Piece) → Decidable p.IsLegal
  | .literal text => inferInstanceAs (Decidable (IsLiteral text))
  | .placeholder name => inferInstanceAs (Decidable (IsBraceless name))

/-- A piece with the values filled in, all at once. -/
def filled (vars : Variables) : Piece → Text
  | .literal text => text
  | .placeholder name => (vars.lookup name).getD (Variables.placeholder name)

/-- A piece with one value filled in: a placeholder of that name is literal text from then on. -/
def put (name value : Text) : Piece → Piece
  | .literal text => .literal text
  | .placeholder other => if other = name then .literal value else .placeholder other

end Piece

/-- The text of a template. -/
def spellPieces (pieces : List Piece) : Text := pieces.flatMap Piece.spell

/-! ## One name -/

namespace Piece

variable {name value text : Text}

/-- Literal text holds no placeholder and starts none. -/
theorem replaceAll_literal (h : IsLiteral text) (name value rest : Text) :
    replaceAll (Variables.placeholder name) value (text ++ rest) =
      text ++ replaceAll (Variables.placeholder name) value rest := by
  induction text with
  | nil => rfl
  | cons c cs ih =>
    have hcs : IsLiteral cs := by
      refine ⟨fun hopening => h.opening (hopening.trans (List.suffix_cons c cs).isInfix), ?_⟩
      intro hlast
      refine h.last ?_
      rw [List.getLast?_cons, hlast]
      rfl
    have hnot : ¬ Variables.placeholder name <+: c :: (cs ++ rest) := by
      rintro ⟨behind, heq⟩
      obtain ⟨hc, heq⟩ := List.cons.inj heq
      cases cs with
      | nil => exact h.last (by rw [← hc]; rfl)
      | cons d ds =>
        obtain ⟨hd, -⟩ := List.cons.inj heq
        exact h.opening ⟨[], ds, by rw [← hc, ← hd]; rfl⟩
    rw [List.cons_append, replaceAll_cons hnot, ih hcs, List.cons_append]

theorem placeholder_eq_cons (name : Text) :
    Variables.placeholder name = '\x7b' :: '\x7b' :: (name ++ ['\x7d', '\x7d']) := rfl

/-- A name ends at the first closing brace. -/
theorem eq_of_startsWith_placeholder {other rest : Text} (hname : IsBraceless name)
    (hother : IsBraceless other)
    (h : Variables.placeholder name <+: Variables.placeholder other ++ rest) : other = name := by
  obtain ⟨behind, heq⟩ := h
  simp only [placeholder_eq_cons, List.cons_append, List.append_assoc, List.cons.injEq,
    true_and] at heq
  have hnot : ∀ {text : Text}, IsBraceless text → ∀ c ∈ text, (c != '\x7d') = true :=
    fun htext c hc => by simpa using (htext c hc).2
  exact (word_unique heq (hnot hname) (hnot hother) rfl rfl).symm

/-- A placeholder of another name is kept. -/
theorem replaceAll_placeholder {other : Text} (hname : IsBraceless name)
    (hother : IsBraceless other) (hne : other ≠ name) (value rest : Text) :
    replaceAll (Variables.placeholder name) value (Variables.placeholder other ++ rest) =
      Variables.placeholder other ++ replaceAll (Variables.placeholder name) value rest := by
  -- behind its first brace a placeholder is literal text
  have hrest : '\x7b' ∉ other ++ ['\x7d', '\x7d'] := by
    intro hmem
    rcases List.mem_append.mp hmem with hmem | hmem
    · exact (hother _ hmem).1 rfl
    · revert hmem
      decide
  have hliteral : IsLiteral ('\x7b' :: (other ++ ['\x7d', '\x7d'])) := by
    constructor
    · intro hopening
      rcases List.infix_cons_iff.mp hopening with ⟨behind, heq⟩ | hopening
      · exact hrest ((List.cons.inj heq).2 ▸ List.mem_cons_self)
      · exact hrest (hopening.subset List.mem_cons_self)
    · have hlast : '\x7b' :: (other ++ ['\x7d', '\x7d']) =
          ('\x7b' :: (other ++ ['\x7d'])) ++ ['\x7d'] := by simp
      rw [hlast, List.getLast?_concat]
      decide
  have hnot : ¬ Variables.placeholder name <+: Variables.placeholder other ++ rest :=
    fun h => hne (eq_of_startsWith_placeholder hname hother h)
  have hcons : Variables.placeholder other ++ rest =
      '\x7b' :: ('\x7b' :: (other ++ ['\x7d', '\x7d']) ++ rest) := rfl
  rw [hcons] at hnot ⊢
  rw [replaceAll_cons hnot, replaceAll_literal hliteral]
  rfl

/-- **Filling in one name** makes literal text of its placeholders, and keeps all other pieces. -/
theorem replaceAll_spell (hname : IsBraceless name) (value : Text) {pieces : List Piece}
    (legal : ∀ p ∈ pieces, p.IsLegal) :
    replaceAll (Variables.placeholder name) value (spellPieces pieces) =
      spellPieces (pieces.map (put name value)) := by
  induction pieces with
  | nil => rfl
  | cons p pieces ih =>
    have later := ih fun q hq => legal q (List.mem_cons_of_mem p hq)
    have hp := legal p List.mem_cons_self
    simp only [spellPieces, List.map_cons, List.flatMap_cons] at later ⊢
    cases p with
    | literal text => rw [spell, replaceAll_literal hp, later, put, spell]
    | placeholder other =>
      by_cases hother : other = name
      · subst hother
        rw [spell, replaceAll_append (by simp [placeholder_eq_cons]), later, put, if_pos rfl, spell]
      · rw [spell, replaceAll_placeholder hname hp hother, later, put, if_neg hother, spell]

/-- What is filled in is literal text. -/
theorem isLegal_put {p : Piece} (h : p.IsLegal)
    (hvalue : p = .placeholder name → IsLiteral value) : (p.put name value).IsLegal := by
  cases p with
  | literal text => exact h
  | placeholder other =>
    by_cases hother : other = name
    · rw [put, if_pos hother]
      exact hvalue (by rw [hother])
    · rw [put, if_neg hother]
      exact h

/-- A placeholder that is left was there. -/
theorem mem_of_mem_put {other : Text} {pieces : List Piece}
    (h : .placeholder other ∈ pieces.map (put name value)) : .placeholder other ∈ pieces := by
  obtain ⟨q, hq, heq⟩ := List.mem_map.mp h
  cases q with
  | literal text => cases heq
  | placeholder known =>
    rw [put] at heq
    split at heq
    · cases heq
    · exact heq ▸ hq

/-- Filling in the first value and then the others is filling them in at once. -/
theorem filled_put (vars : Variables) (p : Piece) :
    (p.put name value).filled vars = p.filled ((name, value) :: vars) := by
  cases p with
  | literal text => rfl
  | placeholder other =>
    by_cases hother : other = name
    · simp [put, filled, hother]
    · have hlookup : List.lookup other ((name, value) :: vars) = vars.lookup other := by
        rw [List.lookup_cons, beq_false_of_ne hother]
      rw [put, if_neg hother, filled, filled, hlookup]

end Piece

/-! ## All names -/

/-- One value after another gives what all of them give at once, where the values that are put in
    are literal text. -/
theorem Variables.fill_pieces {vars : Variables} (names : ∀ v ∈ vars, IsBraceless v.1)
    {pieces : List Piece} (values : ∀ v ∈ vars, .placeholder v.1 ∈ pieces → IsLiteral v.2)
    (legal : ∀ p ∈ pieces, p.IsLegal) :
    vars.fill (spellPieces pieces) = pieces.flatMap (Piece.filled vars) := by
  induction vars generalizing pieces with
  | nil =>
    have hfilled : Piece.filled [] = Piece.spell := by
      funext p
      cases p <;> rfl
    rw [hfilled]
    rfl
  | cons v vars ih =>
    obtain ⟨name, value⟩ := v
    obtain ⟨hname, names⟩ := List.forall_mem_cons.mp names
    obtain ⟨hvalue, values⟩ := List.forall_mem_cons.mp values
    have legal' : ∀ p ∈ pieces.map (Piece.put name value), p.IsLegal := by
      intro p hp
      obtain ⟨q, hq, rfl⟩ := List.mem_map.mp hp
      exact Piece.isLegal_put (legal q hq) fun heq => hvalue (heq ▸ hq)
    have later := ih names (fun v hv hmem => values v hv (Piece.mem_of_mem_put hmem)) legal'
    have hstep : Variables.fill ((name, value) :: vars) (spellPieces pieces) =
        Variables.fill vars (spellPieces (pieces.map (Piece.put name value))) := by
      rw [← Piece.replaceAll_spell hname value legal]
      rfl
    rw [hstep, later, List.flatMap_map]
    congr 1
    funext p
    exact Piece.filled_put vars p

/-- The value of a name does not depend on the order in which names and values stand. -/
theorem Variables.lookup_of_perm {vars order : Variables} (perm : order.Perm vars)
    (names : (vars.map Prod.fst).Nodup) (name : Text) :
    order.lookup name = vars.lookup name := by
  induction perm with
  | nil => rfl
  | cons v _ ih =>
    obtain ⟨other, value⟩ := v
    have ih := ih (List.nodup_cons.mp names).2
    rw [List.lookup_cons, List.lookup_cons, ih]
  | swap v w =>
    obtain ⟨first, value⟩ := v
    obtain ⟨second, value'⟩ := w
    have hne : first ≠ second := by
      rintro rfl
      simp at names
    by_cases hfirst : name = first
    · subst hfirst
      simp [List.lookup_cons, beq_false_of_ne hne]
    · simp [List.lookup_cons, beq_false_of_ne hfirst]
  | trans perm perm' ih ih' =>
    exact (ih ((perm'.map Prod.fst).nodup_iff.mpr names)).trans (ih' names)

/-- **Filling in one name after another is filling in all at once**, in whatever order: of the
    pieces of a template, each placeholder of a name that has a value becomes the value, and all
    others stay as they stand. -/
theorem Variables.fill_spell {vars order : Variables} {pieces : List Piece}
    (names : (vars.map Prod.fst).Nodup)
    (braceless : ∀ v ∈ vars, IsBraceless v.1 ∧ IsBraceless v.2)
    (legal : ∀ p ∈ pieces, p.IsLegal) (perm : order.Perm vars) :
    order.fill (spellPieces pieces) = pieces.flatMap (Piece.filled vars) := by
  rw [Variables.fill_pieces (fun v hv => (braceless v (perm.subset hv)).1)
    (fun v hv _ => (braceless v (perm.subset hv)).2.isLiteral) legal]
  congr 1
  funext p
  cases p with
  | literal text => rfl
  | placeholder name => rw [Piece.filled, Piece.filled, lookup_of_perm perm names]

/-- A template with braces of its own, filled in against the order of the names: `A` and `B` have
    values, the one of `B` is empty, and `C` has none. -/
theorem Variables.fill_spell_sample :
    let vars : Variables := [("A", "x"), ("B", "")]
    let pieces : List Piece := [.literal "a\x7d\x7bb", .placeholder "A", .placeholder "B",
      .placeholder "C", .literal "\x7bb\x7dc", .placeholder "B"]
    ((vars.map Prod.fst).Nodup ∧ (∀ v ∈ vars, IsBraceless v.1 ∧ IsBraceless v.2) ∧
        (∀ p ∈ pieces, p.IsLegal) ∧ vars.reverse.Perm vars) ∧
      Variables.fill vars.reverse (spellPieces pieces) =
        ("a\x7d\x7bbx\x7b\x7bC\x7d\x7d\x7bb\x7dc" : Text) := by
  intro vars pieces
  have legal : ∀ p ∈ pieces, p.IsLegal := by decide
  refine ⟨⟨by decide, by decide, legal, vars.reverse_perm⟩, ?_⟩
  rw [Variables.fill_spell (by decide) (by decide) legal vars.reverse_perm]
  decide

end RouteLocalizer
