/-
  The OPTIONS OBJECT is found when its braces balance, and only then.

  `IsObject` says what an object is by a grammar: a brace, then plain characters, strings and
  further objects, then the closing brace.  The reader that looks for its end goes through the text
  once and counts, and knows nothing of the grammar.

  1. What balances is read over without a change of the count (`Braced.closeBrace_append`), so an
     object is read to its end.
  2. What is read up to the brace that closes all that is open is an object (`closes_of_closeBrace`,
     by induction on the reader).  It follows that an object has one end.
  3. As long as the reader has not come to that brace, one brace at least is open
     (`openBraces_pos`).

  The root call is told by its parts for every name, also one that holds white space or braces: its
  parts may be cut in several ways, but all of them end at the same brace (`rootCall_rest`).
-/
import RouteLocalizer.Proofs.Shapes
import RouteLocalizer.Proofs.Spelling
import RouteLocalizer.Script.RootOptions

namespace RouteLocalizer.Script

open Text Import

/-! ## The root call -/

/-- A root call, up to its brace: the word `new`, the name and the parenthesis. -/
def SpellsRootCall (host call : Text) : Prop :=
  ∃ gap₁ gap₂ gap₃, call = ['n', 'e', 'w'] ++ (gap₁ ++ (host ++ (gap₂ ++ '(' :: gap₃))) ∧
    gap₁ ≠ [] ∧ (∀ c ∈ gap₁, isBlank c = true) ∧ (∀ c ∈ gap₂, isBlank c = true) ∧
    ∀ c ∈ gap₃, isBlank c = true

/-- A root call starts a text, and `rest` stands behind its brace. -/
def StartsWithRootCall (host : Text) (last : Option Char) (text rest : Text) : Prop :=
  last.any isWordChar = false ∧ ∃ call, SpellsRootCall host call ∧ text = call ++ '\x7b' :: rest

/-- The first root call of a text: `front` goes up to its brace, and `rest` stands behind it. -/
def IsFirstRootCall (host text front rest : Text) : Prop :=
  ∃ before call, front = before ++ call ∧ text = front ++ '\x7b' :: rest ∧
    SpellsRootCall host call ∧ before.getLast?.any isWordChar = false ∧
    ∀ u c v, before = u ++ c :: v →
      ∀ other, ¬StartsWithRootCall host u.getLast? (c :: v ++ (call ++ '\x7b' :: rest)) other

/-- The root call, taken apart. -/
theorem rootCall_parts {host : Text} {last : Option Char} {text rest : Text}
    (h : rootCall host last text = some rest) : isBoundary last text = true ∧ ∃ gap₁ gap₂ gap₃,
      text = ['n', 'e', 'w'] ++ (gap₁ ++ (host ++ (gap₂ ++ ('(' :: (gap₃ ++ '\x7b' :: rest))))) ∧
      gap₁ ≠ [] ∧ (∀ c ∈ gap₁, isBlank c = true) ∧ (∀ c ∈ gap₂, isBlank c = true) ∧
      ∀ c ∈ gap₃, isBlank c = true := by
  unfold rootCall at h
  obtain ⟨hboundary, h⟩ := Shape.boundary_eq_some.mp h
  obtain ⟨_, hnew, h⟩ := Shape.literal_eq_some.mp h
  obtain ⟨gap₁, _, hgap₁, hne, hblank₁, h⟩ := Shape.runOne_eq_some h
  obtain ⟨_, hhost', h⟩ := Shape.literal_eq_some.mp h
  obtain ⟨gap₂, _, hgap₂, hblank₂, h⟩ := Shape.run_eq_some h
  obtain ⟨_, hopen, h⟩ := Shape.literal_eq_some.mp h
  obtain ⟨gap₃, _, hgap₃, hblank₃, h⟩ := Shape.run_eq_some h
  obtain ⟨_, hbrace, h⟩ := Shape.literal_eq_some.mp h
  obtain rfl := Shape.finish_eq_some.mp h
  subst hnew hgap₁ hhost' hgap₂ hopen hgap₃ hbrace
  exact ⟨hboundary, gap₁, gap₂, gap₃, rfl, hne, hblank₁, hblank₂, hblank₃⟩

/-- **However a root call is cut into its parts**, the same text stands behind its brace. -/
theorem rootCall_rest {host gap₁ gap₂ gap₃ rest gap₁' gap₂' gap₃' rest' : Text}
    (h : gap₁ ++ (host ++ (gap₂ ++ '(' :: (gap₃ ++ '\x7b' :: rest))) =
      gap₁' ++ (host ++ (gap₂' ++ '(' :: (gap₃' ++ '\x7b' :: rest'))))
    (hgap₁ : ∀ c ∈ gap₁, isBlank c = true) (hgap₂ : ∀ c ∈ gap₂, isBlank c = true)
    (hgap₃ : ∀ c ∈ gap₃, isBlank c = true) (hgap₁' : ∀ c ∈ gap₁', isBlank c = true)
    (hgap₂' : ∀ c ∈ gap₂', isBlank c = true) (hgap₃' : ∀ c ∈ gap₃', isBlank c = true) :
    rest = rest' := by
  have hopen : isBlank '(' = false := by decide
  have hbrace : isBlank '\x7b' = false := by decide
  have hdrop := congrArg (List.dropWhile isBlank) h
  rw [List.dropWhile_append_of_pos hgap₁, List.dropWhile_append_of_pos hgap₁'] at hdrop
  -- a name of white space alone goes with the gaps around it, and any other one stays
  have hcall : '(' :: (gap₃ ++ '\x7b' :: rest) = '(' :: (gap₃' ++ '\x7b' :: rest') := by
    have hname : ∀ rest : Text, (host ++ rest).dropWhile isBlank =
        if (host.dropWhile isBlank).isEmpty then rest.dropWhile isBlank
        else host.dropWhile isBlank ++ rest := fun _ => List.dropWhile_append
    rw [hname, hname] at hdrop
    split at hdrop
    · rwa [List.dropWhile_append_of_pos hgap₂, List.dropWhile_append_of_pos hgap₂',
        List.dropWhile_cons_of_neg (by simp [hopen]),
        List.dropWhile_cons_of_neg (by simp [hopen])] at hdrop
    · exact rest_unique ((List.append_right_inj _).mp hdrop) hgap₂ hgap₂' hopen hopen
  exact (List.cons.inj (rest_unique (List.cons.inj hcall).2 hgap₃ hgap₃' hbrace hbrace)).2

/-- **A root call is told by its parts.** -/
theorem rootCall_eq_some {host : Text} {last : Option Char} {text rest : Text} :
    rootCall host last text = some rest ↔ isBoundary last text = true ∧ ∃ gap₁ gap₂ gap₃,
      text = ['n', 'e', 'w'] ++ (gap₁ ++ (host ++ (gap₂ ++ ('(' :: (gap₃ ++ '\x7b' :: rest))))) ∧
      gap₁ ≠ [] ∧ (∀ c ∈ gap₁, isBlank c = true) ∧ (∀ c ∈ gap₂, isBlank c = true) ∧
      ∀ c ∈ gap₃, isBlank c = true := by
  refine ⟨rootCall_parts, ?_⟩
  rintro ⟨hboundary, gap₁, gap₂, gap₃, rfl, hne, hgap₁, hgap₂, hgap₃⟩
  have hfits : (rootCall host last (['n', 'e', 'w'] ++ (gap₁ ++ (host ++ (gap₂ ++ ('(' ::
      (gap₃ ++ '\x7b' :: rest))))))).isSome = true := by
    unfold rootCall
    rw [Shape.boundary, if_pos hboundary, Shape.literal_append]
    refine Shape.runOne_isSome hne hgap₁ ?_
    rw [Shape.literal_append]
    refine Shape.run_isSome hgap₂ ?_
    rw [Shape.literal_singleton]
    refine Shape.run_isSome hgap₃ ?_
    rw [Shape.literal_singleton]
    rfl
  obtain ⟨rest', hrest'⟩ := Option.isSome_iff_exists.mp hfits
  obtain ⟨-, gap₁', gap₂', gap₃', hparts, -, hgap₁', hgap₂', hgap₃'⟩ := rootCall_parts hrest'
  rw [hrest', rootCall_rest ((List.append_right_inj _).mp hparts) hgap₁ hgap₂ hgap₃ hgap₁' hgap₂'
    hgap₃']

theorem rootCall_iff {host : Text} {last : Option Char} {text rest : Text} :
    rootCall host last text = some rest ↔ StartsWithRootCall host last text rest := by
  have hboundary : ∀ more : Text, isBoundary last (['n', 'e', 'w'] ++ more) = true ↔
      last.any isWordChar = false := by
    intro more
    simp [isBoundary, show isWordChar 'n' = true by decide]
  rw [rootCall_eq_some]
  constructor
  · rintro ⟨hlast, gap₁, gap₂, gap₃, rfl, hne, hgaps⟩
    exact ⟨(hboundary _).mp hlast, _, ⟨gap₁, gap₂, gap₃, rfl, hne, hgaps⟩, by simp⟩
  · rintro ⟨hlast, _, ⟨gap₁, gap₂, gap₃, rfl, hne, hgaps⟩, rfl⟩
    exact ⟨by simpa using (hboundary _).mpr hlast, gap₁, gap₂, gap₃, by simp, hne, hgaps⟩

theorem rootCall_stopsAt {host : Text} (hhost : '\x7b' ∉ host) :
    (rootCall host).StopsAt '\x7b' := by
  intro last text rest h
  obtain ⟨hboundary, gap₁, gap₂, gap₃, htext, hne, hgap₁, hgap₂, hgap₃⟩ := rootCall_eq_some.mp h
  have hblank : ∀ {gap : Text}, (∀ c ∈ gap, isBlank c = true) → '\x7b' ∉ gap := fun hgap hmem =>
    absurd (hgap _ hmem) (by decide)
  refine ⟨['n', 'e', 'w'] ++ (gap₁ ++ (host ++ (gap₂ ++ '(' :: gap₃))), by simp [htext], ?_,
    fun rest' => ?_⟩
  · simp [hblank hgap₁, hblank hgap₂, hblank hgap₃, hhost]
  · refine rootCall_eq_some.mpr ⟨?_, gap₁, gap₂, gap₃, by simp, hne, hgap₁, hgap₂, hgap₃⟩
    rw [htext] at hboundary
    simpa [isBoundary] using hboundary

theorem rootCall_reads (host : Text) : (rootCall host).Reads :=
  .boundary <| .literal _ <| .runOne _ <| .literal _ <| .run _ <| .literal _ <| .run _ <|
    .literal _ .finish

/-- The first root call ends with its brace. -/
theorem rootCall_found {host text : Text} {call : Passage}
    (h : Shape.firstOf (rootCall host) text = some call) :
    text = call.before ++ (call.body ++ call.after) ∧ ∃ front, call.body = front ++ ['\x7b'] := by
  obtain ⟨htext, hfits, -⟩ := Shape.firstFrom_eq_some (rootCall_reads host) h
  obtain ⟨-, gap₁, gap₂, gap₃, hparts, -⟩ := rootCall_parts hfits
  exact ⟨htext, ['n', 'e', 'w'] ++ (gap₁ ++ (host ++ (gap₂ ++ '(' :: gap₃))),
    (List.append_left_inj call.after).mp (by simpa using hparts)⟩

/-- **The search finds the first root call**, up to its brace. -/
theorem isFirstRootCall_iff {host text front rest : Text} : IsFirstRootCall host text front rest ↔
    ∃ before call, front = before ++ call ∧
      Shape.firstOf (rootCall host) text = some ⟨before, call ++ ['\x7b'], rest⟩ := by
  have hnone : ∀ {last : Option Char} {text : Text}, rootCall host last text = none ↔
      ∀ other, ¬StartsWithRootCall host last text other := by
    intro last text
    rw [Option.eq_none_iff_forall_not_mem]
    exact forall_congr' fun other => not_congr rootCall_iff
  constructor
  · rintro ⟨before, call, rfl, rfl, hcall, hbefore, hearlier⟩
    refine ⟨before, call, rfl, ?_⟩
    have hfits : rootCall host (Shape.behind none before) ((call ++ ['\x7b']) ++ rest) =
        some rest := by
      refine rootCall_iff.mpr ⟨?_, call, hcall, by simp⟩
      rwa [Shape.behind, Option.or_none]
    have hfirst := Shape.firstFrom_of_fits hfits fun u c v huv => by
      rw [hnone, Shape.behind, Option.or_none]
      simpa using hearlier u c v huv
    simpa [Shape.firstOf] using hfirst
  · rintro ⟨before, call, rfl, hfirst⟩
    obtain ⟨htext, hfits, hearlier⟩ := Shape.firstFrom_eq_some (rootCall_reads host) hfirst
    obtain ⟨hbefore, call', hcall, hwhole⟩ := rootCall_iff.mp hfits
    obtain rfl : call = call' := by simpa using hwhole
    refine ⟨before, call, rfl, by simpa using htext, hcall, ?_, fun u c v huv => ?_⟩
    · rwa [Shape.behind, Option.or_none] at hbefore
    · have hnot := hnone.mp (hearlier u c v huv)
      rw [Shape.behind, Option.or_none] at hnot
      simpa using hnot

/-! ## What balances -/

/-- A character that neither starts a string nor counts as a brace. -/
def isPlain (c : Char) : Bool := !isQuote c && c != '\x7b' && c != '\x7d'

theorem isPlain_iff {c : Char} :
    isPlain c = true ↔ isQuote c = false ∧ c ≠ '\x7b' ∧ c ≠ '\x7d' := by
  simp [isPlain, and_assoc]

theorem isPlain_of_isIdentifierChar {c : Char} (h : isIdentifierChar c = true) :
    isPlain c = true := by
  have hnot : ∀ {d : Char}, isIdentifierChar d = false → c ≠ d := by
    rintro d hd rfl
    simp [hd] at h
  have hquote : isQuote c = false := by
    simp [isQuote, hnot (d := '\'') (by decide), hnot (d := '"') (by decide),
      hnot (d := '\x60') (by decide)]
  exact isPlain_iff.mpr ⟨hquote, hnot (by decide), hnot (by decide)⟩

/-- A string behind its opening quote, with the quote that ends it.  A backslash takes the next
    character with it. -/
inductive StringTail (quote : Char) : Text → Prop where
  | close : StringTail quote [quote]
  | escaped (c : Char) {rest : Text} (h : StringTail quote rest) :
      StringTail quote ('\\' :: c :: rest)
  | char {c : Char} {rest : Text} (hslash : c ≠ '\\') (hquote : c ≠ quote)
      (h : StringTail quote rest) : StringTail quote (c :: rest)

/-- A string without a backslash runs to its quote. -/
theorem stringTail_of_plain {quote : Char} {text : Text}
    (h : ∀ c ∈ text, c ≠ '\\' ∧ c ≠ quote) : StringTail quote (text ++ [quote]) := by
  induction text with
  | nil => exact .close
  | cons c text ih =>
    obtain ⟨hslash, hquote⟩ := h c (by simp)
    exact .char hslash hquote (ih fun d hd => h d (by simp [hd]))

/-- What may stand between the braces of an object: plain characters, strings and objects. -/
inductive Braced : Text → Prop where
  | nil : Braced []
  | char {c : Char} {rest : Text} (hc : isPlain c = true) (h : Braced rest) :
      Braced (c :: rest)
  | string {quote : Char} {tail rest : Text} (hquote : isQuote quote = true)
      (htail : StringTail quote tail) (h : Braced rest) : Braced (quote :: (tail ++ rest))
  | object {inner rest : Text} (hinner : Braced inner) (h : Braced rest) :
      Braced ('\x7b' :: (inner ++ '\x7d' :: rest))

/-- An object literal, from brace to brace. -/
def IsObject (text : Text) : Prop :=
  ∃ inner, text = '\x7b' :: (inner ++ ['\x7d']) ∧ Braced inner

theorem Braced.append {a b : Text} (ha : Braced a) (hb : Braced b) : Braced (a ++ b) := by
  induction ha with
  | nil => exact hb
  | char hc _ ih => exact .char hc ih
  | string hquote htail _ ih => simpa using Braced.string hquote htail ih
  | object hinner _ _ ih => simpa using Braced.object hinner ih

theorem braced_of_plain {text : Text} (h : ∀ c ∈ text, isPlain c = true) : Braced text := by
  induction text with
  | nil => exact .nil
  | cons c text ih => exact .char (h c (by simp)) (ih fun d hd => h d (by simp [hd]))

/-! ## Reading over what balances -/

/-- A text in front of what an object's end is looked for in. -/
def inFront (front : Text) (split : Option (Text × Text)) : Option (Text × Text) :=
  split.map fun (object, rest) => (front ++ object, rest)

theorem keep_eq (c : Char) (split : Option (Text × Text)) :
    closeBrace.keep c split = inFront [c] split := rfl

theorem inFront_inFront (a b : Text) (split : Option (Text × Text)) :
    inFront a (inFront b split) = inFront (a ++ b) split := by
  cases split <;> simp [inFront]

theorem closeBrace_stringTail {quote : Char} (hquote : isQuote quote = true) {tail : Text}
    (htail : StringTail quote tail) (opened : Nat) (text : Text) :
    closeBrace opened (.string quote) (tail ++ text) =
      inFront tail (closeBrace opened .code text) := by
  have hne : quote ≠ '\\' := by
    rintro rfl
    cases hquote
  induction htail with
  | close => simp [closeBrace, hne, keep_eq]
  | escaped c _ ih => simp [closeBrace, ih, keep_eq, inFront_inFront]
  | char hslash hend _ ih => simp [closeBrace, hslash, hend, ih, keep_eq, inFront_inFront]

/-- **What balances is read over**: the reader goes on behind it as it stood in front of it. -/
theorem Braced.closeBrace_append {front : Text} (h : Braced front) (opened : Nat)
    (text : Text) : closeBrace opened .code (front ++ text) =
      inFront front (closeBrace opened .code text) := by
  induction h generalizing opened text with
  | nil => cases hclose : closeBrace opened .code text <;> simp [inFront, hclose]
  | char hc _ ih =>
    obtain ⟨hquote, hopen, hclose⟩ := isPlain_iff.mp hc
    simp [closeBrace, hquote, hopen, hclose, ih, keep_eq, inFront_inFront]
  | string hquote htail _ ih =>
    simp [closeBrace, hquote, closeBrace_stringTail hquote htail, ih, keep_eq, inFront_inFront]
  | object _ _ ih ih' =>
    have hopen : isQuote '\x7b' = false := by decide
    have hclose : isQuote '\x7d' = false := by decide
    simp [closeBrace, hopen, hclose, ih, ih', keep_eq, inFront_inFront]

/-! ## What the reader reads -/

/-- A text that closes the given number of open objects and one more, and ends there. -/
inductive Closes : Nat → Text → Prop where
  | last {inner : Text} (h : Braced inner) : Closes 0 (inner ++ ['\x7d'])
  | next {opened : Nat} {inner rest : Text} (h : Braced inner) (hrest : Closes opened rest) :
      Closes (opened + 1) (inner ++ '\x7d' :: rest)

namespace Closes

variable {opened : Nat} {object : Text}

theorem prepend (h : Closes opened object) {front : Text} (hfront : Braced front) :
    Closes opened (front ++ object) := by
  cases h with
  | last h => simpa using Closes.last (hfront.append h)
  | next h hrest => simpa using Closes.next (hfront.append h) hrest

theorem char (h : Closes opened object) {c : Char} (hc : isPlain c = true) :
    Closes opened (c :: object) := h.prepend (.char hc .nil)

/-- An object that is opened and closed is one more that balances. -/
theorem opening (h : Closes (opened + 1) object) : Closes opened ('\x7b' :: object) := by
  cases h with
  | next hinner hrest => simpa using hrest.prepend (.object hinner .nil)

end Closes

/-- What the reader still has to read, by what it is inside of. -/
def Expects (opened : Nat) : Inside → Text → Prop
  | .code, text => Closes opened text
  | .string quote, text => ∃ tail rest, text = tail ++ rest ∧ StringTail quote tail ∧
      Closes opened rest
  | .escape quote, text => ∃ c tail rest, text = c :: (tail ++ rest) ∧ StringTail quote tail ∧
      Closes opened rest

/-- Whether a reader is inside of a string that a quote has started. -/
def Inside.Quoted : Inside → Prop
  | .code => True
  | .string quote => isQuote quote = true
  | .escape quote => isQuote quote = true

/-- The object and what stands behind it are the text. -/
theorem closeBrace_whole {opened : Nat} {inside : Inside} {text object rest : Text}
    (h : closeBrace opened inside text = some (object, rest)) : text = object ++ rest := by
  have hkeep : ∀ {c : Char} {cs : Text} {split : Option (Text × Text)} {object rest : Text},
      (∀ {object rest}, split = some (object, rest) → cs = object ++ rest) →
      closeBrace.keep c split = some (object, rest) → c :: cs = object ++ rest := by
    intro c cs split object rest ih h
    obtain ⟨⟨tail, rest'⟩, hsplit, heq⟩ := Option.map_eq_some_iff.mp h
    cases heq
    rw [ih hsplit, List.cons_append]
  fun_induction closeBrace opened inside text generalizing object rest with
  | case1 => cases h
  | case8 => cases h; rfl
  | _ => exact hkeep (by assumption) h

/-- **What the reader reads closes all that is open.** -/
theorem closes_of_closeBrace {opened : Nat} {inside : Inside} {text object rest : Text}
    (hinside : inside.Quoted) (h : closeBrace opened inside text = some (object, rest)) :
    Expects opened inside object := by
  -- one character is read, and the rest is what the reader expects then
  have hkeep : ∀ {c : Char} {split : Option (Text × Text)} {object rest : Text},
      closeBrace.keep c split = some (object, rest) →
        ∃ tail, object = c :: tail ∧ split = some (tail, rest) := by
    intro c split object rest h
    obtain ⟨⟨tail, rest'⟩, hsplit, heq⟩ := Option.map_eq_some_iff.mp h
    cases heq
    exact ⟨tail, rfl, hsplit⟩
  fun_induction closeBrace opened inside text generalizing object rest with
  | case1 => cases h
  | case2 opened q c cs ih =>
    obtain ⟨object, rfl, hcs⟩ := hkeep h
    obtain ⟨tail, rest, rfl, htail, hrest⟩ := ih hinside hcs
    exact ⟨c, tail, rest, rfl, htail, hrest⟩
  | case3 opened q cs ih =>
    obtain ⟨object, rfl, hcs⟩ := hkeep h
    obtain ⟨c, tail, rest, rfl, htail, hrest⟩ := ih hinside hcs
    exact ⟨'\\' :: c :: tail, rest, rfl, .escaped c htail, hrest⟩
  | case4 opened c cs hslash ih =>
    obtain ⟨object, rfl, hcs⟩ := hkeep h
    exact ⟨[c], object, rfl, .close, ih trivial hcs⟩
  | case5 opened q c cs hslash hquote ih =>
    obtain ⟨object, rfl, hcs⟩ := hkeep h
    obtain ⟨tail, rest, rfl, htail, hrest⟩ := ih hinside hcs
    exact ⟨c :: tail, rest, rfl, .char hslash hquote htail, hrest⟩
  | case6 opened c cs hquote ih =>
    obtain ⟨object, rfl, hcs⟩ := hkeep h
    obtain ⟨tail, rest, rfl, htail, hrest⟩ := ih hquote hcs
    have hstring := Braced.string hquote htail .nil
    rw [List.append_nil] at hstring
    exact hrest.prepend hstring
  | case7 opened cs hquote ih =>
    obtain ⟨object, rfl, hcs⟩ := hkeep h
    exact Closes.opening (ih trivial hcs)
  | case8 cs =>
    cases h
    exact Closes.last .nil
  | case9 cs opened hquote hopen ih =>
    obtain ⟨object, rfl, hcs⟩ := hkeep h
    exact Closes.next .nil (ih trivial hcs)
  | case10 opened c cs hquote hopen hclose ih =>
    obtain ⟨object, rfl, hcs⟩ := hkeep h
    exact Closes.char (ih trivial hcs) (isPlain_iff.mpr ⟨by simpa using hquote, hopen, hclose⟩)

/-- **The reader finds the end of an object**, and nothing else. -/
theorem closeBrace_eq_some_iff {text object rest : Text} :
    closeBrace 0 .code text = some (object, rest) ↔
      text = object ++ rest ∧ IsObject ('\x7b' :: object) := by
  constructor
  · intro h
    refine ⟨closeBrace_whole h, ?_⟩
    have hinside : Inside.code.Quoted := trivial
    cases closes_of_closeBrace hinside h with
    | last hinner => exact ⟨_, rfl, hinner⟩
  · rintro ⟨rfl, inner, heq, hinner⟩
    obtain rfl := (List.cons.inj heq).2
    have hclose : isQuote '\x7d' = false := by decide
    rw [List.append_assoc, hinner.closeBrace_append]
    simp [closeBrace, hclose, inFront]

/-! ## Counting the open braces -/

/-- How many braces are open at a place, and what the place is inside of. -/
structure Reading where
  depth : Int
  inside : Inside

/-- The place behind one more character. -/
def Reading.next (p : Reading) (c : Char) : Reading :=
  match p.inside with
  | .escape q => { p with inside := .string q }
  | .string q =>
    if c = '\\' then { p with inside := .escape q }
    else if c = q then { p with inside := .code }
    else p
  | .code =>
    if isQuote c then { p with inside := .string c }
    else if c = '\x7b' then { p with depth := p.depth + 1 }
    else if c = '\x7d' then { p with depth := p.depth - 1 }
    else p

/-- How many braces are open behind a text.  A count that underflows is negative. -/
def openBraces (text : Text) : Int := (text.foldl Reading.next ⟨0, .code⟩).depth

theorem foldl_stringTail {quote : Char} (hquote : isQuote quote = true) {tail : Text}
    (htail : StringTail quote tail) (n : Int) :
    tail.foldl Reading.next ⟨n, .string quote⟩ = ⟨n, .code⟩ := by
  have hne : quote ≠ '\\' := by
    rintro rfl
    cases hquote
  induction htail with
  | close => simp [Reading.next, hne]
  | escaped c _ ih => simpa [Reading.next] using ih
  | char hslash hend _ ih => simpa [Reading.next, hslash, hend] using ih

/-- What balances leaves the count as it was. -/
theorem Braced.foldl {text : Text} (h : Braced text) (n : Int) :
    text.foldl Reading.next ⟨n, .code⟩ = ⟨n, .code⟩ := by
  induction h generalizing n with
  | nil => rfl
  | char hc _ ih =>
    obtain ⟨hquote, hopen, hclose⟩ := isPlain_iff.mp hc
    simpa [Reading.next, hquote, hopen, hclose] using ih n
  | string hquote htail _ ih =>
    simpa [Reading.next, hquote, foldl_stringTail hquote htail] using ih n
  | object _ _ ih ih' =>
    have hopen : isQuote '\x7b' = false := by decide
    have hclose : isQuote '\x7d' = false := by decide
    simpa [Reading.next, hopen, hclose, ih] using ih' n

theorem IsObject.openBraces {text : Text} (h : IsObject text) : openBraces text = 0 := by
  obtain ⟨inner, rfl, hinner⟩ := h
  have hopen : isQuote '\x7b' = false := by decide
  have hclose : isQuote '\x7d' = false := by decide
  simp [Script.openBraces, Reading.next, hopen, hinner.foldl, hclose]

/-- **As long as the object is not closed, a brace is open.** -/
theorem foldl_pos {opened : Nat} {inside : Inside} {text : Text}
    (h : closeBrace opened inside text = none) :
    0 < (text.foldl Reading.next ⟨opened + 1, inside⟩).depth := by
  have hkeep : ∀ {c : Char} {split : Option (Text × Text)},
      closeBrace.keep c split = none → split = none := fun h => Option.map_eq_none_iff.mp h
  fun_induction closeBrace opened inside text with
  | case1 opened inside => exact Int.natCast_succ_pos opened
  | case2 opened q c cs ih => exact ih (hkeep h)
  | case3 opened q cs ih => simpa [Reading.next] using ih (hkeep h)
  | case4 opened c cs hslash ih => simpa [Reading.next, hslash] using ih (hkeep h)
  | case5 opened q c cs hslash hquote ih => simpa [Reading.next, hslash, hquote] using ih (hkeep h)
  | case6 opened c cs hquote ih => simpa [Reading.next, hquote] using ih (hkeep h)
  | case7 opened cs hquote ih => simpa [Reading.next, hquote] using ih (hkeep h)
  | case8 cs => cases h
  | case9 cs opened hquote hopen ih => simpa [Reading.next, hquote] using ih (hkeep h)
  | case10 opened c cs hquote hopen hclose ih =>
    simpa [Reading.next, hquote, hopen, hclose] using ih (hkeep h)

/-- A text behind an open brace that no object starts is not closed. -/
theorem closeBrace_eq_none {text : Text}
    (h : ∀ object, object <+: '\x7b' :: text → ¬IsObject object) :
    closeBrace 0 .code text = none := by
  refine Option.eq_none_iff_forall_not_mem.mpr fun split hsplit => ?_
  obtain ⟨htext, hobject⟩ :=
    closeBrace_eq_some_iff.mp (show _ = some (split.1, split.2) from hsplit)
  exact h ('\x7b' :: split.1) ⟨split.2, by simp [htext]⟩ hobject

theorem openBraces_pos {text : Text} (h : ∀ object, object <+: '\x7b' :: text → ¬IsObject object) :
    0 < openBraces ('\x7b' :: text) := by
  have hopen : isQuote '\x7b' = false := by decide
  simpa [openBraces, Reading.next, hopen] using foldl_pos (closeBrace_eq_none h)

/-! ## The options object -/

/-- Where the brace of the first root call is, the object is read from there. -/
theorem findRootOptions_of_call {host text front rest : Text}
    (h : IsFirstRootCall host text front rest) :
    findRootOptions host text = (closeBrace 0 .code rest).map fun (object, after) =>
      ⟨front, '\x7b' :: object, after⟩ := by
  obtain ⟨before, call, rfl, hfirst⟩ := isFirstRootCall_iff.mp h
  simp [findRootOptions, hfirst]

theorem IsFirstRootCall.whole {host text front rest : Text}
    (h : IsFirstRootCall host text front rest) : text = front ++ '\x7b' :: rest := by
  obtain ⟨-, -, -, htext, -⟩ := h
  exact htext

/-- The object starts with the brace of the first root call. -/
theorem findRootOptions_eq {host text : Text} {object : Passage}
    (h : findRootOptions host text = some object) :
    ∃ inner, object.body = '\x7b' :: inner ∧
      IsFirstRootCall host text object.before (inner ++ object.after) ∧
      closeBrace 0 .code (inner ++ object.after) = some (inner, object.after) := by
  unfold findRootOptions at h
  split at h
  · rename_i call hfirst
    obtain ⟨⟨inner, after⟩, hclose, rfl⟩ := Option.map_eq_some_iff.mp h
    obtain ⟨-, body, hbody⟩ := rootCall_found hfirst
    have hcall : IsFirstRootCall host text (call.before ++ body) call.after :=
      isFirstRootCall_iff.mpr ⟨_, _, rfl, by rw [hfirst, ← hbody]⟩
    exact ⟨inner, rfl, by simpa [hbody, closeBrace_whole hclose] using hcall,
      by rwa [closeBrace_whole hclose] at hclose⟩
  · cases h

/-- **The options object is found exactly when its braces balance.**  Behind the first root call the
    object is the one that starts at its brace, and there is no other one; nothing is found where
    none starts there, and nothing without a root call.  Up to the end of the object the count of
    open braces does not come to zero, so it does not fall below. -/
theorem findRootOptions_exact (host text : Text) :
    (∀ front rest, IsFirstRootCall host text front rest →
      (∀ body after, '\x7b' :: rest = body ++ after → IsObject body →
        findRootOptions host text = some ⟨front, body, after⟩ ∧ openBraces body = 0) ∧
      ((∀ body, body <+: '\x7b' :: rest → ¬IsObject body) → findRootOptions host text = none) ∧
      ∀ read, read <+: '\x7b' :: rest → read ≠ [] →
        (∀ body, body <+: read → ¬IsObject body) → 0 < openBraces read) ∧
    ((∀ front rest, ¬IsFirstRootCall host text front rest) →
      findRootOptions host text = none) := by
  refine ⟨fun front rest hcall => ⟨?_, ?_, ?_⟩, fun hnone => ?_⟩
  · rintro body after hrest hobject
    obtain ⟨inner, rfl, hinner⟩ := id hobject
    obtain rfl : rest = inner ++ ['\x7d'] ++ after := by simpa using hrest
    rw [findRootOptions_of_call hcall, closeBrace_eq_some_iff.mpr ⟨rfl, hobject⟩]
    exact ⟨rfl, hobject.openBraces⟩
  · intro hnone
    rw [findRootOptions_of_call hcall, closeBrace_eq_none hnone]
    rfl
  · intro read hread hne hnone
    obtain ⟨c, more, rfl⟩ := List.exists_cons_of_ne_nil hne
    obtain rfl : c = '\x7b' := (List.cons_prefix_cons.mp hread).1
    exact openBraces_pos hnone
  · refine Option.eq_none_iff_forall_not_mem.mpr fun object hobject => ?_
    obtain ⟨inner, -, hcall, -⟩ := findRootOptions_eq hobject
    exact hnone _ _ hcall

/-- A brace in a string closes nothing, and the body of a method is no object of its own. -/
theorem findRootOptions_exact_method :
    findRootOptions "Vue".toList "new Vue(\x7b data() \x7b return '\x7d' \x7d \x7d) \x7d".toList =
      some ⟨"new Vue(".toList, "\x7b data() \x7b return '\x7d' \x7d \x7d".toList,
        ") \x7d".toList⟩ := by
  have hcall : IsFirstRootCall "Vue".toList
      "new Vue(\x7b data() \x7b return '\x7d' \x7d \x7d) \x7d".toList "new Vue(".toList
      " data() \x7b return '\x7d' \x7d \x7d) \x7d".toList :=
    ⟨[], "new Vue(".toList, rfl, rfl, ⟨[' '], [], [], by decide⟩, rfl, fun u c v h => by simp at h⟩
  have hbody : Braced " return '\x7d' ".toList := by
    have hword : Braced " return ".toList := braced_of_plain (by decide)
    have hquoted : StringTail '\'' ['\x7d', '\''] :=
      stringTail_of_plain (show ∀ c ∈ ['\x7d'], _ by decide)
    exact hword.append (.string rfl hquoted (.char rfl .nil))
  have hinner : Braced " data() \x7b return '\x7d' \x7d ".toList := by
    have hmethod : Braced " data() ".toList := braced_of_plain (by decide)
    exact hmethod.append (.object hbody (.char rfl .nil))
  exact (((findRootOptions_exact "Vue".toList _).1 _ _ hcall).1 _ _ rfl ⟨_, rfl, hinner⟩).1

end RouteLocalizer.Script
