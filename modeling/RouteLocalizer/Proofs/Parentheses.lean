/-
  PARENTHESES around the install call.

  The search takes a call up to its first closing parenthesis, whatever was opened before that.  So
  the span that it finds is a whole call only when nothing is opened within its arguments; where
  something is, the span stops short, the rest of the call stays behind, and the edit leaves one
  closing parenthesis too many for each that the span had opened.

  The specification is a count of what is open (`openBehind`).  The crux is that the span closes
  only once, at its end, so that what it leaves open is what it opened, less one
  (`openBehind_call`); the edit writes a balanced call there, and the construction has no
  parentheses at all.
-/
import RouteLocalizer.Proofs.Rewiring

namespace RouteLocalizer

namespace Script

open Text Import

/-! ## Open parentheses -/

/-- One more parenthesis is open behind an opening one, and one less behind a closing one. -/
def parenthesis (depth : Nat) (c : Char) : Option Nat :=
  if c = '(' then some (depth + 1)
  else if c = ')' then if depth = 0 then none else some (depth - 1)
  else some depth

/-- How many parentheses are open behind a text that stands behind `depth` open ones; none where it
    closes one that is not open. -/
def openBehind (depth : Nat) (text : Text) : Option Nat := text.foldlM parenthesis depth

/-- Every parenthesis has its other half. -/
def Balanced (text : Text) : Prop := openBehind 0 text = some 0

instance (text : Text) : Decidable (Balanced text) :=
  inferInstanceAs (Decidable (openBehind 0 text = some 0))

variable {depth n k : Nat} {text : Text}

/-- What is open behind two texts is counted one behind the other. -/
theorem openBehind_append (depth : Nat) (front text : Text) :
    openBehind depth (front ++ text) = (openBehind depth front).bind (openBehind · text) :=
  List.foldlM_append ..

theorem openBehind_cons (depth : Nat) (c : Char) (text : Text) :
    openBehind depth (c :: text) = (parenthesis depth c).bind (openBehind · text) :=
  List.foldlM_cons ..

/-- Any other character opens and closes nothing. -/
theorem parenthesis_plain {c : Char} (hopen : c ≠ '(') (hclose : c ≠ ')') :
    parenthesis depth c = some depth := by
  rw [parenthesis, if_neg hopen, if_neg hclose]

/-- A text that closes nothing leaves open what it opens. -/
theorem openBehind_of_not_mem (h : ')' ∉ text) :
    openBehind depth text = some (depth + text.count '(') := by
  induction text generalizing depth with
  | nil => rfl
  | cons c text ih =>
    rw [List.mem_cons, not_or] at h
    rw [openBehind_cons]
    by_cases hc : c = '('
    · subst hc
      have hstep : parenthesis depth '(' = some (depth + 1) := rfl
      rw [hstep, Option.bind_some, ih h.2, List.count_cons_self]
      congr 1
      omega
    · rw [parenthesis_plain hc (Ne.symm h.1), Option.bind_some, ih h.2, List.count_cons_of_ne hc]

/-- What is open in front stays open, unless the text closes more than it opened. -/
theorem parenthesis_add {c : Char} (h : parenthesis depth c = some n) (k : Nat) :
    parenthesis (depth + k) c = some (n + k) := by
  unfold parenthesis at h ⊢
  split_ifs at h ⊢ <;> simp only [Option.some.injEq] at h ⊢ <;> omega

/-- What is open in front of a text stays open behind it. -/
theorem openBehind_add (h : openBehind depth text = some n) (k : Nat) :
    openBehind (depth + k) text = some (n + k) := by
  induction text generalizing depth with
  | nil =>
    obtain rfl : depth = n := Option.some.inj h
    rfl
  | cons c text ih =>
    rw [openBehind_cons] at h ⊢
    obtain ⟨next, hnext, htext⟩ := Option.bind_eq_some_iff.mp h
    rw [parenthesis_add hnext, Option.bind_some, ih htext]

/-- A balanced text leaves open what was open, ... -/
theorem openBehind_balanced (h : Balanced text) (depth : Nat) :
    openBehind depth text = some depth := by
  simpa using openBehind_add h depth

/-- ... and so does one without parentheses. -/
theorem openBehind_plain (hopen : '(' ∉ text) (hclose : ')' ∉ text) (depth : Nat) :
    openBehind depth text = some depth := by
  rw [openBehind_of_not_mem hclose, List.count_eq_zero_of_not_mem hopen, Nat.add_zero]

/-! ## The span of a call -/

variable {host symbol : Text} {p : Passage}

/-- A span that is found opens the parenthesis behind `use`. -/
theorem one_le_count_call (hhost : IsName host) (hsymbol : IsName symbol)
    (hp : findInstallCall host symbol text = some p) : 1 ≤ p.body.count '(' := by
  obtain ⟨-, -, ⟨gap₁, gap₂, gap₃, inner, htext, -⟩, -⟩ := findInstallCall_eq_some hhost hsymbol hp
  have hbody : p.body = host ++ ((gap₁ ++ '.' :: gap₂) ++ (['u', 's', 'e'] ++
      ('(' :: gap₃ ++ (symbol ++ (inner ++ [')']))))) :=
    (List.append_left_inj p.after).mp (by rw [htext]; simp)
  exact List.count_pos_iff.mpr (by simp [hbody])

/-- **A span leaves open what it opens, less one**: it closes at its end and nowhere else. -/
theorem openBehind_call (hhost : IsName host) (hsymbol : IsName symbol)
    (hp : findInstallCall host symbol text = some p) (depth : Nat) :
    openBehind depth p.body = some (depth + (p.body.count '(' - 1)) := by
  have hone := one_le_count_call hhost hsymbol hp
  obtain ⟨-, hfits, -⟩ := Shape.firstFrom_eq_some (installCall_reads host symbol) hp
  obtain ⟨front, hfront, hopen, -⟩ := installCall_stopsAt hhost hsymbol hfits
  have hbody : p.body = front ++ [')'] :=
    (List.append_left_inj p.after).mp (by simpa using hfront)
  have hcount : p.body.count '(' = front.count '(' := by
    simp [hbody]
  have hclose : openBehind (depth + front.count '(') [')'] =
      some (depth + front.count '(' - 1) := by
    rw [openBehind_cons, parenthesis, if_neg (by decide), if_pos rfl, if_neg (by omega)]
    rfl
  rw [hcount] at hone ⊢
  rw [hbody, openBehind_append, openBehind_of_not_mem hopen, Option.bind_some, hclose]
  congr 1
  omega

/-- A span is balanced exactly when it opens nothing but the parenthesis behind `use`. -/
theorem balanced_call_iff (hhost : IsName host) (hsymbol : IsName symbol)
    (hp : findInstallCall host symbol text = some p) :
    Balanced p.body ↔ p.body.count '(' = 1 := by
  have hone := one_le_count_call hhost hsymbol hp
  rw [Balanced, openBehind_call hhost hsymbol hp, Option.some_inj]
  omega

/-! ## The edit -/

variable {w : Wiring} {args : InstallArgs}

/-- Swapping the construction touches no parentheses. -/
theorem openBehind_swapConstruction (hfrom : IsName w.fromSymbol) (hto : IsName w.toSymbol)
    (depth : Nat) (text : Text) :
    openBehind depth (swapConstruction w text) = openBehind depth text := by
  have hnew : '(' ∉ ['n', 'e', 'w'] ∧ ')' ∉ ['n', 'e', 'w'] := by decide
  have hname : ∀ {name gap : Text}, IsName name → (∀ c ∈ gap, isBlank c = true) →
      ∀ depth, openBehind depth (['n', 'e', 'w'] ++ (gap ++ name)) = some depth := by
    intro name gap hname hblank
    have hgap : '(' ∉ gap ∧ ')' ∉ gap :=
      ⟨fun hmem => absurd (hblank _ hmem) (by decide),
        fun hmem => absurd (hblank _ hmem) (by decide)⟩
    refine openBehind_plain ?_ ?_
    · simp [hgap.1, hname.not_mem_signs '(' (by decide)]
    · simp [hgap.2, hname.not_mem_signs ')' (by decide)]
  cases hq : findConstruction w.fromSymbol text with
  | none => simp only [swapConstruction, hq]
  | some q =>
    obtain ⟨hwhole, -, ⟨gap, hbody, -, hblank⟩, -⟩ := findConstruction_eq_some hfrom hq
    rw [swapConstruction_eq hq, hwhole, openBehind_append, openBehind_append]
    congr 1
    funext depth
    rw [openBehind_append, openBehind_append, hbody, bareConstruction_eq, hname hfrom hblank,
      hname hto (by decide)]

/-- What is open behind the text in the end: the call that is written leaves nothing open. -/
theorem openBehind_swapRouter (hfrom : IsName w.fromSymbol) (hto : IsName w.toSymbol)
    (hp : findInstallCall w.host w.fromSymbol text = some p)
    (written : Balanced (installText w args (lineEnding text))) (depth : Nat) :
    openBehind depth (swapRouter w args text) =
      (openBehind depth p.before).bind (openBehind · p.after) := by
  rw [swapRouter, openBehind_swapConstruction hfrom hto]
  simp only [swapInstallCall, hp, Passage.replaceWith]
  rw [List.append_assoc, openBehind_append]
  congr 1
  funext depth
  rw [openBehind_append, openBehind_balanced written, Option.bind_some]

/-- What is open behind the text in which the span stands. -/
theorem openBehind_found (hhost : IsName host) (hsymbol : IsName symbol)
    (hp : findInstallCall host symbol text = some p) (depth : Nat) :
    openBehind depth text = (openBehind depth p.before).bind
      fun depth => openBehind (depth + (p.body.count '(' - 1)) p.after := by
  obtain ⟨hwhole, -⟩ := findInstallCall_eq_some hhost hsymbol hp
  conv => lhs; rw [hwhole, openBehind_append]
  congr 1
  funext depth
  rw [openBehind_append, openBehind_call hhost hsymbol hp, Option.bind_some]

/-- **The parentheses of a text** survive the edit exactly when the span that is replaced opens none
    but its own. -/
theorem swapRouter_parentheses (hhost : IsName w.host) (hfrom : IsName w.fromSymbol)
    (hto : IsName w.toSymbol)
    (written : ∀ newline ∈ [(['\n'] : Text), ['\r', '\n']],
      Balanced (installText w args newline)) (text : Text) :
    (∀ p ∈ findInstallCall w.host w.fromSymbol text,
        (Balanced p.body ↔ p.body.count '(' = 1)) ∧
      ((∀ p ∈ findInstallCall w.host w.fromSymbol text, Balanced p.body) →
        ∀ depth, openBehind depth (swapRouter w args text) = openBehind depth text) ∧
      (Balanced text → (Balanced (swapRouter w args text) ↔
        ∀ p ∈ findInstallCall w.host w.fromSymbol text, Balanced p.body)) := by
  have kept : (∀ p ∈ findInstallCall w.host w.fromSymbol text, Balanced p.body) →
      ∀ depth, openBehind depth (swapRouter w args text) = openBehind depth text := by
    intro whole depth
    cases hp : findInstallCall w.host w.fromSymbol text with
    | none =>
      have hunswapped : swapInstallCall w args text = text := by simp only [swapInstallCall, hp]
      rw [swapRouter, openBehind_swapConstruction hfrom hto, hunswapped]
    | some p =>
      have hone := (balanced_call_iff hhost hfrom hp).mp (whole p hp)
      rw [openBehind_swapRouter hfrom hto hp (written _ (lineEnding_mem text)),
        openBehind_found hhost hfrom hp]
      simp only [hone, Nat.sub_self, Nat.add_zero]
  refine ⟨fun p hp => balanced_call_iff hhost hfrom hp, kept, fun balanced =>
    ⟨fun swapped p hp => ?_, fun whole => (kept whole 0).trans balanced⟩⟩
  rw [Balanced, openBehind_swapRouter hfrom hto hp (written _ (lineEnding_mem text))] at swapped
  rw [Balanced, openBehind_found hhost hfrom hp] at balanced
  obtain ⟨depth, hbefore, hafter⟩ := Option.bind_eq_some_iff.mp swapped
  -- what the span leaves open would still be open at the end
  have hleft := openBehind_add hafter (p.body.count '(' - 1)
  rw [hbefore, Option.bind_some, hleft, Option.some_inj] at balanced
  have hone := one_le_count_call hhost hfrom hp
  exact (balanced_call_iff hhost hfrom hp).mpr (by omega)

/-- A call with an object behind its symbol, and a text that keeps its parentheses. -/
theorem swapRouter_parentheses_sample :
    let args : InstallArgs := ⟨some "en", some "load()", some "localizedURLs"⟩
    let text : Text := "(Vue.use(VueRouter, \x7b mode: 'hash' \x7d), new VueRouter(f(x)))"
    Balanced text ∧ Balanced (swapRouter {} args text) := by
  intro args text
  have written : ∀ newline ∈ [(['\n'] : Text), ['\r', '\n']],
      Balanced (installText {} args newline) := by decide +kernel
  obtain ⟨-, -, swapped⟩ := swapRouter_parentheses (by decide +kernel) (by decide +kernel)
    (by decide +kernel) written text
  have balanced : Balanced text := by decide +kernel
  exact ⟨balanced, (swapped balanced).mpr (by decide +kernel)⟩

/-- **A call that opens a parenthesis in its arguments** is neither taken whole nor left alone. -/
theorem findInstallCall_stopsShort :
    let text : Text := "Vue.use(VueRouter, \x7b mode: pick() \x7d)\n"
    findInstallCall "Vue" "VueRouter" text =
        some ⟨[], "Vue.use(VueRouter, \x7b mode: pick()", " \x7d)\n"⟩ ∧
      ¬ Balanced ("Vue.use(VueRouter, \x7b mode: pick()" : Text) ∧
      swapRouter {} {} text = ("Vue.use(LangRouter) \x7d)\n" : Text) ∧
      Balanced text ∧ ¬ Balanced (swapRouter {} {} text) := by
  decide +kernel

end Script

end RouteLocalizer
