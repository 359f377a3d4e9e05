/-
  Which places of a name the searches of the router file take for a WHOLE NAME.

  Two notions are in use.  The searches draw a word boundary at the two outer ends of what they look
  for, and a name ends, to a reader and to `isBounded`, where no identifier character goes on with
  it.  A dollar sign is a part of a name and not of a word, and beyond the first 128 characters
  there are more that are one and not the other.

  The searches are exact for the first notion: what they find has a word boundary at both ends, and
  where something with both boundaries stands they find something
  (`construction_eq_some_iff`, `installCall_eq_some_iff`).  So all that is to be said of the second
  one is said of one end and one neighbour: whether the two notions agree there (`agrees`).  Among
  the first 128 characters they do unless exactly one of the two is a dollar sign
  (`agrees_ascii`).
-/
import RouteLocalizer.Proofs.Rewiring

namespace RouteLocalizer.Script

open Text Import

/-! ## One end and its neighbour -/

/-- Whether a word boundary is drawn between the end of a name and its neighbour. -/
def isEdge (edge neighbour : Option Char) : Bool :=
  edge.any isWordChar != neighbour.any isWordChar

/-- Whether the word boundary tells that the name ends: it is there when no identifier character
    goes on with the name, and only then. -/
def agrees (edge neighbour : Option Char) : Bool :=
  isEdge edge neighbour == !neighbour.any isIdentifierChar

theorem isBoundary_front (last : Option Char) (text : Text) :
    isBoundary last text = isEdge text.head? last := by
  rw [isBoundary, isEdge, bne_comm]

/-- Between two word boundaries a name is whole where both of them tell so. -/
theorem isBounded_iff_agrees {left right last next : Option Char}
    (hleft : isEdge left last = true) (hright : isEdge right next = true) :
    isBounded last next = true ↔ agrees left last = true ∧ agrees right next = true := by
  simp [isBounded, agrees, hleft, hright]

/-- A whole name has its two word boundaries where both of them tell so. -/
theorem isEdge_of_agrees {left right last next : Option Char} (h : isBounded last next = true)
    (hleft : agrees left last = true) (hright : agrees right next = true) :
    isEdge left last = true ∧ isEdge right next = true := by
  obtain ⟨hlast, hnext⟩ := isBounded_iff.mp h
  exact ⟨by simpa [agrees, hlast] using hleft, by simpa [agrees, hnext] using hright⟩

/-- **Only the dollar sign makes a difference** among the first 128 characters. -/
theorem agrees_ascii {c : Char} {neighbour : Option Char} (hc : isIdentifierChar c = true)
    (hascii : c.toNat < 128) (hneighbour : ∀ d ∈ neighbour, d.toNat < 128) :
    agrees (some c) neighbour = (decide (c = '$') == decide (neighbour = some '$')) := by
  have hword : ∀ d : Char, d.toNat < 128 →
      isIdentifierChar d = (isWordChar d || decide (d = '$')) :=
    fun d hd => of_ascii (P := fun d => isIdentifierChar d = (isWordChar d || decide (d = '$')))
      (by decide +kernel) hd
  have hdollar : isWordChar '$' = false ∧ isIdentifierChar '$' = true := by decide +kernel
  have hedge : isWordChar c = !decide (c = '$') := by
    by_cases hc' : c = '$'
    · simp [hc', hdollar]
    · simpa [hword c hascii, hc'] using hc
  cases neighbour with
  | none => simp [agrees, isEdge, hedge]
  | some d =>
    have hd := hword d (hneighbour d rfl)
    by_cases hd' : d = '$'
    · simp [agrees, isEdge, hedge, hd', hdollar]
    · cases hw : isWordChar d <;> simp [agrees, isEdge, hedge, hd, hd', hw]

/-! ## The two searches -/

/-- An expression `new symbol`, up to the symbol. -/
def SpellsConstruction (symbol body : Text) : Prop :=
  ∃ gap, body = ['n', 'e', 'w'] ++ (gap ++ symbol) ∧ gap ≠ [] ∧ ∀ c ∈ gap, isBlank c = true

/-- A call `host.use(symbol …)` up to its first closing parenthesis, which `tail` ends with: it is
    what stands behind the symbol. -/
def SpellsInstallCall (host symbol tail body : Text) : Prop :=
  ∃ gap₁ gap₂ gap₃ inner, body = host ++ ((gap₁ ++ '.' :: gap₂) ++ (['u', 's', 'e'] ++
      ('(' :: gap₃ ++ (symbol ++ tail)))) ∧ tail = inner ++ [')'] ∧ ')' ∉ inner ∧
    (∀ c ∈ gap₁, isBlank c = true) ∧ (∀ c ∈ gap₂, isBlank c = true) ∧ ∀ c ∈ gap₃, isBlank c = true

variable {host symbol : Text}

/-- **What the search for a construction finds** has a word boundary at both ends. -/
theorem findConstruction_spells (hsymbol : IsIdentifier symbol) {text : Text} {p : Passage}
    (h : findConstruction symbol text = some p) :
    p.whole = text ∧ SpellsConstruction symbol p.body ∧
      isEdge (some 'n') p.before.getLast? = true ∧
      isEdge symbol.getLast? p.after.head? = true := by
  obtain ⟨htext, hfits, -⟩ := Shape.firstFrom_eq_some (construction_reads symbol) h
  obtain ⟨hleft, gap, hfound, hne, hblank, hright⟩ :=
    (construction_eq_some_iff (exists_head_of_isIdentifier hsymbol)).mp hfits
  have hbody : p.body = ['n', 'e', 'w'] ++ (gap ++ symbol) :=
    (List.append_left_inj p.after).mp (by simpa using hfound)
  refine ⟨by rw [htext]; simp [Passage.whole], ⟨gap, hbody, hne, hblank⟩, ?_, hright⟩
  rw [isBoundary_front] at hleft
  simpa [hbody, Shape.behind] using hleft

/-- **A construction with a word boundary at both ends** is found, or one in front of it. -/
theorem findConstruction_isSome (hsymbol : IsIdentifier symbol) {front body behind : Text}
    (spells : SpellsConstruction symbol body) (hleft : isEdge (some 'n') front.getLast? = true)
    (hright : isEdge symbol.getLast? behind.head? = true) :
    (findConstruction symbol (front ++ (body ++ behind))).isSome = true := by
  obtain ⟨gap, rfl, hne, hblank⟩ := spells
  refine Shape.firstFrom_isSome (Option.isSome_iff_exists.mpr ⟨behind, ?_⟩)
  refine (construction_eq_some_iff (exists_head_of_isIdentifier hsymbol)).mpr
    ⟨?_, gap, by simp, hne, hblank, hright⟩
  rw [isBoundary_front]
  simpa [Shape.behind] using hleft

/-- **What the search for an install call finds** has a word boundary in front of the host and
    behind the symbol. -/
theorem findInstallCall_spells (hhost : IsIdentifier host) (hsymbol : IsIdentifier symbol)
    {text : Text} {p : Passage} (h : findInstallCall host symbol text = some p) :
    p.whole = text ∧ ∃ tail, SpellsInstallCall host symbol tail p.body ∧
      isEdge host.head? p.before.getLast? = true ∧ isEdge symbol.getLast? tail.head? = true := by
  obtain ⟨htext, hfits, -⟩ := Shape.firstFrom_eq_some (installCall_reads host symbol) h
  obtain ⟨hleft, gap₁, gap₂, gap₃, inner, hfound, hblank₁, hblank₂, hblank₃, hopen, hright⟩ :=
    (installCall_eq_some_iff (exists_head_of_isIdentifier hsymbol)).mp hfits
  have hbody : p.body = host ++ ((gap₁ ++ '.' :: gap₂) ++ (['u', 's', 'e'] ++
      ('(' :: gap₃ ++ (symbol ++ (inner ++ [')']))))) :=
    (List.append_left_inj p.after).mp (by simpa using hfound)
  obtain ⟨h₀, host, rfl⟩ := List.exists_cons_of_ne_nil hhost.nonempty
  refine ⟨by rw [htext]; simp [Passage.whole], inner ++ [')'],
    ⟨gap₁, gap₂, gap₃, inner, hbody, rfl, hopen, hblank₁, hblank₂, hblank₃⟩, ?_, ?_⟩
  · rw [isBoundary_front] at hleft
    simpa [hbody, Shape.behind] using hleft
  · cases inner with
    | nil => exact hright
    | cons c inner => exact hright

/-- **An install call with these word boundaries** is found, or one in front of it. -/
theorem findInstallCall_isSome (hhost : IsIdentifier host) (hsymbol : IsIdentifier symbol)
    {front body tail behind : Text} (spells : SpellsInstallCall host symbol tail body)
    (hleft : isEdge host.head? front.getLast? = true)
    (hright : isEdge symbol.getLast? tail.head? = true) :
    (findInstallCall host symbol (front ++ (body ++ behind))).isSome = true := by
  obtain ⟨gap₁, gap₂, gap₃, inner, rfl, rfl, hopen, hblank₁, hblank₂, hblank₃⟩ := spells
  obtain ⟨h₀, host, rfl⟩ := List.exists_cons_of_ne_nil hhost.nonempty
  refine Shape.firstFrom_isSome (Option.isSome_iff_exists.mpr ⟨behind, ?_⟩)
  refine (installCall_eq_some_iff (exists_head_of_isIdentifier hsymbol)).mpr
    ⟨?_, gap₁, gap₂, gap₃, inner, by simp, hblank₁, hblank₂, hblank₃, hopen, ?_⟩
  · rw [isBoundary_front]
    simpa [Shape.behind] using hleft
  · cases inner with
    | nil => exact hright
    | cons c inner => exact hright

/-- **Which names the two searches take for whole.**  What is found spells its shape, and its names
    are whole exactly where both word boundaries tell so.  And where whole names stand between two
    word boundaries that tell so, something is found.  Among the first 128 characters a word
    boundary tells so unless exactly one of the two at it is a dollar sign. -/
theorem find_wholeNames (hhost : IsIdentifier host) (hsymbol : IsIdentifier symbol) (text : Text) :
    (∀ p, findConstruction symbol text = some p →
      p.whole = text ∧ SpellsConstruction symbol p.body ∧
        (isBounded p.before.getLast? p.after.head? = true ↔
          agrees (some 'n') p.before.getLast? = true ∧
            agrees symbol.getLast? p.after.head? = true)) ∧
    (∀ front body behind, text = front ++ (body ++ behind) → SpellsConstruction symbol body →
      isBounded front.getLast? behind.head? = true → agrees (some 'n') front.getLast? = true →
      agrees symbol.getLast? behind.head? = true → (findConstruction symbol text).isSome = true) ∧
    (∀ p, findInstallCall host symbol text = some p →
      p.whole = text ∧ ∃ tail, SpellsInstallCall host symbol tail p.body ∧
        (isBounded p.before.getLast? tail.head? = true ↔
          agrees host.head? p.before.getLast? = true ∧
            agrees symbol.getLast? tail.head? = true)) ∧
    (∀ front body tail behind, text = front ++ (body ++ behind) →
      SpellsInstallCall host symbol tail body →
      isBounded front.getLast? tail.head? = true → agrees host.head? front.getLast? = true →
      agrees symbol.getLast? tail.head? = true →
      (findInstallCall host symbol text).isSome = true) ∧
    ∀ c neighbour, isIdentifierChar c = true → c.toNat < 128 →
      (∀ d ∈ neighbour, d.toNat < 128) →
      agrees (some c) neighbour = (decide (c = '$') == decide (neighbour = some '$')) := by
  refine ⟨fun p hp => ?_, ?_, fun p hp => ?_, ?_, fun c neighbour => agrees_ascii⟩
  · obtain ⟨hwhole, spells, hleft, hright⟩ := findConstruction_spells hsymbol hp
    exact ⟨hwhole, spells, isBounded_iff_agrees hleft hright⟩
  · rintro front body behind rfl spells hbounded hleft hright
    obtain ⟨hleft, hright⟩ := isEdge_of_agrees hbounded hleft hright
    exact findConstruction_isSome hsymbol spells hleft hright
  · obtain ⟨hwhole, tail, spells, hleft, hright⟩ := findInstallCall_spells hhost hsymbol hp
    exact ⟨hwhole, tail, spells, isBounded_iff_agrees hleft hright⟩
  · rintro front body tail behind rfl spells hbounded hleft hright
    obtain ⟨hleft, hright⟩ := isEdge_of_agrees hbounded hleft hright
    exact findInstallCall_isSome hhost hsymbol spells hleft hright

/-- A construction of a longer name is found, because one of the name itself stands behind it; and
    the call that is found is one of the whole names. -/
theorem find_wholeNames_sample :
    let text : Text := "Vue.use(VueRouter)\nnew VueRouter$x(new VueRouter)"
    (findConstruction "VueRouter" text).isSome = true ∧
      ∃ p, findInstallCall "Vue" "VueRouter" text = some p ∧
        ∃ tail, SpellsInstallCall "Vue" "VueRouter" tail p.body ∧
          (isBounded p.before.getLast? tail.head? = true ↔
            agrees (some 'V') p.before.getLast? = true ∧ agrees (some 'r') tail.head? = true) := by
  intro text
  have hhost : IsIdentifier "Vue" := by decide +kernel
  have hsymbol : IsIdentifier "VueRouter" := by decide +kernel
  obtain ⟨-, hsome, hcall, -⟩ := find_wholeNames hhost hsymbol text
  have hspells : SpellsConstruction "VueRouter" "new VueRouter" :=
    ⟨[' '], by decide +kernel, by simp, by decide +kernel⟩
  refine ⟨hsome "Vue.use(VueRouter)\nnew VueRouter$x(" "new VueRouter" ")" (by decide +kernel)
    hspells (by decide +kernel) (by decide +kernel) (by decide +kernel), ?_⟩
  have hfound : findInstallCall "Vue" "VueRouter" text =
      some ⟨[], "Vue.use(VueRouter)", "\nnew VueRouter$x(new VueRouter)"⟩ := by decide +kernel
  exact ⟨_, hfound, (hcall _ hfound).2⟩

/-- **A dollar sign is no part of a word**: a longer name is taken for the name, in front of the
    host as well, and a name that ends with the sign is not found where it is whole. -/
theorem find_dollar :
    (findConstruction "VueRouter" "new VueRouter$x()" = some ⟨[], "new VueRouter", "$x()"⟩ ∧
        isBounded none (some '$') = false) ∧
      (findInstallCall "Vue" "VueRouter" "$Vue.use(VueRouter)" =
          some ⟨"$", "Vue.use(VueRouter)", []⟩ ∧ isBounded (some '$') (some ')') = false) ∧
      findConstruction "Router$" "new Router$()" = none ∧
      SpellsConstruction "Router$" "new Router$" ∧ isBounded none (some '(') = true := by
  refine ⟨by decide +kernel, by decide +kernel, by decide +kernel, ?_, by decide +kernel⟩
  exact ⟨[' '], by decide +kernel, by simp, by decide +kernel⟩

end RouteLocalizer.Script
