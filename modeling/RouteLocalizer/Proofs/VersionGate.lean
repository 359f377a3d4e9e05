/-
  WHICH PROJECTS the version gate lets through, for a framework that is declared by one comparator.

  A comparator has up to three numbers of a version behind a sign, and a version satisfies it by
  the order of its own numbers (`Comparator.admits`).  The gate knows no order: it reads the first
  number and compares it with the supported one, whatever the sign, and a number that it cannot
  read passes (`majorVersion_spell`, `majorVersion_unread`).

  1. Some version of one major number satisfies a comparator exactly where that number is on the
     side of the comparator's first one that the sign leaves open (`exists_admits_iff`).
  2. So the gate is right about every comparator that asks for one major version, and wrong about
     the open ones where the two differ: `IsMisjudged` lists them all (`agrees_iff`).
-/
import RouteLocalizer.Proofs.Characters
import RouteLocalizer.Proofs.Refusal
import RouteLocalizer.Proofs.Runs

namespace RouteLocalizer

open Text

/-! ## Versions and comparators -/

/-- A version of a package. -/
structure Version where
  major : Nat
  minor : Nat
  patch : Nat

/-- The numbers of a version, the most significant one first. -/
def Version.numbers (v : Version) : List Nat := [v.major, v.minor, v.patch]

/-- Whether numbers come before as many others: the first two that differ decide. -/
def precedes : List Nat → List Nat → Bool
  | a :: as, b :: bs => a < b || (a == b && precedes as bs)
  | _, _ => false

@[simp] theorem precedes_cons (a b : Nat) (as bs : List Nat) :
    precedes (a :: as) (b :: bs) = (a < b || (a == b && precedes as bs)) := rfl

@[simp] theorem precedes_self (as : List Nat) : precedes as as = false := by
  induction as with
  | nil => rfl
  | cons a as ih => simp [ih]

/-- What stands in front of the numbers of a comparator. -/
inductive Sign where
  | bare | caret | tilde | equal | above | atLeast | below | atMost
deriving DecidableEq

def Sign.spell : Sign → Text
  | bare => ""
  | caret => "^"
  | tilde => "~"
  | equal => "="
  | above => ">"
  | atLeast => ">="
  | below => "<"
  | atMost => "<="

/-- A number as it is written. -/
structure Numeral where
  digits : Text
  nonempty : digits ≠ []
  decimal : ∀ c ∈ digits, c.isDigit = true

def Numeral.value (n : Numeral) : Nat := digitsValue n.digits

/-- One comparator of a specifier: one to three numbers behind a sign, white space around the
    sign. -/
structure Comparator where
  lead : Text
  sign : Sign
  gap : Text
  major : Numeral
  rest : List Numeral
  leadBlank : ∀ c ∈ lead, isBlank c = true
  gapBlank : ∀ c ∈ gap, isBlank c = true
  short : rest.length ≤ 2

namespace Comparator

variable (c : Comparator)

/-- How the numbers are written. -/
def numbersText : Text := c.major.digits ++ c.rest.flatMap fun n => '.' :: n.digits

def spell : Text := c.lead ++ (c.sign.spell ++ c.gap ++ c.numbersText)

/-- The numbers that are named. -/
def named : List Nat := c.major.value :: c.rest.map Numeral.value

/-- How many numbers of a version have to be the named ones under a caret: those down to the first
    one that is not zero. -/
def fixed : Nat := (c.named.takeWhile (· == 0)).length + 1

/-- The numbers of a version that count: as many as are named. -/
def own (v : Version) : List Nat := v.numbers.take c.named.length

/-- Whether a version satisfies the comparator.  A caret and a tilde ask for no earlier version, and
    for the same numbers at the start: a tilde for two of them, as far as they are named. -/
def admits (v : Version) : Bool :=
  match c.sign with
  | .bare | .equal => c.own v == c.named
  | .caret => !precedes (c.own v) c.named && (c.own v).take c.fixed == c.named.take c.fixed
  | .tilde => !precedes (c.own v) c.named && (c.own v).take 2 == c.named.take 2
  | .above => precedes c.named (c.own v)
  | .atLeast => !precedes (c.own v) c.named
  | .below => precedes (c.own v) c.named
  | .atMost => !precedes c.named (c.own v)

/-- Whether a version with the given major number satisfies the comparator, by the numbers that
    it names. -/
def Reaches (major : Nat) : Prop :=
  match c.sign with
  | .bare | .caret | .tilde | .equal => major = c.major.value
  | .above => c.major.value < major ∨ c.major.value = major ∧ c.rest ≠ []
  | .atLeast => c.major.value ≤ major
  | .below => major < c.major.value ∨ major = c.major.value ∧ ∃ n ∈ c.rest, n.value ≠ 0
  | .atMost => major ≤ c.major.value

/-! ## What can satisfy a comparator -/

/-- The numbers behind the first one can be any that are named, none or one or two. -/
theorem exists_take {ns : List Nat} (short : ns.length ≤ 2) :
    ∃ x y, [x, y].take ns.length = ns := by
  match ns, short with
  | [], _ => exact ⟨0, 0, rfl⟩
  | [n], _ => exact ⟨n, 0, rfl⟩
  | [n, m], _ => exact ⟨n, m, rfl⟩

/-- There is always more behind numbers, unless there is no number. -/
theorem exists_above_iff {ns : List Nat} (short : ns.length ≤ 2) :
    (∃ x y, precedes ns ([x, y].take ns.length) = true) ↔ ns ≠ [] := by
  match ns, short with
  | [], _ => simp
  | [n], _ => exact iff_of_true ⟨n + 1, 0, by simp⟩ (by simp)
  | [n, m], _ => exact iff_of_true ⟨n + 1, 0, by simp⟩ (by simp)

/-- There is something before numbers, unless all of them are zero. -/
theorem exists_below_iff {ns : List Nat} (short : ns.length ≤ 2) :
    (∃ x y, precedes ([x, y].take ns.length) ns = true) ↔ ∃ n ∈ ns, n ≠ 0 := by
  match ns, short with
  | [], _ => simp
  | [n], _ =>
    constructor
    · rintro ⟨x, y, h⟩
      have hlt : x < n := by simpa using h
      exact ⟨n, by simp, by omega⟩
    · intro h
      have hne : n ≠ 0 := by simpa using h
      exact ⟨0, 0, by simp; omega⟩
  | [n, m], _ =>
    constructor
    · rintro ⟨x, y, h⟩
      have hlt : x < n ∨ x = n ∧ y < m := by simpa using h
      by_cases hn : n = 0
      · exact ⟨m, by simp, by omega⟩
      · exact ⟨n, by simp, hn⟩
    · intro h
      have hne : n ≠ 0 ∨ m ≠ 0 := by simpa using h
      exact ⟨0, 0, by simp; omega⟩

variable {c}

theorem own_eq (major x y : Nat) :
    c.own ⟨major, x, y⟩ = major :: [x, y].take (c.rest.map Numeral.value).length := by
  simp [own, named, Version.numbers]

/-- The named numbers satisfy every comparator that is not strict. -/
theorem admits_of_named {v : Version} (h : c.own v = c.named) (above : c.sign ≠ .above)
    (below : c.sign ≠ .below) : c.admits v = true := by
  cases hsign : c.sign <;> simp_all [admits]

/-- **Which comparators some version of one major number satisfies.** -/
theorem exists_admits_iff (c : Comparator) (major : Nat) :
    (∃ x y, c.admits ⟨major, x, y⟩ = true) ↔ c.Reaches major := by
  have short : (c.rest.map Numeral.value).length ≤ 2 := by simpa using c.short
  -- a comparator that is not strict is satisfied by what it names
  have named_admitted : major = c.major.value → c.sign ≠ .above → c.sign ≠ .below →
      ∃ x y, c.admits ⟨major, x, y⟩ = true := by
    rintro rfl above below
    obtain ⟨x, y, hsame⟩ := exists_take short
    exact ⟨x, y, admits_of_named (by rw [own_eq, hsame, named]) above below⟩
  cases hsign : c.sign with
  | bare | caret | tilde | equal =>
    -- the first numbers are compared, and they have to be the same
    simp only [Reaches, hsign]
    refine ⟨fun ⟨x, y, h⟩ => ?_, fun h => named_admitted h (by simp [hsign]) (by simp [hsign])⟩
    simp only [admits, hsign, own_eq] at h
    simp_all [named, fixed]
  | atLeast =>
    simp only [Reaches, hsign]
    constructor
    · rintro ⟨x, y, h⟩
      by_contra hlt
      simp [admits, hsign, own_eq, named, Nat.not_le.mp hlt] at h
    · intro hle
      rcases Nat.eq_or_lt_of_le hle with heq | hlt
      · exact named_admitted heq.symm (by simp [hsign]) (by simp [hsign])
      · refine ⟨0, 0, ?_⟩
        simp [admits, hsign, own_eq, named, hle, Nat.ne_of_gt hlt]
  | atMost =>
    simp only [Reaches, hsign]
    constructor
    · rintro ⟨x, y, h⟩
      by_contra hlt
      simp [admits, hsign, own_eq, named, Nat.not_le.mp hlt] at h
    · intro hle
      rcases Nat.eq_or_lt_of_le hle with heq | hlt
      · exact named_admitted heq (by simp [hsign]) (by simp [hsign])
      · refine ⟨0, 0, ?_⟩
        simp [admits, hsign, own_eq, named, hle, Nat.ne_of_gt hlt]
  | above =>
    simp only [Reaches, hsign, admits, own_eq, named, precedes_cons, Bool.or_eq_true,
      Bool.and_eq_true, decide_eq_true_eq, beq_iff_eq, exists_or, exists_and_left,
      exists_above_iff short, exists_const, ne_eq, List.map_eq_nil_iff]
  | below =>
    simp only [Reaches, hsign, admits, own_eq, named, precedes_cons, Bool.or_eq_true,
      Bool.and_eq_true, decide_eq_true_eq, beq_iff_eq, exists_or, exists_and_left,
      exists_below_iff short, exists_const, List.mem_map, exists_exists_and_eq_and]

/-! ## What the gate reads -/

/-- Whether the gate finds the first number: behind a sign it passes over spaces, and over no other
    white space. -/
def IsRead (c : Comparator) : Prop := c.sign = .bare ∨ ∀ b ∈ c.gap, b = ' '

theorem isComparison_of_mem_sign {s : Sign} : ∀ b ∈ s.spell, Manifest.isComparison b = true := by
  cases s <;> decide

theorem digit_facts {d : Char} (h : d.isDigit = true) :
    isBlank d = false ∧ Manifest.isComparison d = false :=
  of_isAlphanum (P := fun d => d.isDigit = true →
    isBlank d = false ∧ Manifest.isComparison d = false) (by decide)
    (by simp [Char.isAlphanum, h]) h

theorem blank_facts {b : Char} (h : isBlank b = true) :
    b.isDigit = false ∧ (Manifest.isComparison b = true → b = ' ') :=
  of_isBlank (P := fun b => b.isDigit = false ∧ (Manifest.isComparison b = true → b = ' '))
    (by decide) h

theorem numbersText_eq_cons : ∃ d ds, c.numbersText = d :: ds ∧ d.isDigit = true := by
  obtain ⟨d, ds, hdigits⟩ := List.exists_cons_of_ne_nil c.major.nonempty
  exact ⟨d, ds ++ c.rest.flatMap fun n => '.' :: n.digits, by rw [numbersText, hdigits]; rfl,
    c.major.decimal d (by simp [hdigits])⟩

theorem not_isBlank_numbersText : ∀ d ∈ c.numbersText, isBlank d = false := by
  intro d hd
  rcases List.mem_append.mp hd with hmajor | hrest
  · exact (digit_facts (c.major.decimal d hmajor)).1
  · obtain ⟨n, -, hn⟩ := List.mem_flatMap.mp hrest
    rcases List.mem_cons.mp hn with rfl | hn
    · decide
    · exact (digit_facts (n.decimal d hn)).1

theorem takeWhile_numbersText : c.numbersText.takeWhile Char.isDigit = c.major.digits := by
  rw [numbersText, List.takeWhile_append_of_pos c.major.decimal]
  cases c.rest with
  | nil => simp
  | cons n ns => simp [Char.isDigit]

/-- What stands in front of the numbers when the specifier was trimmed. -/
def marks (c : Comparator) : Text :=
  if c.sign = .bare then [] else c.sign.spell ++ c.gap

theorem trim_spell : trim c.spell = c.marks ++ c.numbersText := by
  obtain ⟨d, ds, hnumbers, hdigit⟩ := numbersText_eq_cons (c := c)
  have last : (c.marks ++ c.numbersText).getLast?.any isBlank = false := by
    have hsome : c.numbersText ≠ [] := by simp [hnumbers]
    obtain ⟨front, e, heq⟩ := exists_concat hsome
    have he := not_isBlank_numbersText (c := c) e (by simp [heq])
    rw [heq, ← List.append_assoc, List.getLast?_concat]
    simpa using he
  by_cases hbare : c.sign = .bare
  · have hmarks : c.marks = [] := by rw [marks, if_pos hbare]
    have hspell : c.spell = (c.lead ++ c.gap) ++ c.numbersText := by
      simp [spell, hbare, Sign.spell]
    rw [hmarks, List.nil_append] at last ⊢
    rw [hspell]
    refine trim_of_ink (fun b hb => ?_) ?_ last
    · exact (List.mem_append.mp hb).elim (c.leadBlank b) (c.gapBlank b)
    · simpa [hnumbers] using (digit_facts hdigit).1
  · have hmarks : c.marks = c.sign.spell ++ c.gap := by rw [marks, if_neg hbare]
    rw [hmarks] at last ⊢
    refine trim_of_ink c.leadBlank ?_ last
    cases hsign : c.sign with
    | bare => exact absurd hsign hbare
    | _ => rfl

/-- **The gate reads the first number** and stops behind it, whatever the sign. -/
theorem majorVersion_spell (read : c.IsRead) (word : c.major.value < wordLimit) :
    Manifest.majorVersion c.spell = some c.major.value := by
  obtain ⟨d, ds, hnumbers, hdigit⟩ := numbersText_eq_cons (c := c)
  have passed : ∀ b ∈ c.marks, Manifest.isComparison b = true := by
    intro b hb
    unfold marks at hb
    split at hb
    · cases hb
    · rename_i hbare
      rcases List.mem_append.mp hb with hb | hb
      · exact isComparison_of_mem_sign b hb
      · rw [read.resolve_left hbare b hb]
        decide
  have hdigits : ((trim c.spell).dropWhile Manifest.isComparison).takeWhile Char.isDigit =
      c.major.digits := by
    rw [trim_spell, List.dropWhile_append_of_pos passed, ← takeWhile_numbersText, hnumbers,
      List.dropWhile_cons_of_neg (by simp [(digit_facts hdigit).2])]
  simp only [Manifest.majorVersion, hdigits]
  exact if_pos ⟨c.major.nonempty, word⟩

/-- Behind a sign, white space other than spaces hides the number. -/
theorem majorVersion_unread (unread : ¬ c.IsRead) : Manifest.majorVersion c.spell = none := by
  obtain ⟨hbare, hgap⟩ := not_or.mp unread
  have hmarks : c.marks = c.sign.spell ++ c.gap := by rw [marks, if_neg hbare]
  obtain ⟨b, more, hdrop⟩ : ∃ b more, c.gap.dropWhile Manifest.isComparison = b :: more := by
    refine List.exists_cons_of_ne_nil fun hnil => hgap fun b hb => ?_
    exact (blank_facts (c.gapBlank b hb)).2 (List.dropWhile_eq_nil_iff.mp hnil b hb)
  have hmem : b ∈ c.gap :=
    (List.dropWhile_sublist Manifest.isComparison).mem (hdrop ▸ List.mem_cons_self)
  have hb : b.isDigit = false := (blank_facts (c.gapBlank b hmem)).1
  have hdigits : ((trim c.spell).dropWhile Manifest.isComparison).takeWhile Char.isDigit = [] := by
    rw [trim_spell, hmarks, List.append_assoc,
      List.dropWhile_append_of_pos isComparison_of_mem_sign, List.dropWhile_append, hdrop]
    simp [hb]
  simp [Manifest.majorVersion, hdigits]

/-! ## What the gate answers -/

/-- The comparators that the gate is wrong about. -/
inductive IsMisjudged (c : Comparator) : Prop where
  /-- Refused, and supported versions lie above the number. -/
  | low (read : c.IsRead) (sign : c.sign = .above ∨ c.sign = .atLeast)
      (low : c.major.value < Pass.supportedMajor)
  /-- Refused, and supported versions lie below the number. -/
  | high (read : c.IsRead) (sign : c.sign = .below ∨ c.sign = .atMost)
      (high : Pass.supportedMajor < c.major.value)
  /-- Let through, and all versions above the number are of a later major version. -/
  | nothingAbove (sign : c.sign = .above) (same : c.major.value = Pass.supportedMajor)
      (whole : c.rest = [])
  /-- Let through, and all versions below the numbers are of an earlier major version. -/
  | nothingBelow (sign : c.sign = .below) (same : c.major.value = Pass.supportedMajor)
      (zeros : ∀ n ∈ c.rest, n.value = 0)
  /-- Let through for want of a number, and no supported version satisfies it. -/
  | hidden (unread : ¬ c.IsRead) (unreached : ¬ c.Reaches Pass.supportedMajor)

/-- A misjudged comparator is refused though it is reached, or let through though it is not. -/
theorem IsMisjudged.disagrees (wrong : c.IsMisjudged) :
    ¬ ((c.IsRead → c.major.value = Pass.supportedMajor) ↔ c.Reaches Pass.supportedMajor) := by
  intro agree
  cases wrong with
  | low read sign low =>
    have reached : c.Reaches Pass.supportedMajor := by
      rcases sign with sign | sign <;> simp only [Reaches, sign]
      · exact .inl low
      · exact Nat.le_of_lt low
    exact Nat.ne_of_lt low (agree.mpr reached read)
  | high read sign high =>
    have reached : c.Reaches Pass.supportedMajor := by
      rcases sign with sign | sign <;> simp only [Reaches, sign]
      · exact .inl high
      · exact Nat.le_of_lt high
    exact Nat.ne_of_gt high (agree.mpr reached read)
  | nothingAbove sign same whole =>
    have reached := agree.mp fun _ => same
    simp [Reaches, sign, same, whole] at reached
  | nothingBelow sign same zeros =>
    have reached := agree.mp fun _ => same
    simp only [Reaches, sign, same, Nat.lt_irrefl, false_or, true_and] at reached
    obtain ⟨n, hn, hvalue⟩ := reached
    exact hvalue (zeros n hn)
  | hidden unread unreached => exact unreached (agree.mp fun read => absurd read unread)

/-- With the supported number only a strict comparator can have no version left. -/
theorem reaches_of_passed (right : ¬ c.IsMisjudged)
    (passed : c.IsRead → c.major.value = Pass.supportedMajor) :
    c.Reaches Pass.supportedMajor := by
  by_contra unreached
  by_cases read : c.IsRead
  · have same := passed read
    cases hsign : c.sign with
    | bare | caret | tilde | equal | atLeast | atMost =>
      simp [Reaches, hsign, same] at unreached
    | above =>
      exact right (.nothingAbove hsign same (by simpa [Reaches, hsign, same] using unreached))
    | below =>
      exact right (.nothingBelow hsign same (by simpa [Reaches, hsign, same] using unreached))
  · exact right (.hidden read unreached)

/-- With another number only an open comparator has supported versions. -/
theorem passed_of_reaches (right : ¬ c.IsMisjudged) (reached : c.Reaches Pass.supportedMajor)
    (read : c.IsRead) : c.major.value = Pass.supportedMajor := by
  by_contra other
  cases hsign : c.sign with
  | bare | caret | tilde | equal =>
    simp only [Reaches, hsign] at reached
    exact other reached.symm
  | above =>
    simp only [Reaches, hsign] at reached
    exact right (.low read (.inl hsign) (by omega))
  | atLeast =>
    simp only [Reaches, hsign] at reached
    exact right (.low read (.inr hsign) (by omega))
  | below =>
    simp only [Reaches, hsign] at reached
    exact right (.high read (.inl hsign) (by omega))
  | atMost =>
    simp only [Reaches, hsign] at reached
    exact right (.high read (.inr hsign) (by omega))

/-- **Where the gate is right**: everywhere but where the comparator is misjudged. -/
theorem agrees_iff : ((c.IsRead → c.major.value = Pass.supportedMajor) ↔
    c.Reaches Pass.supportedMajor) ↔ ¬ c.IsMisjudged :=
  ⟨fun agree wrong => wrong.disagrees agree,
    fun right => ⟨reaches_of_passed right, passed_of_reaches right⟩⟩

end Comparator

namespace Pass

variable {s : Settings} {root : Path} {text : Text} {m : Manifest}

/-- A sound manifest with both dependencies is accepted unless it has another major version. -/
theorem acceptManifest_iff {specifier : Text} (checked : m.checkSections = .ok ())
    (router : m.hasDependency routerDependency = true)
    (declared : m.dependency frameworkDependency = some specifier) :
    (∃ a, acceptManifest s root m = .ok a) ↔
      ∀ major ∈ Manifest.majorVersion specifier, major = supportedMajor := by
  cases hmajor : Manifest.majorVersion specifier with
  | none => simp [acceptManifest, checked, router, declared, hmajor]
  | some major =>
    by_cases same : major = supportedMajor
    · simp [acceptManifest, checked, router, declared, hmajor, same]
    · simp [acceptManifest, checked, router, declared, hmajor, same]

/-- **The version gate** lets a project through exactly when the first number of its comparator is
    the supported one or cannot be read.  That is right, which is to say that some supported version
    satisfies the comparator, except where the comparator is misjudged. -/
theorem preconditions_comparator (store : Memory) (c : Comparator)
    (there : store.read (Project.manifestAt root) = .ok text)
    (parsed : Manifest.parse text = .ok m) (checked : m.checkSections = .ok ())
    (router : m.hasDependency routerDependency = true)
    (declared : m.dependency frameworkDependency = some c.spell)
    (word : c.major.value < wordLimit) :
    let outcome := ((preconditions s root : StateM Memory (Except Failure Accepted)) store).1
    ((∃ a, outcome = .ok a) ↔ (c.IsRead → c.major.value = supportedMajor)) ∧
      (((∃ a, outcome = .ok a) ↔ ∃ x y, c.admits ⟨supportedMajor, x, y⟩ = true) ↔
        ¬ c.IsMisjudged) := by
  intro outcome
  have houtcome : outcome = acceptManifest s root m := by
    simp [outcome, preconditions, there, accept, manifestOf, parsed]
  have haccept : (∃ a, outcome = .ok a) ↔ (c.IsRead → c.major.value = supportedMajor) := by
    rw [houtcome, acceptManifest_iff checked router declared]
    by_cases read : c.IsRead
    · simp [Comparator.majorVersion_spell read word, read]
    · simp [Comparator.majorVersion_unread read, read]
  exact ⟨haccept, by rw [haccept, Comparator.exists_admits_iff, Comparator.agrees_iff]⟩

/-- A comparator with a gap, in a manifest where all else is in order. -/
theorem preconditions_comparator_sample :
    let text : Text := "\x7b\"dependencies\":\x7b\"vue\":\">= 1.5\",\"vue-router\":\"3\"\x7d\x7d"
    let store : Memory := { files := [(⟨"/p/package.json"⟩, text)] }
    let c : Comparator := ⟨"", .atLeast, " ", ⟨"1", by decide, by decide⟩,
      [⟨"5", by decide, by decide⟩], by decide, by decide, by decide⟩
    let outcome := ((preconditions {} ⟨"/p"⟩ : StateM Memory (Except Failure Accepted)) store).1
    ((∃ a, outcome = .ok a) ↔ (c.IsRead → c.major.value = supportedMajor)) ∧
      (((∃ a, outcome = .ok a) ↔ ∃ x y, c.admits ⟨supportedMajor, x, y⟩ = true) ↔
        ¬ c.IsMisjudged) := by
  intro text store c outcome
  have sound : (Manifest.parse text).toOption.map (fun m => (m.checkSections,
      m.hasDependency routerDependency, m.dependency frameworkDependency)) =
      some (.ok (), true, some c.spell) := by decide +kernel
  cases parsed : Manifest.parse text with
  | error failure =>
    rw [parsed] at sound
    cases sound
  | ok m =>
    rw [parsed] at sound
    obtain ⟨checked, hrest⟩ := Prod.mk.inj (Option.some.inj sound)
    obtain ⟨router, declared⟩ := Prod.mk.inj hrest
    exact preconditions_comparator store c (by decide) parsed checked router declared (by decide)

/-- The gate refuses what version 2.0.0 satisfies, and lets through what no such version does. -/
theorem preconditions_misjudges :
    let storeOf (specifier : Text) : Memory := { files := [(⟨"/p/package.json"⟩,
      "\x7b\"dependencies\":\x7b\"vue\":\"" ++ specifier ++ "\",\"vue-router\":\"3\"\x7d\x7d")] }
    let outcome (specifier : Text) := ((preconditions {} ⟨"/p"⟩ :
      StateM Memory (Except Failure Accepted)) (storeOf specifier)).1.map Accepted.project
    let atLeastOne : Comparator := ⟨"", .atLeast, "", ⟨"1", by decide, by decide⟩, [],
      by decide, by decide, by decide⟩
    let belowTwo : Comparator := ⟨"", .below, "", ⟨"2", by decide, by decide⟩, [],
      by decide, by decide, by decide⟩
    outcome atLeastOne.spell = .error (.precondition (unsupported {} atLeastOne.spell)) ∧
      atLeastOne.admits ⟨supportedMajor, 0, 0⟩ = true ∧
      outcome belowTwo.spell = .ok ⟨⟨"/p"⟩, .javascript, some supportedMajor⟩ ∧
      ∀ x y, belowTwo.admits ⟨supportedMajor, x, y⟩ = false := by
  intro storeOf outcome atLeastOne belowTwo
  exact ⟨by decide +kernel, by decide, by decide +kernel, fun x y => rfl⟩

end Pass

end RouteLocalizer
