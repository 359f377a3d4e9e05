/-
  Declaring a dependency changes ONE ENTRY of a manifest, and the change survives its text.

  PROGRAM: `declare` sets one member in the section of dependencies, which it adds when there is
  none, and says whether it had to; the manifest is printed to a text, and parsed from one.
  SPECIFICATION (`declare_survives`), for a sound manifest with whole numbers only:
  (1) the section of dependencies keeps its place, or goes to the end when there is none, and in it
      the dependency does the same; all other members stand as they stood, in every object
      (`Entered`);
  (2) the manifest declares the dependency at that version, and was changed exactly if it is another
      one;
  (3) its own text parses to the manifest, and declaring again changes nothing.

  What may change is said by the members alone.  The crux lies with the text, and is known: a
  manifest that was read from one is within the bounds of the reader, declaring keeps it there, and
  so its own text reads as the manifest.
-/
import RouteLocalizer.Proofs.Declaration

namespace RouteLocalizer

/-! ## Writing a member -/

namespace Json.Members

variable {name : Text} {value old : Json} {members front behind : Members}

/-- Members into which one is written: in its own place, the first one of its name, or behind all
    others when its name is new. -/
inductive Written (name : Text) (value : Json) : Members → Members → Prop where
  | inPlace {front behind : Members} {old : Json} (first : name ∉ front.map Prod.fst) :
      Written name value (front ++ (name, old) :: behind) (front ++ (name, value) :: behind)
  | atEnd {members : Members} (absent : name ∉ members.map Prod.fst) :
      Written name value members (members ++ [(name, value)])

/-- A member that is found is the first one of its name. -/
theorem exists_of_get? (h : get? name members = some value) :
    ∃ front behind, members = front ++ (name, value) :: behind ∧ name ∉ front.map Prod.fst := by
  induction members with
  | nil => cases h
  | cons m members ih =>
    obtain ⟨n, v⟩ := m
    unfold get? at h
    split at h
    · rename_i hname
      obtain rfl := hname
      cases h
      exact ⟨[], members, rfl, List.not_mem_nil⟩
    · rename_i hname
      obtain ⟨front, behind, rfl, first⟩ := ih h
      refine ⟨(n, v) :: front, behind, rfl, ?_⟩
      simpa [Ne.symm hname] using first

/-- A member that is not found is not there. -/
theorem not_mem_of_get? (h : get? name members = none) : name ∉ members.map Prod.fst := by
  induction members with
  | nil => exact List.not_mem_nil
  | cons m members ih =>
    obtain ⟨n, v⟩ := m
    unfold get? at h
    split at h
    · cases h
    · rename_i hname
      simpa [Ne.symm hname] using ih h

/-- Setting replaces the first member of the name, ... -/
theorem set_of_first (first : name ∉ front.map Prod.fst) :
    set name value (front ++ (name, old) :: behind) = front ++ (name, value) :: behind := by
  induction front with
  | nil => simp [set]
  | cons m front ih =>
    obtain ⟨hname, hfront⟩ : name ≠ m.1 ∧ name ∉ front.map Prod.fst := by simpa using first
    simp [set, Ne.symm hname, ih hfront]

/-- ... or adds one at the end. -/
theorem set_of_absent (absent : name ∉ members.map Prod.fst) :
    set name value members = members ++ [(name, value)] := by
  induction members with
  | nil => rfl
  | cons m members ih =>
    obtain ⟨hname, hmembers⟩ : name ≠ m.1 ∧ name ∉ members.map Prod.fst := by simpa using absent
    simp [set, Ne.symm hname, ih hmembers]

/-- Writing a member touches no other one. -/
theorem written_set (name : Text) (value : Json) (members : Members) :
    Written name value members (set name value members) := by
  cases h : get? name members with
  | none =>
    have absent := not_mem_of_get? h
    rw [set_of_absent absent]
    exact .atEnd absent
  | some old =>
    obtain ⟨front, behind, rfl, first⟩ := exists_of_get? h
    rw [set_of_first first]
    exact .inPlace first

/-- A member that has the value already can be written again. -/
theorem written_of_get? (h : get? name members = some value) :
    Written name value members members := by
  obtain ⟨front, behind, rfl, first⟩ := exists_of_get? h
  exact .inPlace first

end Json.Members

/-! ## Entering a dependency -/

namespace Manifest

open Json.Members

variable {m m' : Manifest} {name version text : Text} {changed : Bool}

/-- The members of a manifest into which a dependency is entered: its section keeps its place, or
    goes to the end when there is none. -/
inductive Entered (name version : Text) : Json.Members → Json.Members → Prop where
  | inSection {front behind entries entries' : Json.Members}
      (first : mainSection ∉ front.map Prod.fst)
      (entry : Written name (.string version) entries entries') :
      Entered name version (front ++ (mainSection, .object entries) :: behind)
        (front ++ (mainSection, .object entries') :: behind)
  | newSection {members : Json.Members} (absent : mainSection ∉ members.map Prod.fst) :
      Entered name version members
        (members ++ [(mainSection, .object [(name, .string version)])])

/-- **Declaring enters the dependency**, whether it had to or not. -/
theorem entered_of_declare (h : m.declare name version = .ok (m', changed)) :
    Entered name version m.members m'.members := by
  cases changed with
  | false =>
    obtain ⟨rfl, entries, hsection, hname⟩ := section_of_declared h
    obtain ⟨front, behind, heq, first⟩ := exists_of_get? hsection
    rw [heq]
    exact .inSection first (written_of_get? hname)
  | true =>
    obtain ⟨entries, hentries, rfl⟩ := eq_of_declare h
    cases hsection : get? mainSection m.members with
    | none =>
      obtain rfl : entries = [] := by simpa [hsection] using hentries.symm
      have absent := not_mem_of_get? hsection
      rw [set_of_absent absent]
      exact .newSection absent
    | some v =>
      obtain rfl : v = .object entries := by simpa [hsection] using hentries
      obtain ⟨front, behind, heq, first⟩ := exists_of_get? hsection
      rw [heq, set_of_first first]
      exact .inSection first (written_set name (.string version) entries)

/-- The manifest that was answered declares the dependency. -/
theorem declared_of_declare (h : m.declare name version = .ok (m', changed)) :
    m'.declare name version = .ok (m', false) := by
  cases changed with
  | false =>
    obtain rfl := eq_of_declared h
    exact h
  | true => exact declare_declare h

/-- Only a manifest that had to change is another one. -/
theorem changed_eq_false_iff (h : m.declare name version = .ok (m', changed)) :
    changed = false ↔ m' = m := by
  constructor
  · rintro rfl
    exact eq_of_declared h
  · rintro rfl
    have again := declared_of_declare h
    rw [h] at again
    cases again
    rfl

/-- **Declaring changes one entry, and the change survives the text**: whatever sound manifest was
    read, with whole numbers only, the dependency can be declared.  The manifest has it entered and
    is as it was otherwise; it was changed exactly if it is another one; and its own text reads as
    the manifest, which declares the dependency. -/
theorem declare_survives (name version : Text) (parsed : parse text = .ok m)
    (checked : m.checkSections = .ok ()) (whole : Json.AllWhole (.object m.members)) :
    ∃ m' changed, m.declare name version = .ok (m', changed) ∧
      Entered name version m.members m'.members ∧
      (changed = false ↔ m' = m) ∧
      m'.dependency name = some version ∧
      parse m'.toText = .ok m' ∧
      m'.declare name version = .ok (m', false) := by
  obtain ⟨m', changed, declared⟩ := declare_ok checked name version
  have again := declared_of_declare declared
  have prints : m'.Prints := by
    cases changed with
    | false => exact eq_of_declared declared ▸ prints_of_parse parsed whole
    | true => exact (prints_of_parse parsed whole).declare declared
  exact ⟨m', changed, declared, entered_of_declare declared, changed_eq_false_iff declared,
    dependency_of_declared again, prints.parse_toText, again⟩

/-- A manifest with an escape and a dependency that stands twice. -/
theorem declare_survives_sample :
    let text : Text :=
      "\x7b\"a\":\"\\u00e9\",\"dependencies\":\x7b\"vue\":\"2\",\"vue\":\"3\"\x7d,\"x\":[-7]\x7d"
    ∃ m, parse text = .ok m ∧ m.checkSections = .ok () ∧ Json.AllWhole (.object m.members) ∧
      ∃ m' changed, m.declare "vue" "2" = .ok (m', changed) ∧
        Entered "vue" "2" m.members m'.members ∧
        (changed = false ↔ m' = m) ∧
        m'.dependency "vue" = some "2" ∧
        parse m'.toText = .ok m' ∧
        m'.declare "vue" "2" = .ok (m', false) := by
  intro text
  have sound : (parse text).toOption.map (fun m =>
      (m.checkSections, Json.holdsDouble (.object m.members))) = some (.ok (), false) := by
    decide +kernel
  cases parsed : parse text with
  | error failure =>
    rw [parsed] at sound
    cases sound
  | ok m =>
    rw [parsed] at sound
    obtain ⟨checked, hdouble⟩ := Prod.mk.inj (Option.some.inj sound)
    have whole := Json.allWhole_of_holdsDouble _ hdouble
    exact ⟨m, rfl, checked, whole, declare_survives "vue" "2" parsed checked whole⟩

end Manifest

end RouteLocalizer
