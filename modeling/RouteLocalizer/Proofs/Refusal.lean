/-
  When a pass REFUSES a project, and that it refuses before it touches anything.

  `Unmet` says what is wrong with what was read in the place of the manifest, without saying in
  which order it is looked for.  The crux is that this is all that can stop a pass: declaring the
  dependency comes after the checks and cannot fail any more, and each of the four steps behind it
  answers with a result whatever the store does.

  SPECIFICATION (`run_fails_iff_unmet`), for every store and every plan of faults:
  (1) a pass fails exactly where a precondition is unmet;
  (2) then the failure is one of the preconditions, and the store is the one that was given, its log
      included;
  (3) everywhere else the pass answers a report of all five steps, in their order.
-/
import RouteLocalizer.Proofs.Trace

namespace RouteLocalizer

/-- A dependency has no specifier when no section has a text under its name. -/
theorem Manifest.dependency_eq_none_iff {m : Manifest} {name : Text} :
    m.dependency name = none ↔ ∀ part ∈ sections, ∀ entries specifier,
      Json.Members.get? part m.members = some (.object entries) →
        Json.Members.get? name entries ≠ some (.string specifier) := by
  simp only [dependency, List.findSome?_eq_none_iff]
  constructor
  · intro h part hpart entries specifier hget hname
    have := h part hpart
    simp [hget, Json.member?, Json.members?, hname, Json.string?] at this
  · intro h part hpart
    cases hget : Json.Members.get? part m.members with
    | none => rfl
    | some v =>
      cases v with
      | object entries =>
        cases hname : Json.Members.get? name entries with
        | none => simp [Json.member?, Json.members?, hname]
        | some value =>
          cases value with
          | string specifier => exact absurd hname (h part hpart entries specifier hget)
          | _ => simp [Json.member?, Json.members?, hname, Json.string?]
      | _ => simp [Json.member?, Json.members?]

/-- The sections are sound when all that are there are objects. -/
theorem Manifest.checkSections_eq_ok_iff {m : Manifest} :
    m.checkSections = .ok () ↔ ∀ part ∈ sections, ∀ v,
      Json.Members.get? part m.members = some v → ∃ entries, v = .object entries := by
  have hbroken : m.checkSections = .ok () ↔ ∀ part ∈ sections, ¬ m.isBroken part = true := by
    rw [← List.find?_eq_none, checkSections]
    split <;> simp_all
  rw [hbroken]
  refine forall₂_congr fun part _ => ?_
  cases hget : Json.Members.get? part m.members with
  | none => simp [isBroken, hget]
  | some v => cases v <;> simp [isBroken, hget, Json.members?]

namespace Pass

/-- What is wrong with a project that cannot be wired, by what was read in the place of its
    manifest. -/
inductive Unmet : Except FileFault Text → Prop where
  /-- The manifest cannot be read. -/
  | unreadable {fault : FileFault} : Unmet (.error fault)
  /-- It is no JSON, or no object. -/
  | noObject {text : Text} (read : ∀ members, Json.read text ≠ .ok (.object members)) :
      Unmet (.ok text)
  /-- A section is there and no object. -/
  | brokenSection {text : Text} {members : Json.Members} {part : Text} {v : Json}
      (read : Json.read text = .ok (.object members)) (known : part ∈ Manifest.sections)
      (there : Json.Members.get? part members = some v) (broken : ∀ entries, v ≠ .object entries) :
      Unmet (.ok text)
  /-- A dependency that has to be there has no text in either section. -/
  | missing {text : Text} {members : Json.Members} {name : Text}
      (read : Json.read text = .ok (.object members))
      (required : name = routerDependency ∨ name = frameworkDependency)
      (missing : ∀ part ∈ Manifest.sections, ∀ entries specifier,
        Json.Members.get? part members = some (.object entries) →
          Json.Members.get? name entries ≠ some (.string specifier)) :
      Unmet (.ok text)
  /-- The framework has a major version, and not the supported one. -/
  | otherMajor {text : Text} {members : Json.Members} {specifier : Text} {major : Nat}
      (read : Json.read text = .ok (.object members))
      (declared : (⟨members⟩ : Manifest).dependency frameworkDependency = some specifier)
      (reads : Manifest.majorVersion specifier = some major) (other : major ≠ supportedMajor) :
      Unmet (.ok text)

/-- Where everything is in order, nothing is unmet. -/
theorem not_unmet {text : Text} {m : Manifest} {router specifier : Text}
    (read : Json.read text = .ok (.object m.members)) (sections : m.checkSections = .ok ())
    (hrouter : m.dependency routerDependency = some router)
    (hframework : m.dependency frameworkDependency = some specifier)
    (supported : ∀ major, Manifest.majorVersion specifier = some major → major = supportedMajor) :
    ¬ Unmet (.ok text) := by
  have members_eq : ∀ {members}, Json.read text = .ok (.object members) → members = m.members := by
    intro members h
    rw [read] at h
    simpa using h.symm
  intro unmet
  cases unmet with
  | noObject none => exact none _ read
  | brokenSection read' known there broken =>
    obtain rfl := members_eq read'
    obtain ⟨entries, rfl⟩ := Manifest.checkSections_eq_ok_iff.mp sections _ known _ there
    exact broken entries rfl
  | missing read' required missing =>
    obtain rfl := members_eq read'
    have hnone := Manifest.dependency_eq_none_iff.mpr missing
    rcases required with rfl | rfl
    · rw [hrouter] at hnone; cases hnone
    · rw [hframework] at hnone; cases hnone
  | otherMajor read' declared reads other =>
    obtain rfl := members_eq read'
    rw [hframework] at declared
    cases declared
    exact other (supported _ reads)

/-- Refused sections: the one that is blamed is broken. -/
theorem checkSections_error {m : Manifest} {failure : Failure}
    (h : m.checkSections = .error failure) :
    (∃ message, failure = .precondition message) ∧
      ∃ part ∈ Manifest.sections, ∃ v, Json.Members.get? part m.members = some v ∧
        ∀ entries, v ≠ .object entries := by
  unfold Manifest.checkSections at h
  split at h
  · rename_i part hpart
    cases h
    refine ⟨⟨_, rfl⟩, part, List.mem_of_find?_eq_some hpart, ?_⟩
    have hbroken : m.isBroken part = true := List.find?_some hpart
    obtain ⟨v, hget, hv⟩ := (Option.any_eq_true _ _).mp hbroken
    exact ⟨v, hget, fun entries heq => by simp [heq, Json.members?] at hv⟩
  · cases h

/-- A manifest is accepted when nothing is wrong with it, and refused as an unmet precondition
    otherwise. -/
theorem acceptManifest_cases (s : Settings) (root : Path) {text : Text} {m : Manifest}
    (read : Json.read text = .ok (.object m.members)) :
    (Unmet (.ok text) ∧ ∃ message, acceptManifest s root m = .error (.precondition message)) ∨
      (¬ Unmet (.ok text) ∧ ∃ a, acceptManifest s root m = .ok a) := by
  cases hsections : m.checkSections with
  | error failure =>
    obtain ⟨⟨message, rfl⟩, part, known, v, there, broken⟩ := checkSections_error hsections
    exact .inl ⟨.brokenSection read known there broken, message, by
      simp [acceptManifest, hsections]⟩
  | ok _ =>
    cases hrouter : m.dependency routerDependency with
    | none =>
      exact .inl ⟨.missing read (.inl rfl) (Manifest.dependency_eq_none_iff.mp hrouter),
        routerDependency ++ " is not installed; add the router plugin first (vue add router)", by
        simp [acceptManifest, hsections, Manifest.hasDependency, hrouter]⟩
    | some router =>
      cases hframework : m.dependency frameworkDependency with
      | none =>
        exact .inl ⟨.missing read (.inr rfl) (Manifest.dependency_eq_none_iff.mp hframework),
          frameworkDependency ++ " is not a dependency of this project", by
          simp [acceptManifest, hsections, Manifest.hasDependency, hrouter, hframework]⟩
      | some specifier =>
        by_cases hother : (Manifest.majorVersion specifier).any (· != supportedMajor) = true
        · obtain ⟨major, reads, hne⟩ := (Option.any_eq_true _ _).mp hother
          exact .inl ⟨.otherMajor read hframework reads (by simpa using hne),
            unsupported s specifier, by
            simp [acceptManifest, hsections, Manifest.hasDependency, hrouter, hframework, hother]⟩
        · have hsupported : ∀ major, Manifest.majorVersion specifier = some major →
              major = supportedMajor := by
            intro major reads
            simpa [reads] using hother
          refine .inr ⟨not_unmet read hsections hrouter hframework hsupported,
            { project := ⟨root, m.script, Manifest.majorVersion specifier⟩
              manifest := m
              notes := if (Manifest.majorVersion specifier).isNone then [unreadVersion specifier]
                else [] }, ?_⟩
          simp [acceptManifest, hsections, Manifest.hasDependency, hrouter, hframework, hother]

theorem accept_cases (s : Settings) (root : Path) (content : Except FileFault Text) :
    (Unmet content ∧ ∃ message, accept s root content = .error (.precondition message)) ∨
      (¬ Unmet content ∧ ∃ a, accept s root content = .ok a) := by
  cases content with
  | error fault => exact .inl ⟨.unreadable, _, rfl⟩
  | ok text =>
    cases hread : Json.read text with
    | error fault =>
      exact .inl ⟨.noObject fun members => by simp [hread],
        "Invalid package.json: " ++ fault.message text, by
        simp [accept, manifestOf, Manifest.parse, hread]⟩
    | ok v =>
      cases v with
      | object members =>
        have hmanifest : manifestOf root (.ok text) = .ok ⟨members⟩ := by
          simp [manifestOf, Manifest.parse, hread]
        simp only [accept, hmanifest]
        exact acceptManifest_cases s root (m := ⟨members⟩) hread
      | _ =>
        exact .inl ⟨.noObject fun members => by simp [hread],
          "package.json must contain a JSON object", by
          simp [accept, manifestOf, Manifest.parse, hread]⟩

/-- The steps of a report, in the order in which they ran. -/
def stepOrder : List Step := [.manifest, .templates, .entry, .router, .markup]

/-- **A pass fails exactly where a precondition is unmet, and then it has done nothing**: the store
    with its log is the one it was given.  Everywhere else it answers a report of all five steps. -/
theorem run_fails_iff_unmet (s : Settings) (mode : Mode) (root : Path) (store : Memory) :
    let outcome := (run s mode root : StateM Memory (Except Failure Report)) store
    let content := store.read (Project.manifestAt root)
    ((∃ failure, outcome.1 = .error failure) ↔ Unmet content) ∧
      (Unmet content → ∃ message, outcome = (.error (.precondition message), store)) ∧
      (¬ Unmet content → ∃ report store', outcome = (.ok report, store') ∧
        report.steps.map StepRecord.step = stepOrder) := by
  intro outcome content
  obtain ⟨answer, store', hrun, ran⟩ := run_ran s mode root store
  have houtcome : outcome = (answer, store') := hrun
  rw [houtcome]
  cases ran with
  | refused refused =>
    rcases accept_cases s root content with ⟨unmet, message, haccept⟩ | ⟨-, a, haccept⟩
    · rw [refused] at haccept
      cases haccept
      exact ⟨⟨fun _ => unmet, fun _ => ⟨_, rfl⟩⟩, fun _ => ⟨message, rfl⟩,
        fun met => absurd unmet met⟩
    · rw [refused] at haccept
      cases haccept
  | completed accepted =>
    rcases accept_cases s root content with ⟨-, message, haccept⟩ | ⟨met, -⟩
    · rw [accepted] at haccept
      cases haccept
    · refine ⟨⟨fun h => ?_, fun unmet => absurd unmet met⟩, fun unmet => absurd unmet met,
        fun _ => ⟨_, _, rfl, rfl⟩⟩
      obtain ⟨_, h⟩ := h
      cases h

end Pass

end RouteLocalizer
