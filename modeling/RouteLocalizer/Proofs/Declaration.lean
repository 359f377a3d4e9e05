/-
  A DEPENDENCY IS DECLARED ONCE: the manifest that was written declares it already.

  Declaring writes one specifier and leaves every other dependency as it was, so all that a pass
  asks of a manifest beforehand has the answer that it had.  The crux lies with the text: a
  manifest that was read is within the bounds of the reader, stays within them, and so reads back
  as itself after it was printed.

  SPECIFICATION:
  (1) `declare_declare`, `dependency_declare` — the dependency is declared once, and every other one
      has the specifier that it had;
  (2) `Prints` — what a manifest needs for reading back as itself; parsing gives it, and declaring
      keeps it (`prints_of_parse`, `Prints.declare`);
  (3) `accept_manifestText`, `Declared.accepted_again` — a project that was accepted is accepted
      again, with a manifest that declares the dependency.
-/
import RouteLocalizer.Proofs.Frame
import RouteLocalizer.Proofs.JsonValues
import RouteLocalizer.Proofs.Refusal

namespace RouteLocalizer

theorem Json.Members.mem_of_get? {name : Text} {members : Members} {v : Json}
    (h : get? name members = some v) : (name, v) ∈ members := by
  induction members with
  | nil => cases h
  | cons m members ih =>
    unfold get? at h
    split at h
    · rename_i hname
      cases h
      rw [← hname]
      exact List.mem_cons_self
    · exact List.mem_cons_of_mem _ (ih h)

/-! ## Declaring twice -/

namespace Manifest

variable {m m' : Manifest} {name version : Text} {changed : Bool}

/-- What declaring does, where it has to change the manifest. -/
theorem eq_of_declare (h : m.declare name version = .ok (m', true)) :
    ∃ entries, (Json.Members.get? mainSection m.members).getD (.object []) = .object entries ∧
      m' = ⟨Json.Members.set mainSection
        (.object (Json.Members.set name (.string version) entries)) m.members⟩ := by
  unfold declare at h
  split at h
  · rename_i entries hentries
    split at h
    · cases h
    · cases h
      exact ⟨entries, hentries, rfl⟩
  · cases h

/-- What is known of a manifest that declares a dependency already. -/
theorem section_of_declared (h : m.declare name version = .ok (m', false)) :
    m' = m ∧ ∃ entries, Json.Members.get? mainSection m.members = some (.object entries) ∧
      Json.Members.get? name entries = some (.string version) := by
  unfold declare at h
  split at h
  · rename_i entries hentries
    split at h
    · rename_i hsame
      cases h
      obtain ⟨v, hname, hversion⟩ := Option.bind_eq_some_iff.mp hsame
      obtain rfl : v = .string version := by cases v <;> simp_all [Json.string?]
      refine ⟨rfl, entries, ?_, hname⟩
      cases hget : Json.Members.get? mainSection m.members with
      | none =>
        obtain rfl : entries = [] := by simpa [hget] using hentries.symm
        cases hname
      | some v => simpa [hget] using hentries
    · cases h
  · cases h

/-- Declaring what is declared leaves a manifest alone. -/
theorem eq_of_declared (h : m.declare name version = .ok (m', false)) : m' = m :=
  (section_of_declared h).1

/-- The first section decides, so what it declares is the specifier. -/
theorem dependency_of_declared (h : m.declare name version = .ok (m', false)) :
    m.dependency name = some version := by
  obtain ⟨-, entries, hsection, hname⟩ := section_of_declared h
  simp [dependency, sections, hsection, Json.member?, Json.members?, hname, Json.string?]

/-- A dependency that was declared is declared already. -/
theorem declare_declare (h : m.declare name version = .ok (m', true)) :
    m'.declare name version = .ok (m', false) := by
  obtain ⟨entries, -, rfl⟩ := eq_of_declare h
  simp [declare, Json.string?]

/-- Declaring touches the first section only. -/
theorem get?_declare (h : m.declare name version = .ok (m', true)) {part : Text}
    (hpart : part ≠ mainSection) :
    Json.Members.get? part m'.members = Json.Members.get? part m.members := by
  obtain ⟨entries, -, rfl⟩ := eq_of_declare h
  exact Json.Members.get?_set_of_ne hpart _ _

/-- Declaring a dependency leaves the others alone. -/
theorem dependency_declare (h : m.declare name version = .ok (m', true)) {other : Text}
    (hother : other ≠ name) : m'.dependency other = m.dependency other := by
  have hdev : Json.Members.get? "devDependencies" m'.members =
      Json.Members.get? "devDependencies" m.members :=
    get?_declare h (by decide)
  have hmain : ((Json.Members.get? mainSection m'.members).bind fun v =>
        (v.member? other).bind Json.string?) =
      (Json.Members.get? mainSection m.members).bind fun v =>
        (v.member? other).bind Json.string? := by
    obtain ⟨entries, hentries, rfl⟩ := eq_of_declare h
    cases hget : Json.Members.get? mainSection m.members with
    | none =>
      obtain rfl : entries = [] := by simpa [hget] using hentries.symm
      simp [Json.member?, Json.members?, Json.Members.get?_set_of_ne hother, Json.Members.get?]
    | some v =>
      obtain rfl : v = .object entries := by simpa [hget] using hentries
      simp [Json.member?, Json.members?, Json.Members.get?_set_of_ne hother]
  simp only [dependency, sections, List.findSome?_cons, List.findSome?_nil, hmain, hdev]

/-- Sections stay sound. -/
theorem checkSections_declare (h : m.declare name version = .ok (m', true))
    (checked : m.checkSections = .ok ()) : m'.checkSections = .ok () := by
  rw [checkSections_eq_ok_iff] at checked ⊢
  intro part hpart v hget
  by_cases hmain : part = mainSection
  · obtain ⟨entries, -, rfl⟩ := eq_of_declare h
    rw [hmain, Json.Members.get?_set_self] at hget
    exact ⟨_, (Option.some.inj hget).symm⟩
  · exact checked part hpart v (by rw [← hget, get?_declare h hmain])

/-! ## Printing and reading back -/

/-- A manifest that its own printed text reads as. -/
def Prints (m : Manifest) : Prop := Json.Fits Json.Reader.mostLevels (.object m.members)

theorem read_of_parse {text : Text} (h : parse text = .ok m) :
    Json.read text = .ok (.object m.members) := by
  unfold parse at h
  split at h
  · cases h
  · rename_i members hread
    cases h
    exact hread
  · cases h

/-- The manifest of a text whose numbers are whole. -/
theorem prints_of_parse {text : Text} (h : parse text = .ok m)
    (hwhole : Json.AllWhole (.object m.members)) : m.Prints :=
  Json.read_fits (read_of_parse h) hwhole

theorem Prints.parse_toText (h : m.Prints) : parse m.toText = .ok m := by
  unfold parse toText
  rw [Json.read_toText h]

theorem Prints.declare (h : m.Prints) (declared : m.declare name version = .ok (m', true)) :
    m'.Prints := by
  obtain ⟨entries, hentries, rfl⟩ := eq_of_declare declared
  have hsection : Json.Fits 126 (.object entries) := by
    rw [← hentries]
    cases hget : Json.Members.get? mainSection m.members with
    | none => exact .object List.nodup_nil (by simp)
    | some v =>
      cases h with
      | object _ each => exact each _ (Json.Members.mem_of_get? hget)
  exact Json.Fits.set h mainSection (hsection.set name (.string version))

end Manifest

/-! ## Accepting twice -/

namespace Pass

/-- The dependencies that a pass asks for. -/
def askedDependencies : List Text :=
  [routerDependency, frameworkDependency, "typescript", "@vue/cli-plugin-typescript"]

/-- A manifest is accepted for its sections and for the dependencies that are asked for. -/
theorem acceptManifest_congr (s : Settings) (root : Path) {m m' : Manifest}
    (sections : m'.checkSections = m.checkSections)
    (dependencies : ∀ name ∈ askedDependencies, m'.dependency name = m.dependency name) :
    acceptManifest s root m' =
      (acceptManifest s root m).map fun a => { a with manifest := m' } := by
  have hrouter := dependencies routerDependency (by simp [askedDependencies])
  have hframework := dependencies frameworkDependency (by simp [askedDependencies])
  have hscript : m'.script = m.script := by
    unfold Manifest.script Manifest.hasDependency
    rw [dependencies "typescript" (by simp [askedDependencies]),
      dependencies "@vue/cli-plugin-typescript" (by simp [askedDependencies])]
  cases hsections : m.checkSections with
  | error failure => simp [acceptManifest, sections, hsections, Except.map]
  | ok _ =>
    cases hasked : m.dependency routerDependency with
    | none =>
      simp [acceptManifest, Manifest.hasDependency, sections, hsections, hrouter, hasked,
        Except.map]
    | some router =>
      cases hfound : m.dependency frameworkDependency with
      | none =>
        simp [acceptManifest, Manifest.hasDependency, sections, hsections, hrouter, hasked,
          hframework, hfound, Except.map]
      | some specifier =>
        by_cases hother : (Manifest.majorVersion specifier).any (· != supportedMajor) = true
        · simp [acceptManifest, Manifest.hasDependency, sections, hsections, hrouter, hasked,
            hframework, hfound, hother, Except.map]
        · simp [acceptManifest, Manifest.hasDependency, sections, hsections, hrouter, hasked,
            hframework, hfound, hother, hscript, Except.map]

variable {s : Settings} {root : Path} {text : Text} {a : Accepted}

/-- An accepted project is accepted again, by the text that declaring the dependency leaves, and
    then its dependency is declared already. -/
theorem accept_manifestText (h : accept s root (.ok text) = .ok a)
    (hdouble : Json.holdsDouble (.object a.manifest.members) = false)
    (hname : s.dependency.name ∉ askedDependencies) :
    ∃ m, accept s root (.ok (manifestText s text)) = .ok { a with manifest := m } ∧
      m.declare s.dependency.name s.dependency.version = .ok (m, false) := by
  obtain ⟨-, text', heq, parsed⟩ := eq_of_accept h
  obtain rfl := Except.ok.inj heq
  have manifestOf_eq : ∀ {text m}, Manifest.parse text = .ok m →
      accept s root (.ok text) = acceptManifest s root m := by
    intro text m parsed
    simp only [accept, manifestOf, parsed]
  have checked := checkSections_of_accept h
  obtain ⟨m, changed, declared⟩ :=
    Manifest.declare_ok checked s.dependency.name s.dependency.version
  rw [manifestOf_eq parsed] at h
  cases changed with
  | false =>
    have hm : manifestText s text = text := by simp [manifestText, parsed, declared]
    have heq : m = a.manifest := Manifest.eq_of_declared declared
    exact ⟨a.manifest, by rw [hm, manifestOf_eq parsed, h], heq ▸ declared⟩
  | true =>
    have hm : manifestText s text = m.toText := by simp [manifestText, parsed, declared]
    have prints := (Manifest.prints_of_parse parsed
      (Json.allWhole_of_holdsDouble _ hdouble)).declare declared
    have same : acceptManifest s root m =
        (acceptManifest s root a.manifest).map fun a => { a with manifest := m } := by
      refine acceptManifest_congr s root ?_ fun name hasked => ?_
      · rw [checked, Manifest.checkSections_declare declared checked]
      · exact Manifest.dependency_declare declared fun heq => hname (heq ▸ hasked)
    refine ⟨m, ?_, Manifest.declare_declare declared⟩
    rw [hm, manifestOf_eq prints.parse_toText, same, h]
    rfl

/-- **A manifest's step that was not skipped** leaves a text by which the same project is accepted,
    and with the dependency declared already. -/
theorem Declared.accepted_again {mode : Mode} {store store' : Memory} {r : StepResult}
    (h : Declared s mode a store r store') (real : mode.dryRun = false)
    (accepted : accept s root (store.read (Project.manifestAt root)) = .ok a)
    (whole : ∀ text ∈ store.get? a.project.manifestFile, ∀ v ∈ (Json.read text).toOption,
      Json.holdsDouble v = false)
    (dependency : s.dependency.name ∉ askedDependencies) (done : r.outcome ≠ .skipped) :
    ∃ text m, store'.get? a.project.manifestFile = some text ∧
      accept s root (.ok text) = .ok { a with manifest := m } ∧
      m.declare s.dependency.name s.dependency.version = .ok (m, false) := by
  obtain ⟨hroot, old, hread, parsed⟩ := eq_of_accept accepted
  have hold : store.get? a.project.manifestFile = some old := by
    rw [Project.manifestFile, hroot]
    exact Memory.get?_of_read hread
  rw [hread] at accepted
  obtain ⟨m, accepted', already⟩ := accept_manifestText accepted
    (whole _ hold _ (by rw [Manifest.read_of_parse parsed]; rfl)) dependency
  exact ⟨manifestText s old, m, (h.get?_self real hold parsed).2 done, accepted', already⟩

end Pass

end RouteLocalizer
