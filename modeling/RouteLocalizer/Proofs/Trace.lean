/-
  A whole pass over the store in memory, STEP BY STEP.

  PROGRAM: `run` reads the manifest and checks what a pass needs, and then takes its five steps: the
  manifest, the example files, the entry file, the router file and the component.
  SPECIFICATION: `Ran` has two cases —
  (1) the preconditions were not met, and nothing happened;
  (2) all five steps ran, each on the store that the one before it left, and the report lists them.

  Nothing between these two exists, since declaring a dependency cannot fail once the sections of
  the manifest were checked (`declare_ok`), and the other steps turn their faults into notes.  What
  each step does is a relation of its own: `Declared`, `Templated`, and `Edited` for the three steps
  that edit a file.

  Every theorem about a pass starts from `run_ran` and never opens the program again: it is a case
  analysis on `Ran`, and then one lemma for each of the five.
-/
import RouteLocalizer.Proofs.Templates

namespace RouteLocalizer

/-! ## The manifest step -/

/-- Where the sections were checked, a dependency can be declared. -/
theorem Manifest.declare_ok {m : Manifest} (h : m.checkSections = .ok ()) (name version : Text) :
    ∃ m' changed, m.declare name version = .ok (m', changed) := by
  have hsound : m.isBroken mainSection = false := by
    unfold checkSections at h
    split at h
    · cases h
    · rename_i hnone
      simpa using List.find?_eq_none.mp hnone mainSection (by simp [sections])
  unfold declare
  cases hget : Json.Members.get? mainSection m.members with
  | none => exact ⟨_, _, rfl⟩
  | some v =>
    cases v with
    | object entries =>
      by_cases hsame : (Json.Members.get? name entries).bind Json.string? = some version
      · exact ⟨m, false, by simp [hsame]⟩
      · exact ⟨⟨Json.Members.set mainSection
          (.object (Json.Members.set name (.string version) entries)) m.members⟩, true,
          by simp [hsame]⟩
    | _ => simp [isBroken, hget, Json.members?] at hsound

namespace Pass

/-- What an accepted project is, and that its manifest has passed its checks. -/
theorem acceptManifest_eq_ok {s : Settings} {root : Path} {m : Manifest} {a : Accepted}
    (h : acceptManifest s root m = .ok a) :
    a.manifest = m ∧ a.project.root = root ∧ a.project.script = m.script ∧
      m.checkSections = .ok () := by
  unfold acceptManifest at h
  split at h
  · cases h
  rename_i hsections
  split at h
  · cases h
  split at h
  · cases h
  simp only at h
  split at h
  · cases h
  cases h
  exact ⟨rfl, rfl, rfl, hsections⟩

/-- The manifest of an accepted project is what its text says. -/
theorem accept_eq_ok {s : Settings} {root : Path} {content : Except FileFault Text} {a : Accepted}
    (h : accept s root content = .ok a) :
    acceptManifest s root a.manifest = .ok a ∧
      ∃ text, content = .ok text ∧ Manifest.parse text = .ok a.manifest := by
  unfold accept at h
  split at h
  · cases h
  rename_i m hm
  obtain ⟨rfl, -⟩ := acceptManifest_eq_ok h
  refine ⟨h, ?_⟩
  cases content with
  | error => cases hm
  | ok text =>
    refine ⟨text, rfl, ?_⟩
    simp only [manifestOf] at hm
    split at hm
    · cases hm
    · exact hm

/-- An accepted manifest has passed its checks. -/
theorem checkSections_of_accept {s : Settings} {root : Path} {content : Except FileFault Text}
    {a : Accepted} (h : accept s root content = .ok a) : a.manifest.checkSections = .ok () :=
  (acceptManifest_eq_ok (accept_eq_ok h).1).2.2.2

/-- The language of an accepted project is that of its manifest. -/
theorem script_of_accept {s : Settings} {root : Path} {content : Except FileFault Text}
    {a : Accepted} (h : accept s root content = .ok a) :
    a.project.script = a.manifest.script :=
  (acceptManifest_eq_ok (accept_eq_ok h).1).2.2.1

/-- What comes of declaring the dependency. -/
inductive Declared (s : Settings) (mode : Mode) (a : Accepted) (store : Memory) :
    StepResult → Memory → Prop where
  | already {m : Manifest}
      (declared : a.manifest.declare s.dependency.name s.dependency.version = .ok (m, false)) :
      Declared s mode a store ⟨.unchanged, [a.project.manifestFile],
        [⟨.info, s.dependency.name ++ " is already declared"⟩]⟩ store
  | saved {m : Manifest} {outcome : Outcome} {notes : List Diagnostic} {store' : Memory}
      (declared : a.manifest.declare s.dependency.name s.dependency.version = .ok (m, true))
      (saved : Saved store mode.dryRun a.project.manifestFile m.toText outcome notes store') :
      Declared s mode a store ⟨outcome, [a.project.manifestFile],
        notes ++ noteIf (outcome = .modified) .info
          ("Added " ++ s.dependency.name ++ "@" ++ s.dependency.version ++ " to package.json")⟩
        store'

/-- The manifest's step, once its sections were checked. -/
theorem manifestStep_declared (s : Settings) (mode : Mode) (a : Accepted) (store : Memory)
    (checked : a.manifest.checkSections = .ok ()) :
    ∃ r store', (manifestStep s mode a : StateM Memory (Except Failure StepResult)) store =
      (.ok r, store') ∧ Declared s mode a store r store' := by
  obtain ⟨m, changed, hdeclare⟩ :=
    Manifest.declare_ok checked s.dependency.name s.dependency.version
  cases changed with
  | false =>
    exact ⟨_, store, by simp [manifestStep, hdeclare], .already hdeclare⟩
  | true =>
    obtain ⟨outcome, notes, store', hsave, saved⟩ :=
      save_saved store mode.dryRun a.project.manifestFile m.toText
    refine ⟨_, store', ?_, .saved hdeclare saved⟩
    simp only [manifestStep, hdeclare, Memory.bind_apply, hsave]
    rfl

namespace Declared

variable {s : Settings} {mode : Mode} {a : Accepted} {store store' : Memory} {r : StepResult}

/-- It keeps every file there. -/
theorem isLater (h : Declared s mode a store r store') : Memory.IsLater store store' := by
  cases h with
  | already => exact .refl store
  | saved _ saved => exact saved.isLater

/-- It touches the manifest only. -/
theorem get?_of_ne (h : Declared s mode a store r store') {other : Path}
    (hne : a.project.manifestFile.same other = false) : store'.get? other = store.get? other := by
  cases h with
  | already => rfl
  | saved _ saved => exact saved.get?_of_ne hne

/-- It writes nothing in a dry run. -/
theorem store_of_dry (h : Declared s mode a store r store') (dry : mode.dryRun = true) :
    store' = store := by
  cases h with
  | already => rfl
  | saved _ saved => exact saved.store_of_dry dry

/-- Where writing cannot fail, the step says the same in a dry run and in a real one. -/
theorem result_unique {mode' : Mode} {r' : StepResult} {later : Memory}
    (h : Declared s mode a store r store') (h' : Declared s mode' a store r' later)
    (writable : store.faultFor .write a.project.manifestFile = none) : r = r' := by
  cases h with
  | already declared =>
    cases h' with
    | already => rfl
    | saved declared' => rw [declared] at declared'; cases declared'
  | saved declared saved =>
    cases h' with
    | already declared' => rw [declared] at declared'; cases declared'
    | saved declared' saved' =>
      obtain ⟨rfl, rfl⟩ := saved.eq_modified writable
      obtain ⟨rfl, rfl⟩ := saved'.eq_modified writable
      rfl

end Declared

/-! ## The templates step -/

/-- The templates of a pass, as the store has them. -/
def sourcesIn (s : Settings) (store : Memory) : Except Failure (List Template) :=
  match s.templates.dir with
  | none => .ok Template.examples
  | some dir =>
    match store.textsBelow ⟨dir⟩ with
    | none => .error (.template ("Template directory not found: " ++ dir))
    | some (.error fault) => .error fault.toFailure
    | some (.ok files) => .ok (files.map Template.ofFile)

/-- Where the templates come from does not change the store. -/
theorem source_eq (s : Settings) (store : Memory) :
    (Template.source s : StateM Memory (Except Failure (List Template))) store =
      (sourcesIn s store, store) := by
  unfold Template.source sourcesIn
  cases s.templates.dir with
  | none => rfl
  | some dir =>
    simp only [Template.ofDirectory, Memory.bind_apply, Memory.textsBelow_apply]
    cases store.textsBelow ⟨dir⟩ with
    | none => rfl
    | some texts => cases texts <;> rfl

/-- Writing files does not change the templates. -/
theorem sourcesIn_congr (s : Settings) {store store' : Memory}
    (h : store'.outside = store.outside) : sourcesIn s store' = sourcesIn s store := by
  simp [sourcesIn, Memory.textsBelow, h]

/-- What comes of the templates step: its result, whether the built-in files are in place, and the
    store afterwards. -/
inductive Templated (s : Settings) (mode : Mode) (p : Project) (store : Memory) :
    StepResult → Bool → Memory → Prop where
  | unwanted (off : s.options.renderTemplate = false) :
      Templated s mode p store ⟨.skipped, [], []⟩ false store
  | noSource (on : s.options.renderTemplate = true) {failure : Failure}
      (sources : sourcesIn s store = .error failure) :
      Templated s mode p store
        (failedTemplates (failure.message ++ "; example files were not added")) false store
  | failed (on : s.options.renderTemplate = true) {templates : List Template} {failure : Failure}
      {store' : Memory} (sources : sourcesIn s store = .ok templates)
      (rendered : Template.Rendered mode.dryRun p.root
        (Template.standardValues s p.script mode.day) store templates (.error failure) store') :
      Templated s mode p store
        (failedTemplates ("Rendering example files failed: " ++ failure.message)) false store'
  | rendered (on : s.options.renderTemplate = true) {templates : List Template}
      {summary : Template.Summary} {store' : Memory} (sources : sourcesIn s store = .ok templates)
      (rendered : Template.Rendered mode.dryRun p.root
        (Template.standardValues s p.script mode.day) store templates (.ok summary) store') :
      Templated s mode p store
        ⟨if summary.written.isEmpty then .unchanged else .modified, summary.written,
          summary.skipped.map (keptNote p.root)⟩ s.templates.dir.isNone store'

/-- The step of the example files. -/
theorem templatesStep_templated (s : Settings) (mode : Mode) (p : Project) (store : Memory) :
    ∃ r withExamples store',
      (templatesStep s mode p : StateM Memory (StepResult × Bool)) store =
        ((r, withExamples), store') ∧ Templated s mode p store r withExamples store' := by
  cases hon : s.options.renderTemplate with
  | false =>
    exact ⟨_, _, store, by simp [templatesStep, hon], .unwanted hon⟩
  | true =>
    cases hsources : sourcesIn s store with
    | error failure =>
      refine ⟨_, _, store, ?_, .noSource hon hsources⟩
      simp [templatesStep, hon, source_eq, hsources]
    | ok templates =>
      obtain ⟨answer, store', hrender, rendered⟩ := Template.render_rendered mode.dryRun p.root
        (Template.standardValues s p.script mode.day) templates store
      cases answer with
      | error failure =>
        refine ⟨_, _, store', ?_, .failed hon hsources rendered⟩
        simp [templatesStep, hon, source_eq, hsources, hrender]
      | ok summary =>
        refine ⟨_, _, store', ?_, .rendered hon hsources rendered⟩
        simp [templatesStep, hon, source_eq, hsources, hrender]

namespace Templated

variable {s : Settings} {mode : Mode} {p : Project} {store store' : Memory} {r : StepResult}
  {withExamples : Bool}

/-- It keeps every file there, too. -/
theorem isLater (h : Templated s mode p store r withExamples store') :
    Memory.IsLater store store' := by
  cases h with
  | unwanted => exact .refl store
  | noSource => exact .refl store
  | failed _ _ rendered => exact rendered.isLater
  | rendered _ _ rendered => exact rendered.isLater

/-- Nor does it write anything in a dry run. -/
theorem store_of_dry (h : Templated s mode p store r withExamples store')
    (dry : mode.dryRun = true) : store' = store := by
  cases h with
  | unwanted => rfl
  | noSource => rfl
  | failed _ _ rendered => exact rendered.store_of_dry dry
  | rendered _ _ rendered => exact rendered.store_of_dry dry

/-- A file that is there keeps its text. -/
theorem get?_of_present (h : Templated s mode p store r withExamples store') {other : Path}
    {text : Text} (present : store.get? other = some text) : store'.get? other = some text := by
  cases h with
  | unwanted => exact present
  | noSource => exact present
  | failed _ _ rendered => exact rendered.get?_of_present present
  | rendered _ _ rendered => exact rendered.get?_of_present present

/-- A new file is the target of some template, and holds what that template says. -/
theorem get?_of_absent (h : Templated s mode p store r withExamples store') {other : Path}
    (absent : store.get? other = none) {text : Text} (present : store'.get? other = some text) :
    ∃ templates, sourcesIn s store = .ok templates ∧ ∃ t ∈ templates,
      (Template.target p.root (Template.standardValues s p.script mode.day) t).same other = true ∧
      text = (Template.standardValues s p.script mode.day).fill t.content := by
  cases h with
  | unwanted => rw [absent] at present; cases present
  | noSource => rw [absent] at present; cases present
  | failed _ sources rendered => exact ⟨_, sources, rendered.get?_of_absent absent present⟩
  | rendered _ sources rendered => exact ⟨_, sources, rendered.get?_of_absent absent present⟩

/-- What is no target of a template is as it was. -/
theorem get?_of_apart (h : Templated s mode p store r withExamples store') {other : Path}
    (apart : ∀ templates, sourcesIn s store = .ok templates → ∀ t ∈ templates,
      (Template.target p.root (Template.standardValues s p.script mode.day) t).same other =
        false) : store'.get? other = store.get? other := by
  cases h with
  | unwanted => rfl
  | noSource => rfl
  | failed _ sources rendered => exact rendered.get?_of_apart (apart _ sources)
  | rendered _ sources rendered => exact rendered.get?_of_apart (apart _ sources)

/-- The router file may import the example files when the step succeeded with the built-in ones. -/
theorem withExamples_eq (h : Templated s mode p store r withExamples store') :
    withExamples = (s.templates.dir.isNone && decide (r.outcome ≠ .skipped)) := by
  cases h with
  | unwanted => simp
  | noSource => simp [failedTemplates]
  | failed => simp [failedTemplates]
  | @rendered _ _ summary => by_cases hnone : summary.written = [] <;> simp [hnone]

end Templated

/-! ## All steps of a pass -/

/-- The project that a pass works on, if the one at the root is accepted. -/
def projectAt (s : Settings) (root : Path) (store : Memory) : Option Project :=
  match accept s root (store.read (Project.manifestAt root)) with
  | .ok a => some a.project
  | .error _ => none

/-- What comes of a pass over the project at a root. -/
inductive Ran (s : Settings) (mode : Mode) (root : Path) (store : Memory) :
    Except Failure Report → Memory → Prop where
  | refused {failure : Failure}
      (refused : accept s root (store.read (Project.manifestAt root)) = .error failure) :
      Ran s mode root store (.error failure) store
  | completed {a : Accepted} {manifest templates entry router markup : StepResult}
      {withExamples : Bool} {store₁ store₂ store₃ store₄ store₅ : Memory}
      (accepted : accept s root (store.read (Project.manifestAt root)) = .ok a)
      (declared : Declared s mode a store manifest store₁)
      (templated : Templated s mode a.project store₁ templates withExamples store₂)
      (entered : Edited s.options.injectI18n store₂ mode.dryRun a.project.entryFile
        "make sure to import i18n manually!"
        (entryEdit s.router (a.project.root.shownIn a.project.entryFile)) entry store₃)
      (routed : Edited true store₃ mode.dryRun a.project.routerFile
        ("make sure to add " ++ s.router.toSymbol ++ " manually!")
        (routerEdit s withExamples (a.project.root.shownIn a.project.routerFile)) router store₄)
      (marked : Edited (s.options.localizeLinks || s.options.addLanguageSwitcher) store₄
        mode.dryRun a.project.appFile ("skipping <" ++ s.router.linkTag ++ "> changes.")
        (markupEdit s mode.stamp (a.project.root.shownIn a.project.appFile)) markup store₅) :
      Ran s mode root store
        (.ok (markup.addTo .markup <| router.addTo .router <| entry.addTo .entry <|
          templates.addTo .templates <| manifest.addTo .manifest
            { diagnostics := a.notes, dryRun := mode.dryRun })) store₅

/-- **Every pass is one of the two**: it was refused, or it went through all five steps. -/
theorem run_ran (s : Settings) (mode : Mode) (root : Path) (store : Memory) :
    ∃ answer store', (run s mode root : StateM Memory (Except Failure Report)) store =
      (answer, store') ∧ Ran s mode root store answer store' := by
  cases haccept : accept s root (store.read (Project.manifestAt root)) with
  | error failure =>
    refine ⟨_, store, ?_, .refused haccept⟩
    simp [run, preconditions, haccept]
  | ok a =>
    obtain ⟨manifest, store₁, hmanifest, declared⟩ :=
      manifestStep_declared s mode a store (checkSections_of_accept haccept)
    obtain ⟨templates, withExamples, store₂, htemplates, templated⟩ :=
      templatesStep_templated s mode a.project store₁
    obtain ⟨entry, store₃, hentry, entered⟩ := entryStep_edited s mode a.project store₂
    obtain ⟨router, store₄, hrouter, routed⟩ :=
      routerStep_edited s mode a.project withExamples store₃
    obtain ⟨markup, store₅, hmarkup, marked⟩ := markupStep_edited s mode a.project store₄
    refine ⟨_, store₅, ?_, .completed haccept declared templated entered routed marked⟩
    simp only [run, preconditions, steps, Memory.bind_apply, Memory.pure_apply, Memory.read_apply,
      haccept, hmanifest, htemplates, hentry, hrouter, hmarkup]

/-- The answer and the store of a pass that are known. -/
theorem Ran.of_run {s : Settings} {mode : Mode} {root : Path} {store store' : Memory}
    {answer : Except Failure Report}
    (h : (run s mode root : StateM Memory (Except Failure Report)) store = (answer, store')) :
    Ran s mode root store answer store' := by
  obtain ⟨answer', later, hrun, ran⟩ := run_ran s mode root store
  rw [h] at hrun
  cases hrun
  exact ran

/-- A pass over an accepted project answers a report. -/
theorem run_ok (s : Settings) (mode : Mode) (root : Path) (store : Memory)
    (h : (accept s root (store.read (Project.manifestAt root))).isOk = true) :
    ∃ report store', (run s mode root : StateM Memory (Except Failure Report)) store =
      (.ok report, store') := by
  obtain ⟨answer, store', hrun, ran⟩ := run_ran s mode root store
  cases ran with
  | refused refused => rw [refused] at h; cases h
  | completed => exact ⟨_, store', hrun⟩

end Pass

end RouteLocalizer
