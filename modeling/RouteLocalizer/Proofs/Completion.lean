/-
  A CLEAN PASS completes the wiring: what is reported without a warning is found by the status.

  PROGRAM: `run` is a real pass, with any options as long as the one is on that the status always
  asks about, and `inspect` a status of the same project afterwards, at a time of its own.
  SPECIFICATION (`run_completes`): if the pass reports no warning, the status has no part pending.

  A pass without a warning has read and written each of its files, so each file holds what its step
  made of it, and can still be read.  The checks of the edited texts are done (`entryChecks_done`,
  `routerChecks_done`, `appChecks_done`), and the manifest declares the dependency.  No step may
  fail for this, but faults elsewhere are no obstacle.

  The condition on the router file is needed: the shapes of imports go by lines, so an import line
  can be written into the install call, and goes with it when the call is replaced
  (`run_loses_import`).
-/
import RouteLocalizer.Proofs.Detection
import RouteLocalizer.Proofs.SecondRun

namespace RouteLocalizer

/-! ## Files that a clean step has been through -/

/-- No fault is planned for a text that was read. -/
theorem Memory.faultFor_of_read {store : Memory} {path : Path} {text : Text}
    (h : store.read path = .ok text) : store.faultFor .read path = none := by
  unfold read at h
  split at h
  · cases h
  · assumption

/-- A file that could be read can be read later, with what it holds then. -/
theorem Memory.IsLater.read {store store' : Memory} {path : Path} {old new : Text}
    (h : IsLater store store') (read : store.read path = .ok old)
    (left : store'.get? path = some new) : store'.read path = .ok new := by
  refine Memory.read_of_get? ?_ left
  rw [← Memory.faultFor_of_read read]
  simp [faultFor, h.faults]

/-- A declared dependency has a specifier. -/
theorem Manifest.hasDependency_of_declare {m m' : Manifest} {name version : Text}
    (h : m.declare name version = .ok (m', false)) : m'.hasDependency name = true := by
  rw [eq_of_declared h, hasDependency, dependency_of_declared h]
  rfl

namespace Pass

/-- The warnings of a report are those of its steps. -/
theorem warnings_addTo (r : StepResult) (step : Step) (report : Report) :
    (r.addTo step report).warnings = [] ↔ report.warnings = [] ∧ Quiet r.notes := by
  simp [Report.warnings, StepResult.addTo, Quiet, List.filter_eq_nil_iff]

/-- A manifest's step without a warning was not skipped. -/
theorem Declared.ne_skipped_of_quiet {s : Settings} {mode : Mode} {a : Accepted}
    {store store' : Memory} {r : StepResult} (h : Declared s mode a store r store')
    (real : mode.dryRun = false) (quiet : Quiet r.notes) : r.outcome ≠ .skipped := by
  cases h with
  | already => simp
  | saved _ saved => exact (saved.get?_of_quiet real (quiet_append.mp quiet).1).1

/-- The built-in example files are in place after a quiet step that is wanted. -/
theorem Templated.withExamples_of_quiet {s : Settings} {mode : Mode} {p : Project}
    {store store' : Memory} {r : StepResult} {withExamples : Bool}
    (h : Templated s mode p store r withExamples store') (builtIn : s.templates.dir = none)
    (quiet : Quiet r.notes) : withExamples = s.options.renderTemplate := by
  cases h with
  | unwanted off => rw [off]
  | noSource => exact absurd (quiet _ (List.mem_singleton_self _)) (by simp [Diagnostic.isWarning])
  | failed => exact absurd (quiet _ (List.mem_singleton_self _)) (by simp [Diagnostic.isWarning])
  | rendered on => simp [on, builtIn]

/-! ## The status of a project -/

theorem textOf_apply (file : Path) (store : Memory) :
    (Status.textOf file : StateM Memory (Option Text)) store =
      ((store.read file).toOption, store) := rfl

/-- What the status of a project is, where its manifest is accepted. -/
theorem inspect_of_accept {s : Settings} {root : Path} {store : Memory} {a : Accepted}
    (h : accept s root (store.read (Project.manifestAt root)) = .ok a) (stamp : Nat) :
    (Status.inspect s stamp root : StateM Memory (Except Failure Status)) store =
      (.ok { script := a.project.script
             checks := ⟨"dependency declared", a.project.manifestFile,
                 Status.stateOf (a.manifest.hasDependency s.dependency.name)⟩ ::
               Status.routerChecks s.router a.project.routerFile
                 (store.read a.project.routerFile).toOption ++
               Status.entryChecks s.router a.project.entryFile
                 (store.read a.project.entryFile).toOption ++
               Status.appChecks s stamp a.project.appFile
                 (store.read a.project.appFile).toOption }, store) := by
  have hscript := script_of_accept h
  obtain ⟨hroot, text, hread, parsed⟩ := eq_of_accept h
  have hfiles : ∀ major, (⟨root, a.manifest.script, major⟩ : Project).routerFile =
        a.project.routerFile ∧
      (⟨root, a.manifest.script, major⟩ : Project).entryFile = a.project.entryFile ∧
      (⟨root, a.manifest.script, major⟩ : Project).appFile = a.project.appFile := by
    simp [Project.routerFile, Project.entryFile, Project.appFile, Project.sourceFile, hroot,
      hscript]
  simp only [Status.inspect, Memory.bind_apply, Memory.read_apply, hread, parsed, textOf_apply,
    Memory.pure_apply, hfiles, Project.manifestFile, hroot, hscript]

/-! ## The whole pass -/

/-- Settings with which a clean pass leaves nothing to be done. -/
structure Completing (s : Settings) : Prop where
  builtIn : s.templates.dir = none
  script : ScriptNames s.router
  component : ComponentNames s.router
  dependency : s.dependency.name ∉ askedDependencies
  /-- The status asks for the i18n object, whether it is wanted or not. -/
  injected : s.options.injectI18n = true

instance (s : Settings) : Decidable (Completing s) :=
  decidable_of_iff (s.templates.dir = none ∧ ScriptNames s.router ∧ ComponentNames s.router ∧
      (∀ name ∈ askedDependencies, s.dependency.name ≠ name) ∧ s.options.injectI18n = true)
    ⟨fun ⟨builtIn, script, component, dependency, injected⟩ =>
      ⟨builtIn, script, component, fun h => dependency _ h rfl, injected⟩,
      fun h => ⟨h.builtIn, h.script, h.component, fun _ hname heq => h.dependency (heq ▸ hname),
        h.injected⟩⟩

/-- **A clean pass completes the wiring**, whatever the other options are and whatever fails
    elsewhere: the status of the project has no part pending. -/
theorem run_completes (s : Settings) (mode : Mode) (root : Path) (store : Memory) {p : Project}
    {report : Report} {store' : Memory} (settings : Completing s)
    (project : projectAt s root store = some p) (files : RepeatableOn s p store)
    (real : mode.dryRun = false)
    (ran : (run s mode root : StateM Memory (Except Failure Report)) store = (.ok report, store'))
    (clean : report.warnings = []) (stamp : Nat) :
    ∃ status, (Status.inspect s stamp root : StateM Memory (Except Failure Status)) store' =
        (.ok status, store') ∧ status.isComplete = true := by
  cases Ran.of_run ran with
  | @completed a _ _ _ _ _ withExamples s₁ s₂ s₃ s₄ _ accepted declared templated entered routed
      marked =>
    obtain rfl : a.project = p := by simpa [projectAt, accepted] using project
    rw [real] at entered routed marked
    simp only [warnings_addTo] at clean
    obtain ⟨⟨⟨⟨⟨-, hdeclared⟩, htemplated⟩, hentered⟩, hrouted⟩, hmarked⟩ := clean
    have hfiles := stepFiles settings.builtIn declared templated entered routed marked
    -- the manifest is accepted as before, and declares the dependency
    obtain ⟨text, m, hmanifest, accepted', already⟩ := declared.accepted_again real accepted
      files.manifest settings.dependency (declared.ne_skipped_of_quiet real hdeclared)
    have hread' : store'.read (Project.manifestAt root) = .ok text := by
      obtain ⟨hroot, old, hread, -⟩ := eq_of_accept accepted
      have later := (declared.isLater.trans templated.isLater).trans
        (entered.isLater.trans (routed.isLater.trans marked.isLater))
      refine later.read hread ?_
      rw [← hroot, ← Project.manifestFile, hfiles.manifestAfter, hmanifest]
    -- the entry file and the router file hold what their steps made of them
    obtain ⟨entry, hentry, hentryLeft, hentryQuiet⟩ :=
      entered.of_quiet settings.injected rfl hentered
    obtain ⟨router, hrouter, hrouterLeft, hrouterQuiet⟩ := routed.of_quiet rfl rfl hrouted
    have hentryRead : store'.read a.project.entryFile = .ok (entryText s.router entry) :=
      (entered.isLater.trans (routed.isLater.trans marked.isLater)).read hentry
        (by rw [hfiles.entryAfter, hentryLeft]; rfl)
    have hrouterRead : store'.read a.project.routerFile =
        .ok (routerText s withExamples router) :=
      (routed.isLater.trans marked.isLater).read hrouter
        (by rw [hfiles.routerAfter, hrouterLeft]; rfl)
    have hentryOld : store.get? a.project.entryFile = some entry := by
      rw [← hfiles.entryBefore, Memory.get?_of_read hentry]
    have hrouterOld : store.get? a.project.routerFile = some router := by
      rw [← hfiles.routerBefore, Memory.get?_of_read hrouter]
    obtain rfl := templated.withExamples_of_quiet settings.builtIn htemplated
    refine ⟨_, inspect_of_accept (by rw [hread', accepted']) stamp, ?_⟩
    simp only [Status.isComplete, List.all_eq_true, decide_eq_true_eq, List.cons_append,
      List.forall_mem_cons, List.forall_mem_append, hentryRead, hrouterRead]
    refine ⟨?_, ⟨?_, ?_⟩, ?_⟩
    · simp [Status.stateOf, Manifest.hasDependency_of_declare already]
    · exact routerChecks_done settings.script (files.paired _ (by simp) _ hrouterOld)
        (files.spans _ hrouterOld) hrouterQuiet _
    · exact entryChecks_done settings.script (files.paired _ (by simp) _ hentryOld) hentryQuiet _
    · cases hwanted : s.options.localizeLinks || s.options.addLanguageSwitcher with
      | false =>
        -- there is nothing to look for
        simp [Status.appChecks, Bool.or_eq_false_iff.mp hwanted]
      | true =>
        rw [hwanted] at marked
        obtain ⟨app, happ, happLeft, happQuiet⟩ := marked.of_quiet rfl rfl hmarked
        have happRead : store'.read a.project.appFile = .ok (markupText s mode.stamp app) :=
          marked.isLater.read happ happLeft
        have happOld : store.get? a.project.appFile = some app := by
          rw [← hfiles.appBefore, Memory.get?_of_read happ]
        rw [happRead]
        exact appChecks_done settings.component (files.unmarked _ happOld) happQuiet stamp _

/-- The status after a clean pass over a small project, whose language switcher has the tag
    `span`. -/
theorem run_completes_sample :
    let s : Settings := { options := { renderTemplate := false, addLanguageSwitcher := true }
                          router := { switcherTag := "span" } }
    let store := Sample.smallStore [("src/main.js", "new Vue(\x7b\n\x7d)\n"),
      ("src/router/index.js", "Vue.use(VueRouter)\nnew VueRouter()\n"),
      ("src/App.vue", "<div>\n  <router-link/>\n</div>\n")]
    let done := (run s {} Sample.root : StateM Memory (Except Failure Report)) store
    ∃ status, (Status.inspect s 0 Sample.root : StateM Memory (Except Failure Status)) done.2 =
        (.ok status, done.2) ∧ status.isComplete = true := by
  intro s store done
  obtain ⟨report, store', hrun⟩ := run_ok s {} Sample.root store (by decide +kernel)
  obtain rfl : done.2 = store' := congrArg Prod.snd hrun
  have hreport : done.1 = .ok report := congrArg Prod.fst hrun
  have clean : (done.1.map Report.warnings).toOption = some [] := by decide +kernel
  rw [hreport] at clean
  exact run_completes s {} _ _ (p := ⟨Sample.root, .javascript, some 2⟩) (by decide +kernel)
    (by decide +kernel) (by decide +kernel) rfl hrun (Option.some.inj clean) 0

/-- Without the condition on the install call the import can be lost, and no warning says so: it is
    written behind what reads as an import declaration, which goes on into the call. -/
theorem run_loses_import :
    let s : Settings := { options := { renderTemplate := false, localizeLinks := false } }
    let p : Project := ⟨Sample.root, .javascript, some 2⟩
    let text : Text :=
      "/*\nimport \x7b\n*/\nVue.use(VueRouter, \x7b\n  mode: \x7b\x7d\n\x7d)\nnew VueRouter()\n"
    let store := Sample.smallStore [("src/main.js", "new Vue(\x7b\n\x7d)\n"),
      ("src/router/index.js", text)]
    let done := (run s {} Sample.root : StateM Memory (Except Failure Report)) store
    let status := (Status.inspect s 0 Sample.root : StateM Memory (Except Failure Status)) done.2
    Completing s ∧ projectAt s Sample.root store = some p ∧
      (∀ text ∈ store.get? p.manifestFile, ∀ v ∈ (Json.read text).toOption,
        Json.holdsDouble v = false) ∧
      (∀ file ∈ [p.entryFile, p.routerFile], ∀ text ∈ store.get? file,
        Text.endsPaired text = true) ∧
      (Script.findInstallCall s.router.host s.router.fromSymbol text).map
        (fun call => Script.spansImport call.body) = some false ∧
      (done.1.map Report.warnings).toOption = some [] ∧
      status.1.map (fun status => status.pending.map Check.name) =
        .ok ["router import".toList] := by
  decide +kernel

end Pass

end RouteLocalizer
