/-
  The FRAME of a pass: what a real pass can change at all, whatever fails on the way.

  Each of the four edited files holds its old text or what its own step makes of that text, and
  nothing else: the steps' effects do not mix, because a step reads its file before it writes it and
  no other step touches that file.  All other files that were there are as they were, and a new file
  is the target of a template with the text that the template says.

  SPECIFICATION (`run_framed`): for a pass that answers a report,
  (1) `kept` — a file that was there and is none of the four holds the text that it held;
  (2) `added` — a file that was not there is the target of a template, and holds its text;
  (3) the four files, one by one: each holds what it held or its own transform of that, and surely
      the transform if the report says that the step went through (`Transformed`).
-/
import RouteLocalizer.Proofs.Places
import RouteLocalizer.Proofs.Trace
import RouteLocalizer.Sample

namespace RouteLocalizer.Pass

/-! ## What each step makes of its file -/

/-- The text of a manifest with the dependency declared: printed anew where it had to change. -/
def manifestText (s : Settings) (text : Text) : Text :=
  match Manifest.parse text with
  | .error _ => text
  | .ok m =>
    match m.declare s.dependency.name s.dependency.version with
    | .ok (m', true) => m'.toText
    | _ => text

/-- An accepted project lies at the root that was asked for, and its manifest is what its text
    says. -/
theorem eq_of_accept {s : Settings} {root : Path} {content : Except FileFault Text} {a : Accepted}
    (h : accept s root content = .ok a) :
    a.project.root = root ∧ ∃ text, content = .ok text ∧ Manifest.parse text = .ok a.manifest :=
  ⟨(acceptManifest_eq_ok (accept_eq_ok h).1).2.1, (accept_eq_ok h).2⟩

/-- What a file that was there can hold after a real pass, and does hold when its step says that it
    went through. -/
structure Transformed (store store' : Memory) (file : Path) (outcome : Option Outcome)
    (transform : Text → Text) : Prop where
  either : ∀ old, store.get? file = some old →
    store'.get? file = some old ∨ store'.get? file = some (transform old)
  done : ∀ old, store.get? file = some old →
    outcome = some .modified ∨ outcome = some .unchanged →
      store'.get? file = some (transform old)

/-- All that a real pass over a project does to the store. -/
structure Framed (s : Settings) (mode : Mode) (p : Project) (store store' : Memory)
    (report : Report) : Prop where
  kept : ∀ path text, (∀ file ∈ p.editedFiles, file.same path = false) →
    store.get? path = some text → store'.get? path = some text
  added : ∀ path text, store.get? path = none → store'.get? path = some text →
    ∃ templates, sourcesIn s store = .ok templates ∧ ∃ t ∈ templates,
      (Template.target p.root (Template.standardValues s p.script mode.day) t).same path = true ∧
      text = (Template.standardValues s p.script mode.day).fill t.content
  manifest : Transformed store store' p.manifestFile (report.outcome? .manifest) (manifestText s)
  entry : Transformed store store' p.entryFile (report.outcome? .entry) (entryText s.router)
  router : Transformed store store' p.routerFile (report.outcome? .router)
    (routerText s (s.templates.dir.isNone &&
      decide (report.outcome? .templates ≠ some .skipped)))
  markup : Transformed store store' p.appFile (report.outcome? .markup) (markupText s mode.stamp)

/-! ## One step -/

theorem Declared.get?_self {s : Settings} {mode : Mode} {a : Accepted} {store store' : Memory}
    {r : StepResult} (h : Declared s mode a store r store') (real : mode.dryRun = false)
    {old : Text} (hold : store.get? a.project.manifestFile = some old)
    (parsed : Manifest.parse old = .ok a.manifest) :
    (store'.get? a.project.manifestFile = some old ∨
        store'.get? a.project.manifestFile = some (manifestText s old)) ∧
      (r.outcome ≠ .skipped →
        store'.get? a.project.manifestFile = some (manifestText s old)) := by
  cases h with
  | already declared =>
    have : manifestText s old = old := by simp [manifestText, parsed, declared]
    rw [this]
    exact ⟨.inl hold, fun _ => hold⟩
  | @saved m outcome _ _ declared saved =>
    have : manifestText s old = m.toText := by simp [manifestText, parsed, declared]
    rw [this]
    rcases saved.get?_self real with ⟨rfl, hget⟩ | ⟨rfl, hget⟩
    · exact ⟨.inr hget, fun _ => hget⟩
    · exact ⟨.inl (hget.trans hold), fun hne => absurd rfl hne⟩

/-- A step that edits a file makes no file. -/
theorem Edited.get?_of_absent {wanted : Bool} {store store' : Memory} {dryRun : Bool}
    {file path : Path} {remedy : Text} {edit : Text → Edit} {r : StepResult}
    (h : Edited wanted store dryRun file remedy edit r store') (absent : store.get? path = none) :
    store'.get? path = none := by
  by_cases hsame : file.same path = true
  · have : store.get? file = none := by rw [store.get?_congr hsame, absent]
    rw [h.get?_of_missing this, absent]
  · rw [h.get?_of_ne (Bool.eq_false_iff.mpr hsame), absent]

/-- The steps behind a step that went through leave its file alone. -/
theorem Transformed.of_edited {wanted : Bool} {store before after store' : Memory} {dryRun : Bool}
    {file : Path} {remedy : Text} {edit : Text → Edit} {transform : Text → Text} {r : StepResult}
    (h : Edited wanted before dryRun file remedy edit r after) (real : dryRun = false)
    (transform_eq : ∀ text, (edit text).text = transform text)
    (untouched : ∀ old, store.get? file = some old → before.get? file = some old)
    (left : store'.get? file = after.get? file) :
    Transformed store store' file (some r.outcome) transform := by
  constructor
  · intro old hold
    rw [left, ← transform_eq]
    exact (h.get?_self real (untouched old hold)).1
  · intro old hold hdone
    rw [left, ← transform_eq]
    refine (h.get?_self real (untouched old hold)).2 ?_
    rcases hdone with hdone | hdone <;> rw [Option.some.inj hdone] <;> simp

/-! ## The steps among each other -/

/-- What the steps of a pass find and leave in the edited files: each finds its file as it was
    before the pass, and no later step touches it. -/
structure StepFiles (p : Project) (store s₁ s₂ s₃ s₄ store' : Memory) : Prop where
  entryBefore : s₂.get? p.entryFile = store.get? p.entryFile
  routerBefore : s₃.get? p.routerFile = store.get? p.routerFile
  appBefore : s₄.get? p.appFile = store.get? p.appFile
  manifestAfter : store'.get? p.manifestFile = s₁.get? p.manifestFile
  entryAfter : store'.get? p.entryFile = s₃.get? p.entryFile
  routerAfter : store'.get? p.routerFile = s₄.get? p.routerFile

/-- **The steps keep to their files**, where the example files are the built-in ones. -/
theorem stepFiles {s : Settings} {mode : Mode} {a : Accepted} {withExamples : Bool}
    {manifest templates entry router markup : StepResult}
    {entryRemedy routerRemedy appRemedy : Text} {entryEdit routerEdit appEdit : Text → Edit}
    {wanted wanted' wanted'' dryRun : Bool}
    {store s₁ s₂ s₃ s₄ store' : Memory} (builtIn : s.templates.dir = none)
    (declared : Declared s mode a store manifest s₁)
    (templated : Templated s mode a.project s₁ templates withExamples s₂)
    (entered : Edited wanted s₂ dryRun a.project.entryFile entryRemedy entryEdit entry s₃)
    (routed : Edited wanted' s₃ dryRun a.project.routerFile routerRemedy routerEdit router s₄)
    (marked : Edited wanted'' s₄ dryRun a.project.appFile appRemedy appEdit markup store') :
    StepFiles a.project store s₁ s₂ s₃ s₄ store' := by
  obtain ⟨hme, hmr, hma, her, hea, hra⟩ := a.project.filesApart
  have hflip : ∀ {f g : Path}, f.same g = false → g.same f = false :=
    fun h => by rw [Path.same_comm]; exact h
  have kept : ∀ file ∈ a.project.editedFiles, s₂.get? file = s₁.get? file := by
    intro file hfile
    refine templated.get?_of_apart fun templates sources t ht => ?_
    obtain rfl : Template.examples = templates := by simpa [sourcesIn, builtIn] using sources
    exact (Template.examples_apart s mode.day a.project).edited t ht file hfile
  obtain ⟨km, ke, kr, ka⟩ := a.project.forall_editedFiles.mp kept
  constructor
  case entryBefore => rw [ke, declared.get?_of_ne hme]
  case routerBefore => rw [entered.get?_of_ne her, kr, declared.get?_of_ne hmr]
  case appBefore =>
    rw [routed.get?_of_ne hra, entered.get?_of_ne hea, ka, declared.get?_of_ne hma]
  case manifestAfter =>
    rw [marked.get?_of_ne (hflip hma), routed.get?_of_ne (hflip hmr),
      entered.get?_of_ne (hflip hme), km]
  case entryAfter => rw [marked.get?_of_ne (hflip hea), routed.get?_of_ne (hflip her)]
  case routerAfter => rw [marked.get?_of_ne (hflip hra)]

/-! ## The whole pass -/

/-- The templates of a pass do not go to the files that it edits.  The built-in ones never do. -/
def TemplatesApart (s : Settings) (mode : Mode) (root : Path) (store : Memory) : Prop :=
  ∀ p, projectAt s root store = some p → s.templates.dir ≠ none →
    ∀ templates, sourcesIn s store = .ok templates →
      ∀ t ∈ templates, ∀ file ∈ p.editedFiles,
        (Template.target p.root (Template.standardValues s p.script mode.day) t).same file = false

theorem TemplatesApart.edited {s : Settings} {mode : Mode} {root : Path} {store : Memory}
    (h : TemplatesApart s mode root store) {p : Project} (hp : projectAt s root store = some p)
    {templates : List Template} (sources : sourcesIn s store = .ok templates) :
    ∀ t ∈ templates, ∀ file ∈ p.editedFiles,
      (Template.target p.root (Template.standardValues s p.script mode.day) t).same file =
        false := by
  by_cases hdir : s.templates.dir = none
  · simp only [sourcesIn, hdir, Except.ok.injEq] at sources
    subst sources
    exact (Template.examples_apart s mode.day p).edited
  · exact h p hp hdir templates sources

/-- **The frame of a real pass**, with any faults of any calls. -/
theorem run_framed (s : Settings) (mode : Mode) (root : Path) (store : Memory) {report : Report}
    {store' : Memory} (real : mode.dryRun = false) (apart : TemplatesApart s mode root store)
    (ran : (run s mode root : StateM Memory (Except Failure Report)) store =
      (.ok report, store')) :
    ∃ p, projectAt s root store = some p ∧ Framed s mode p store store' report := by
  cases Ran.of_run ran with
  | @completed a manifest templates entry router markup withExamples s₁ s₂ s₃ s₄ _ accepted declared
      templated entered routed marked =>
    have hp : projectAt s root store = some a.project := by simp [projectAt, accepted]
    refine ⟨a.project, hp, ?_⟩
    obtain ⟨hroot, text, hread, parsed⟩ := eq_of_accept accepted
    have hfile : a.project.manifestFile = Project.manifestAt root := by
      rw [Project.manifestFile, hroot]
    rw [← hfile] at hread
    have hmanifest := Memory.get?_of_read hread
    obtain ⟨hme, hmr, hma, her, hea, hra⟩ := a.project.filesApart
    have hflip : ∀ {f g : Path}, f.same g = false → g.same f = false :=
      fun h => by rw [Path.same_comm]; exact h
    constructor
    case kept =>
      intro path text outside present
      obtain ⟨hm, he, hr, ha⟩ := a.project.forall_editedFiles.mp outside
      rw [marked.get?_of_ne ha, routed.get?_of_ne hr, entered.get?_of_ne he]
      exact templated.get?_of_present ((declared.get?_of_ne hm).trans present)
    case added =>
      intro path text absent present
      have hm : a.project.manifestFile.same path = false := by
        rw [Bool.eq_false_iff]
        intro hsame
        rw [store.get?_congr hsame, absent] at hmanifest
        cases hmanifest
      have habsent : s₁.get? path = none := (declared.get?_of_ne hm).trans absent
      have hsources : sourcesIn s s₁ = sourcesIn s store :=
        sourcesIn_congr s declared.isLater.outside
      cases hnew : s₂.get? path with
      | none =>
        rw [marked.get?_of_absent (routed.get?_of_absent (entered.get?_of_absent hnew))] at present
        cases present
      | some new =>
        obtain ⟨templates, sources, t, ht, hsame, htext⟩ := templated.get?_of_absent habsent hnew
        rw [hsources] at sources
        refine ⟨templates, sources, t, ht, hsame, ?_⟩
        have hedited : ∀ file ∈ a.project.editedFiles, file.same path = false := by
          intro file hmem
          rw [Path.same_comm, ← Path.same_congr hsame]
          exact apart.edited hp sources t ht file hmem
        obtain ⟨-, he, hr, ha⟩ := a.project.forall_editedFiles.mp hedited
        rw [marked.get?_of_ne ha, routed.get?_of_ne hr, entered.get?_of_ne he, hnew] at present
        rw [← Option.some.inj present, htext]
    case manifest =>
      have hstep := declared.get?_self real hmanifest parsed
      have hlater : ∀ {new}, s₁.get? a.project.manifestFile = some new →
          store'.get? a.project.manifestFile = some new := by
        intro new hnew
        rw [marked.get?_of_ne (hflip hma), routed.get?_of_ne (hflip hmr),
          entered.get?_of_ne (hflip hme)]
        exact templated.get?_of_present hnew
      constructor
      · intro old hold
        obtain rfl : text = old := Option.some.inj (hmanifest.symm.trans hold)
        exact hstep.1.imp hlater hlater
      · intro old hold hdone
        obtain rfl : text = old := Option.some.inj (hmanifest.symm.trans hold)
        refine hlater (hstep.2 ?_)
        intro hskipped
        rcases hdone with hdone | hdone <;>
          simp [Report.outcome?, StepResult.addTo, hskipped] at hdone
    case entry =>
      refine Transformed.of_edited entered real (fun _ => rfl) ?_ ?_
      · intro old hold
        exact templated.get?_of_present ((declared.get?_of_ne hme).trans hold)
      · rw [marked.get?_of_ne (hflip hea), routed.get?_of_ne (hflip her)]
    case router =>
      have hexamples : (s.templates.dir.isNone && decide (some templates.outcome ≠ some .skipped)) =
          withExamples := by
        rw [templated.withExamples_eq]
        simp
      show Transformed store store' a.project.routerFile (some router.outcome)
        (routerText s (s.templates.dir.isNone && decide (some templates.outcome ≠ some .skipped)))
      rw [hexamples]
      refine Transformed.of_edited routed real (fun _ => rfl) ?_ ?_
      · intro old hold
        rw [entered.get?_of_ne her]
        exact templated.get?_of_present ((declared.get?_of_ne hmr).trans hold)
      · rw [marked.get?_of_ne (hflip hra)]
    case markup =>
      refine Transformed.of_edited marked real (fun _ => rfl) ?_ rfl
      intro old hold
      rw [routed.get?_of_ne hra, entered.get?_of_ne hea]
      exact templated.get?_of_present ((declared.get?_of_ne hma).trans hold)

/-- The frame of a pass over a small project whose router file cannot be written.  That file keeps
    its text, the entry file and the component hold what their steps make of them, and a file of
    another kind is left alone. -/
theorem run_framed_sample :
    let s : Settings := { options := { renderTemplate := false } }
    let p : Project := ⟨Sample.root, .javascript, some 2⟩
    let entry : Text := "new Vue(\x7b\n  router\n\x7d)\n"
    let router : Text := "Vue.use(VueRouter)\nnew VueRouter()\n"
    let app : Text := "<div><router-link/></div>\n"
    let store := { Sample.smallStore [("src/main.js", entry), ("src/router/index.js", router),
        ("src/App.vue", app), ("README.md", app)] with
      faults := [⟨.write, p.routerFile, ⟨false, "permission denied"⟩⟩] }
    let result := (run s {} Sample.root : StateM Memory (Except Failure Report)) store
    ∃ report, result.1 = .ok report ∧ Framed s {} p store result.2 report ∧
      report.outcome? .router = some .skipped ∧ result.2.get? p.routerFile = some router ∧
      result.2.get? p.entryFile = some
        "import \x7b i18n \x7d from 'vue-lang-router'\nnew Vue(\x7b\n  i18n,\n  router\n\x7d)\n".toList ∧
      result.2.get? p.appFile = some "<div><localized-link/></div>\n".toList ∧
      result.2.get? (Sample.root.join ⟨"README.md"⟩) = some app := by
  intro s p entry router app store result
  obtain ⟨report, store', hrun⟩ := run_ok s {} Sample.root store (by decide +kernel)
  obtain rfl : result.2 = store' := congrArg Prod.snd hrun
  have answer : result.1 = .ok report := congrArg Prod.fst hrun
  obtain ⟨p', hp, framed⟩ := run_framed s {} _ _ rfl (fun _ _ hdir => absurd rfl hdir) hrun
  obtain rfl : p = p' := by
    have project : projectAt s Sample.root store = some p := by decide +kernel
    exact Option.some.inj (project.symm.trans hp)
  have outcomes : (result.1.map fun report => (report.outcome? .router, report.outcome? .entry,
      report.outcome? .markup)) = .ok (some .skipped, some .modified, some .modified) := by
    decide +kernel
  rw [answer] at outcomes
  obtain ⟨hrouter, houtcomes⟩ := Prod.mk.inj (Except.ok.inj outcomes)
  obtain ⟨hentry, hmarkup⟩ := Prod.mk.inj houtcomes
  refine ⟨report, answer, framed, hrouter, by decide +kernel, ?entry, ?markup, ?other⟩
  case entry =>
    rw [framed.entry.done entry (by decide +kernel) (.inl hentry)]
    decide +kernel
  case markup =>
    rw [framed.markup.done app (by decide +kernel) (.inl hmarkup)]
    decide +kernel
  case other => exact framed.kept _ app (by decide +kernel) (by decide +kernel)

end RouteLocalizer.Pass
