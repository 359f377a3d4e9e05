/-
  A SECOND PASS changes nothing.

  Program: a pass reads the manifest and runs five steps, each over files of its own.  Nothing is
  kept from one pass to the next but the files themselves.

  Specification (`run_again`): on what a pass left, where nothing can fail, a second one answers a
  report in which no step modified anything, and leaves the store with its log as it was, exactly
  where the first one wrote no switcher that ends halfway (`HalvesSwitcher`).

  1. Each edit is idempotent: `entryText_entryText`, `routerText_routerText`, and for the component
     `markupText_again` and `markupText_spanSwitcher`, of which the second has the exception.
  2. A step that finds its file as it left it has nothing to do if its edit is idempotent
     (`Edited.again`), a declared dependency needs nothing (`Declared.of_already`), and neither do
     example files that are there (`Templated.of_examples_present`).
  3. **The crux (`run_again_front`)** is that each step does find its file as it left it: no other
     step touches it (`stepFiles`), the second pass is accepted for the same project, since the
     dependency is none of those that are asked for, and it has the same example files to import.
-/
import Mathlib.Data.List.Infix
import RouteLocalizer.Proofs.Cleared
import RouteLocalizer.Proofs.Declaration
import RouteLocalizer.Proofs.EntryFile
import RouteLocalizer.Proofs.RouterFile
import RouteLocalizer.Sample

namespace RouteLocalizer

theorem Memory.faultFor_of_faultless {store : Memory} (faultless : store.faults = [])
    (call : FileCall) (path : Path) : store.faultFor call path = none :=
  faultFor_eq_none (by simp [faultless]) path

theorem Memory.IsLater.faultless {store store' : Memory} (h : IsLater store store')
    (faultless : store.faults = []) : store'.faults = [] :=
  h.faults.trans faultless

namespace Pass

/-! ## One step, where nothing can fail -/

/-- A step that is wanted leaves its file, if it is there, as it makes it. -/
theorem Edited.get?_edited {store store' : Memory} {file : Path} {remedy : Text}
    {edit : Text → Edit} {r : StepResult} (h : Edited true store false file remedy edit r store')
    (faultless : store.faults = []) :
    store'.get? file = (store.get? file).map fun old => (edit old).text := by
  cases hold : store.get? file with
  | none =>
    rw [h.get?_of_missing hold, hold]
    rfl
  | some old =>
    have hread := Memory.read_of_get? (Memory.faultFor_of_faultless faultless .read file) hold
    refine (h.get?_self rfl hold).2 ?_
    rw [h.result_eq (Memory.faultFor_of_faultless faultless .write file), hread]
    by_cases hsame : (edit old).text = old <;> simp [editResult, hsame]

/-- A step that is wanted and modifies nothing has an edit that leaves the text of its file as it
    is. -/
theorem Edited.same_of_unmodified {store store' : Memory} {dryRun : Bool} {file : Path}
    {remedy : Text} {edit : Text → Edit} {r : StepResult}
    (h : Edited true store dryRun file remedy edit r store') (faultless : store.faults = [])
    (unmodified : r.outcome ≠ .modified) {text : Text} (read : store.read file = .ok text) :
    (edit text).text = text := by
  by_contra hne
  rw [h.result_eq (Memory.faultFor_of_faultless faultless .write file), read] at unmodified
  exact unmodified (by simp [editResult, hne])

/-- A step has nothing left to do where its file is as the same step left it, and its edit does
    nothing to what it made. -/
theorem Edited.again {wanted dryRun : Bool} {store store' later later' : Memory} {file : Path}
    {remedy remedy' : Text} {edit edit' : Text → Edit} {r r' : StepResult}
    (h : Edited wanted store false file remedy edit r store')
    (h' : Edited wanted later dryRun file remedy' edit' r' later')
    (faultless : store.faults = []) (same : later.get? file = store'.get? file)
    (fixed : ∀ old, wanted = true → store.get? file = some old →
      later.get? file = some (edit old).text → (edit' (edit old).text).text = (edit old).text) :
    later' = later ∧ r'.outcome ≠ .modified := by
  refine h'.of_fixed fun text read on => ?_
  subst on
  have hlater := Memory.get?_of_read read
  have hleft := (same.symm.trans hlater).symm.trans (h.get?_edited faultless)
  obtain ⟨old, hold, rfl⟩ := Option.map_eq_some_iff.mp hleft.symm
  exact fixed old rfl hold hlater

/-- The dependency is declared, unless writing fails. -/
theorem Declared.ne_skipped {s : Settings} {mode : Mode} {a : Accepted} {store store' : Memory}
    {r : StepResult} (h : Declared s mode a store r store') (faultless : store.faults = []) :
    r.outcome ≠ .skipped := by
  cases h with
  | already => simp
  | saved _ saved =>
    simp [(saved.eq_modified (Memory.faultFor_of_faultless faultless .write _)).1]

/-- A dependency that is declared already needs nothing. -/
theorem Declared.of_already {s : Settings} {mode : Mode} {a : Accepted} {store store' : Memory}
    {r : StepResult} (h : Declared s mode a store r store')
    (already : a.manifest.declare s.dependency.name s.dependency.version =
      .ok (a.manifest, false)) : store' = store ∧ r.outcome ≠ .modified := by
  cases h with
  | already => simp
  | saved declared => rw [already] at declared; cases declared

/-! ## The example files -/

/-- The example files of a project are there. -/
def ExamplesPresent (p : Project) (store : Memory) : Prop :=
  ∀ text ∈ Template.exampleTargets p.script, (store.get? (p.root.join ⟨text⟩)).isSome = true

/-- Where the built-in templates go depends on neither the settings nor the day. -/
theorem examplesPresent_iff (s : Settings) (day : Day) (p : Project) (store : Memory) :
    ExamplesPresent p store ↔ ∀ t ∈ Template.examples,
      (store.get? (Template.target p.root (Template.standardValues s p.script day) t)).isSome =
        true := by
  unfold ExamplesPresent
  rw [← Template.fill_examples s p.script day, List.forall_mem_map]
  rfl

namespace Templated

variable {s : Settings} {mode : Mode} {p : Project} {store store' : Memory} {r : StepResult}
  {withExamples : Bool}

/-- The built-in example files are written unless writing fails. -/
theorem examples_present (h : Templated s mode p store r withExamples store')
    (builtIn : s.templates.dir = none) (real : mode.dryRun = false)
    (faultless : store.faults = []) :
    withExamples = s.options.renderTemplate ∧
      (s.options.renderTemplate = true → ExamplesPresent p store') := by
  cases h with
  | unwanted off => simp [off]
  | noSource _ sources => simp [sourcesIn, builtIn] at sources
  | failed _ _ rendered => cases rendered.ok_of_writable (by simp [faultless])
  | rendered on sources rendered =>
    obtain rfl : Template.examples = _ := by simpa [sourcesIn, builtIn] using sources
    refine ⟨by simp [on, builtIn], fun _ => ?_⟩
    exact (examplesPresent_iff s mode.day p store').mpr (rendered.targets_present real rfl)

/-- Where the example files are there, the step has nothing to do. -/
theorem of_examples_present (h : Templated s mode p store r withExamples store')
    (builtIn : s.templates.dir = none)
    (present : s.options.renderTemplate = true → ExamplesPresent p store) :
    store' = store ∧ r.outcome ≠ .modified ∧ withExamples = s.options.renderTemplate := by
  cases h with
  | unwanted off => simp [off]
  | noSource _ sources => simp [sourcesIn, builtIn] at sources
  | failed on sources rendered =>
    obtain rfl : Template.examples = _ := by simpa [sourcesIn, builtIn] using sources
    obtain ⟨-, _, hanswer, -⟩ :=
      rendered.of_present ((examplesPresent_iff s mode.day p store).mp (present on))
    cases hanswer
  | rendered on sources rendered =>
    obtain rfl : Template.examples = _ := by simpa [sourcesIn, builtIn] using sources
    obtain ⟨hstore, _, hanswer, hwritten⟩ :=
      rendered.of_present ((examplesPresent_iff s mode.day p store).mp (present on))
    cases hanswer
    exact ⟨hstore, by simp [hwritten], by simp [on, builtIn]⟩

end Templated

/-! ## The whole pass -/

/-- Settings with which a second pass has nothing left to do. -/
structure Repeatable (s : Settings) : Prop where
  builtIn : s.templates.dir = none
  script : ScriptNames s.router
  component : ComponentNames s.router
  dependency : s.dependency.name ∉ askedDependencies

instance (s : Settings) : Decidable (Repeatable s) :=
  decidable_of_iff (s.templates.dir = none ∧ ScriptNames s.router ∧ ComponentNames s.router ∧
      ∀ name ∈ askedDependencies, s.dependency.name ≠ name)
    ⟨fun ⟨builtIn, script, component, dependency⟩ =>
      ⟨builtIn, script, component, fun h => dependency _ h rfl⟩,
      fun h => ⟨h.builtIn, h.script, h.component,
        fun _ hname heq => h.dependency (heq ▸ hname)⟩⟩

/-- Files of a project that a second pass finds finished. -/
structure RepeatableOn (s : Settings) (p : Project) (store : Memory) : Prop where
  manifest : ∀ text ∈ store.get? p.manifestFile, ∀ v ∈ (Json.read text).toOption,
    Json.holdsDouble v = false
  /-- Lines end in `\n` or in `\r\n`. -/
  paired : ∀ file ∈ [p.entryFile, p.routerFile], ∀ text ∈ store.get? file,
    Text.endsPaired text = true
  /-- The install call, as it is found once the imports are there, spans none of them. -/
  spans : ∀ text ∈ store.get? p.routerFile,
    ∀ call ∈ Script.findInstallCall s.router.host s.router.fromSymbol
      (importedText s s.options.renderTemplate text), Script.spansImport call.body = false
  unmarked : ∀ text ∈ store.get? p.appFile, ¬ Markup.mark <:+: text

instance (s : Settings) (p : Project) (store : Memory) : Decidable (RepeatableOn s p store) :=
  decidable_of_iff (_ ∧ _ ∧ _ ∧ _)
    ⟨fun ⟨manifest, paired, spans, unmarked⟩ => ⟨manifest, paired, spans, unmarked⟩,
      fun h => ⟨h.manifest, h.paired, h.spans, h.unmarked⟩⟩

/-- The router file holds nothing of the stock router any more. -/
def RouterSwapped (s : Settings) (p : Project) (store : Memory) : Prop :=
  ∀ text ∈ store.get? p.routerFile,
    Script.findInstallCall s.router.host s.router.fromSymbol text = none ∧
      Script.findConstruction s.router.fromSymbol text = none

instance (s : Settings) (p : Project) (store : Memory) : Decidable (RouterSwapped s p store) :=
  inferInstanceAs (Decidable (∀ text ∈ store.get? p.routerFile, _ ∧ _))

section

variable {s : Settings} {mode mode' : Mode} {root : Path} {store store' : Memory} {p : Project}
  {report : Report}

/-- **All steps but the last one** find their work done in a second pass, and the last one is at
    work on the component as the first pass left it. -/
theorem run_again_front (settings : Repeatable s) (faultless : store.faults = [])
    (project : projectAt s root store = some p) (files : RepeatableOn s p store)
    (real : mode.dryRun = false)
    (ran : (run s mode root : StateM Memory (Except Failure Report)) store = (.ok report, store'))
    (swapped : RouterSwapped s p store') :
    ∃ (front : Report) (r : StepResult) (later : Memory),
      (run s mode' root : StateM Memory (Except Failure Report)) store' =
        (.ok (r.addTo .markup front), later) ∧
      (∀ record ∈ front.steps, record.outcome ≠ .modified) ∧
      Edited (s.options.localizeLinks || s.options.addLanguageSwitcher) store' mode'.dryRun
        p.appFile ("skipping <" ++ s.router.linkTag ++ "> changes.")
        (markupEdit s mode'.stamp (p.root.shownIn p.appFile)) r later ∧
      store'.faults = [] ∧
      ((s.options.localizeLinks || s.options.addLanguageSwitcher) = true →
        store'.get? p.appFile = (store.get? p.appFile).map (markupText s mode.stamp)) := by
  cases Ran.of_run ran with
  | @completed a _ _ _ _ _ withExamples s₁ s₂ s₃ s₄ _ accepted declared templated entered routed
      marked =>
    obtain rfl : a.project = p := by simpa [projectAt, accepted] using project
    rw [real] at entered routed marked
    have faultless₂ : s₂.faults = [] :=
      (declared.isLater.trans templated.isLater).faultless faultless
    have faultless₃ : s₃.faults = [] := entered.isLater.faultless faultless₂
    have faultless₄ : s₄.faults = [] := routed.isLater.faultless faultless₃
    have faultless₅ : store'.faults = [] := marked.isLater.faultless faultless₄
    -- the first pass found its files as the store held them, and the second finds what it left
    have hfiles := stepFiles settings.builtIn declared templated entered routed marked
    -- so it is accepted for the same project
    obtain ⟨text, m, hmanifest, accepted', already⟩ := declared.accepted_again real accepted
      files.manifest settings.dependency (declared.ne_skipped faultless)
    have hread' : store'.read (Project.manifestAt root) = .ok text := by
      refine Memory.read_of_get? (Memory.faultFor_of_faultless faultless₅ .read _) ?_
      rw [← (eq_of_accept accepted).1, ← Project.manifestFile, hfiles.manifestAfter, hmanifest]
    obtain ⟨answer, later, hrun, ran'⟩ := run_ran s mode' root store'
    cases ran' with
    | refused refused => rw [hread', accepted'] at refused; cases refused
    | @completed a' _ _ _ _ _ _ t₁ t₂ t₃ t₄ _ accepted'' declared' templated' entered' routed'
        marked' =>
      obtain rfl : { a with manifest := m } = a' := by
        rw [hread', accepted'] at accepted''
        exact Except.ok.inj accepted''
      -- and every step finds its work done
      obtain ⟨hexamples, present⟩ := templated.examples_present settings.builtIn real
        (declared.isLater.faultless faultless)
      obtain ⟨rfl, hdeclared⟩ := declared'.of_already already
      have present' : s.options.renderTemplate = true → ExamplesPresent a.project t₁ :=
        fun on text htext => (entered.isLater.trans (routed.isLater.trans marked.isLater)).present _
          (present on text htext)
      obtain ⟨rfl, htemplated, hexamples'⟩ :=
        templated'.of_examples_present settings.builtIn present'
      obtain ⟨rfl, hentered⟩ := entered.again entered' faultless₂ hfiles.entryAfter <| by
        intro text on hget _
        rw [hfiles.entryBefore] at hget
        exact entryText_entryText
          (Import.imports_importLine settings.script.i18nSymbol settings.script.package)
          settings.script.host (files.paired _ (by simp) text hget)
      obtain ⟨rfl, hrouted⟩ := routed.again routed' faultless₃ hfiles.routerAfter <| by
        intro text on hget hswapped
        rw [hfiles.routerBefore] at hget
        obtain ⟨installed, constructed⟩ := swapped _ hswapped
        rw [hexamples, hexamples']
        rw [hexamples] at installed constructed
        exact routerText_routerText settings.script (files.paired _ (by simp) text hget)
          (files.spans text hget) installed constructed
      refine ⟨_, _, _, hrun, fun record hrecord => ?_, marked', faultless₅, fun on => ?_⟩
      · simp only [StepResult.addTo, List.nil_append, List.cons_append, List.mem_cons,
          List.not_mem_nil, or_false] at hrecord
        rcases hrecord with rfl | rfl | rfl | rfl
        · exact hdeclared
        · exact htemplated
        · exact hentered
        · exact hrouted
      · rw [on] at marked
        rw [← hfiles.appBefore]
        exact marked.get?_edited faultless₄

end

/-- **A second pass changes nothing**, in whichever mode it is run: it answers a report of steps
    that are all unchanged or skipped, and leaves the store with its log as the first one did.  It
    does so exactly where the first one halved no switcher. -/
theorem run_again (s : Settings) (mode mode' : Mode) (root : Path) (store : Memory) {p : Project}
    {report : Report} {store' : Memory} (settings : Repeatable s) (faultless : store.faults = [])
    (project : projectAt s root store = some p) (files : RepeatableOn s p store)
    (real : mode.dryRun = false)
    (ran : (run s mode root : StateM Memory (Except Failure Report)) store = (.ok report, store'))
    (swapped : RouterSwapped s p store') :
    (∃ report', (run s mode' root : StateM Memory (Except Failure Report)) store' =
        (.ok report', store') ∧ ∀ record ∈ report'.steps, record.outcome ≠ .modified) ↔
      ∀ text ∈ store.get? p.appFile, ¬ HalvesSwitcher s mode.stamp text := by
  obtain ⟨front, r, later, hrun, hfront, marked, faultless', left⟩ :=
    run_again_front settings faultless project files real ran swapped
  constructor
  · rintro ⟨report', hagain, unmodified⟩ text htext ⟨on, inserted, hspan⟩
    obtain ⟨hreport, -⟩ := Prod.mk.inj (hrun.symm.trans hagain)
    obtain rfl := Except.ok.inj hreport
    have wanted : (s.options.localizeLinks || s.options.addLanguageSwitcher) = true := by simp [on]
    rw [wanted] at marked
    have hread : store'.read p.appFile = .ok (markupText s mode.stamp text) := by
      refine Memory.read_of_get? (Memory.faultFor_of_faultless faultless' .read _) ?_
      rw [left wanted, htext]
      rfl
    have hlast : r.outcome ≠ .modified :=
      unmodified ⟨.markup, r.outcome, r.files⟩ (by simp [StepResult.addTo])
    exact markupText_spanSwitcher settings.component (files.unmarked text htext) on inserted hspan
      mode'.stamp (marked.same_of_unmodified faultless' hlast hread)
  · intro whole
    obtain ⟨rfl, hlast⟩ := marked.of_fixed fun text read wanted => by
      have hleft := (Memory.get?_of_read read).symm.trans (left wanted)
      obtain ⟨old, hold, rfl⟩ := Option.map_eq_some_iff.mp hleft.symm
      exact markupText_again settings.component (files.unmarked old hold)
        (fun on inserted hspan => whole old hold ⟨on, inserted, hspan⟩) mode'.stamp
    refine ⟨_, hrun, fun record hrecord => ?_⟩
    rcases List.mem_append.mp hrecord with hrecord | hrecord
    · exact hfront record hrecord
    · rw [List.mem_singleton.mp hrecord]
      exact hlast

/-- A second pass over a small project whose language switcher has the tag `span`: there is a `span`
    already, so none was written. -/
theorem run_again_sample :
    let s : Settings := { options := { renderTemplate := false, addLanguageSwitcher := true }
                          router := { switcherTag := "span" } }
    let store := Sample.smallStore [("src/main.js", "new Vue(\x7b\n\x7d)\n"),
      ("src/router/index.js", "Vue.use(VueRouter)\nnew VueRouter()\n"),
      ("src/App.vue", "<div>\n  <span>en</span> <router-link/>\n</div>\n")]
    let first := (run s {} Sample.root : StateM Memory (Except Failure Report)) store
    ∃ report, (run s {} Sample.root : StateM Memory (Except Failure Report)) first.2 =
        (.ok report, first.2) ∧ ∀ record ∈ report.steps, record.outcome ≠ .modified := by
  intro s store first
  obtain ⟨report, store', hrun⟩ := run_ok s {} Sample.root store (by decide +kernel)
  obtain rfl : first.2 = store' := congrArg Prod.snd hrun
  exact (run_again s {} {} _ _ (p := ⟨Sample.root, .javascript, some 2⟩) (by decide +kernel) rfl
    (by decide +kernel) (by decide +kernel) rfl hrun (by decide +kernel)).mpr (by decide +kernel)

/-- Without the two conditions on the language switcher and on the install call a second pass can
    go on: a switcher with the tag `span` ends at the `span` inside it, and behind it a link tag is
    renamed; and an import that was added inside of the install call goes with it. -/
theorem run_again_differs :
    (let s : Settings :=
        { options := { renderTemplate := false, addLanguageSwitcher := true, injectI18n := false }
          router := { switcherTag := "span" } }
      let p : Project := ⟨Sample.root, .javascript, some 2⟩
      let store := Sample.smallStore [("src/App.vue", "<div id=\"nav\"></div>\n")]
      let first := (run s {} Sample.root : StateM Memory (Except Failure Report)) store
      let second := (run s {} Sample.root : StateM Memory (Except Failure Report)) first.2
      Repeatable s ∧ RepeatableOn s p store ∧
        RouterSwapped s p first.2 ∧ first.1.isOk = true ∧
        second.2.get? p.appFile ≠ first.2.get? p.appFile) ∧
    (let s : Settings :=
        { options :=
            { renderTemplate := false, localizeLinks := false, injectI18n := false } }
      let p : Project := ⟨Sample.root, .javascript, some 2⟩
      let text : Text := "import \x7b\nVue.use(VueRouter, \x7b\n  mode: \x7b\x7d\n\x7d)\n"
      let store := Sample.smallStore [("src/router/index.js", text)]
      let first := (run s {} Sample.root : StateM Memory (Except Failure Report)) store
      let second := (run s {} Sample.root : StateM Memory (Except Failure Report)) first.2
      Repeatable s ∧
        (Script.findInstallCall s.router.host s.router.fromSymbol text).map
          (fun call => Script.spansImport call.body) = some false ∧
        RouterSwapped s p first.2 ∧ first.1.isOk = true ∧
        second.2.get? p.routerFile ≠ first.2.get? p.routerFile) := by
  decide +kernel

end Pass

end RouteLocalizer
