/-
  A DRY RUN says what the real one will say.

  The real pass reads a store that it is itself changing, the dry one reads the store as it was.
  The crux is that no step can tell the difference: the files that a pass edits are pairwise
  apart, and a template goes to a file that is none of them and no other template's target.  So
  every step sees at its own files what the first store holds there, and `editResult` and
  `predicted` say what a step answers by that alone, where writing cannot fail.

  SPECIFICATION (`dryRun_predicts`): reading may fail, writing may not, and templates go to files of
  their own; then
  (1) the dry pass leaves the store as it is, its log included;
  (2) it answers as the real one: the same refusal, or a report that says the same of every step;
  (3) and so does a real pass at any other time, where a pass does not see the time (`Timeless`).

  A fault that only writing meets cannot be told in advance, and two templates with one target are
  the one case in which the real pass finds a file that the dry one does not.
-/
import RouteLocalizer.Proofs.Clock
import RouteLocalizer.Proofs.Refusal
import RouteLocalizer.Sample

namespace RouteLocalizer

/-! ## Templates -/

namespace Template

/-- What becomes of templates with different targets, by which of the targets are there. -/
def predicted (store : Memory) (root : Path) (vars : Variables) : List Template → Summary
  | [] => {}
  | t :: rest =>
    let file := target root vars t
    let later := predicted store root vars rest
    if (store.get? file).isSome then later.keep file else later.add file

/-- What is predicted depends on what stands at the targets only. -/
theorem predicted_congr {store store' : Memory} {root : Path} {vars : Variables}
    {templates : List Template}
    (h : ∀ t ∈ templates, store'.get? (target root vars t) = store.get? (target root vars t)) :
    predicted store' root vars templates = predicted store root vars templates := by
  induction templates with
  | nil => rfl
  | cons t rest ih =>
    simp only [predicted, h t List.mem_cons_self, ih fun u hu => h u (List.mem_cons_of_mem _ hu)]

/-- Placing a file changes nothing at the others. -/
theorem Placed.get?_of_ne {dryRun : Bool} {store store' : Memory} {file other : Path} {text : Text}
    (h : Placed dryRun store file text (.ok ()) store') (hne : file.same other = false) :
    store'.get? other = store.get? other := by
  cases dryRun with
  | true => rw [(h.dry rfl).2]
  | false => rw [h.get?_of_ok rfl rfl, hne]; rfl

/-- Where writing cannot fail, templates with different targets are rendered as predicted, in a
    dry run and in a real one. -/
theorem Rendered.eq_predicted {dryRun : Bool} {root : Path} {vars : Variables}
    {store store' : Memory} {templates : List Template} {answer : Except Failure Summary}
    (h : Rendered dryRun root vars store templates answer store')
    (reads : ∀ f ∈ store.faults, f.call = .read)
    (apart : templates.Pairwise fun t u =>
      (target root vars t).same (target root vars u) = false) :
    answer = .ok (predicted store root vars templates) := by
  induction h with
  | nil => rfl
  | kept present _ ih =>
    rw [ih reads (List.pairwise_cons.mp apart).2]
    simp [predicted, present, Except.map]
  | failed _ placed => cases placed.ok_of_writable reads
  | added absent placed _ ih =>
    obtain ⟨hfirst, hrest⟩ := List.pairwise_cons.mp apart
    rw [ih (by rw [placed.isLater.faults]; exact reads) hrest]
    have hlater := predicted_congr fun u hu => placed.get?_of_ne (hfirst u hu)
    simp [predicted, absent, Except.map, hlater]

end Template

namespace Pass

/-! ## The templates step -/

/-- Where writing cannot fail, the templates step says the same in two passes that find the same
    files at its targets. -/
theorem Templated.result_unique {s : Settings} {mode mode' : Mode} {p : Project}
    {store later store' later' : Memory} {r r' : StepResult} {withExamples withExamples' : Bool}
    (h : Templated s mode p store r withExamples store')
    (h' : Templated s mode' p later r' withExamples' later') (day : mode'.day = mode.day)
    (reads : ∀ f ∈ store.faults, f.call = .read) (isLater : Memory.IsLater store later)
    (apart : ∀ templates, sourcesIn s store = .ok templates →
      Template.TargetsApart s mode.day p templates)
    (same : ∀ templates, sourcesIn s store = .ok templates → ∀ t ∈ templates,
      later.get? (Template.target p.root (Template.standardValues s p.script mode.day) t) =
        store.get? (Template.target p.root (Template.standardValues s p.script mode.day) t)) :
    r = r' ∧ withExamples = withExamples' := by
  have hsources : sourcesIn s later = sourcesIn s store := sourcesIn_congr s isLater.outside
  have reads' : ∀ f ∈ later.faults, f.call = .read := by rw [isLater.faults]; exact reads
  cases h with
  | unwanted off =>
    cases h' with
    | unwanted => exact ⟨rfl, rfl⟩
    | noSource on => rw [off] at on; cases on
    | failed on => rw [off] at on; cases on
    | rendered on => rw [off] at on; cases on
  | noSource on sources =>
    cases h' with
    | unwanted off => rw [off] at on; cases on
    | noSource _ sources' => rw [hsources, sources] at sources'; cases sources'; exact ⟨rfl, rfl⟩
    | failed _ sources' => rw [hsources, sources] at sources'; cases sources'
    | rendered _ sources' => rw [hsources, sources] at sources'; cases sources'
  | failed on sources rendered => cases rendered.eq_predicted reads (apart _ sources).pairwise
  | rendered on sources rendered =>
    have hsummary := rendered.eq_predicted reads (apart _ sources).pairwise
    cases h' with
    | unwanted off => rw [off] at on; cases on
    | noSource _ sources' => rw [hsources, sources] at sources'; cases sources'
    | failed _ sources' rendered' =>
      rw [hsources, sources] at sources'
      cases sources'
      rw [day] at rendered'
      cases rendered'.eq_predicted reads' (apart _ sources).pairwise
    | rendered _ sources' rendered' =>
      rw [hsources, sources] at sources'
      cases sources'
      rw [day] at rendered'
      have hsummary' := rendered'.eq_predicted reads' (apart _ sources).pairwise
      rw [Template.predicted_congr (same _ sources)] at hsummary'
      cases hsummary
      cases hsummary'
      exact ⟨rfl, rfl⟩

/-! ## The steps that edit a file -/

/-- Where only reading can fail, no write is refused. -/
theorem writable_of_reads {store : Memory} (reads : ∀ f ∈ store.faults, f.call = .read)
    (file : Path) : store.faultFor .write file = none :=
  Memory.faultFor_eq_none (fun f hf => by rw [reads f hf]; decide) file

/-- Where writing cannot fail, an edit says the same in two passes that read the same. -/
theorem Edited.result_unique {wanted dryRun dryRun' : Bool} {store later store' later' : Memory}
    {file : Path} {remedy : Text} {edit : Text → Edit} {r r' : StepResult}
    (h : Edited wanted store dryRun file remedy edit r store')
    (h' : Edited wanted later dryRun' file remedy edit r' later')
    (reads : ∀ f ∈ store.faults, f.call = .read) (isLater : Memory.IsLater store later)
    (same : later.get? file = store.get? file) : r = r' := by
  have reads' : ∀ f ∈ later.faults, f.call = .read := by rw [isLater.faults]; exact reads
  rw [h.result_eq (writable_of_reads reads file), h'.result_eq (writable_of_reads reads' file),
    Memory.read_congr isLater.faults same]

/-! ## The whole pass -/

/-- A report without the mark of a dry run. -/
def observed (report : Report) : List StepRecord × List Diagnostic :=
  (report.steps, report.diagnostics)

/-- The templates of a pass go to different files, none of which it edits.  The built-in ones
    do. -/
def SourcesApart (s : Settings) (day : Day) (root : Path) (store : Memory) : Prop :=
  ∀ p, projectAt s root store = some p → s.templates.dir ≠ none →
    ∀ templates, sourcesIn s store = .ok templates → Template.TargetsApart s day p templates

theorem SourcesApart.targetsApart {s : Settings} {day : Day} {root : Path} {store : Memory}
    (h : SourcesApart s day root store) {p : Project} (hp : projectAt s root store = some p)
    {templates : List Template} (sources : sourcesIn s store = .ok templates) :
    Template.TargetsApart s day p templates := by
  by_cases hdir : s.templates.dir = none
  · simp only [sourcesIn, hdir, Except.ok.injEq] at sources
    subst sources
    exact Template.examples_apart s day p
  · exact h p hp hdir templates sources

/-- A dry run leaves the store as it is, log and all. -/
theorem Ran.store_of_dry {s : Settings} {mode : Mode} {root : Path} {store store' : Memory}
    {answer : Except Failure Report} (h : Ran s mode root store answer store')
    (dry : mode.dryRun = true) : store' = store := by
  cases h with
  | refused => rfl
  | completed _ declared templated entered routed marked =>
    rw [marked.store_of_dry dry, routed.store_of_dry dry, entered.store_of_dry dry,
      templated.store_of_dry dry, declared.store_of_dry dry]

/-- **A dry run predicts the real one.**  It writes nothing, fails with the same failure, and its
    report says the same of every step.  The real one may come at another time, where a pass does
    not see the time: it does the same then. -/
theorem dryRun_predicts (s : Settings) (stamp : Nat) (day : Day) (root : Path) (store : Memory)
    (reads : ∀ f ∈ store.faults, f.call = .read) (apart : SourcesApart s day root store) :
    let dry := (run s ⟨true, stamp, day⟩ root : StateM Memory (Except Failure Report)) store
    let real := (run s ⟨false, stamp, day⟩ root : StateM Memory (Except Failure Report)) store
    dry.2 = store ∧ dry.1.map observed = real.1.map observed ∧
      ∀ stamp' day', Timeless s day day' root store →
        (run s ⟨false, stamp', day'⟩ root : StateM Memory (Except Failure Report)) store =
          real := by
  intro dry real
  obtain ⟨answer, later, hdry, ran⟩ := run_ran s ⟨true, stamp, day⟩ root store
  obtain ⟨answer', store', hreal, ran'⟩ := run_ran s ⟨false, stamp, day⟩ root store
  have hdry' : dry = (answer, later) := hdry
  have hreal' : real = (answer', store') := hreal
  have later : ∀ stamp' day', Timeless s day day' root store →
      (run s ⟨false, stamp', day'⟩ root : StateM Memory (Except Failure Report)) store = real :=
    fun _ _ timeless => run_sameTime timeless
  rw [hreal'] at later ⊢
  rw [hdry']
  refine ⟨ran.store_of_dry rfl, ?_, later⟩
  cases ran with
  | refused refused =>
    cases ran' with
    | refused refused' => rw [refused] at refused'; cases refused'; rfl
    | completed accepted => rw [refused] at accepted; cases accepted
  | @completed a _ _ _ _ _ _ d₁ d₂ d₃ d₄ _ accepted declared templated entered routed marked =>
    cases ran' with
    | refused refused => rw [accepted] at refused; cases refused
    | @completed a' _ _ _ _ _ _ s₁ s₂ s₃ s₄ _ accepted' declared' templated' entered' routed'
        marked' =>
      obtain rfl : a = a' := by rw [accepted] at accepted'; cases accepted'; rfl
      obtain rfl := (declared.store_of_dry rfl).symm
      obtain rfl := (templated.store_of_dry rfl).symm
      obtain rfl := (entered.store_of_dry rfl).symm
      obtain rfl := (routed.store_of_dry rfl).symm
      have targets : ∀ templates, sourcesIn s store = .ok templates →
          Template.TargetsApart s day a.project templates :=
        fun _ sources => apart.targetsApart (by simp [projectAt, accepted]) sources
      -- the real pass finds at its files what the store held from the start
      obtain ⟨hme, hmr, hma, her, hea, hra⟩ := a.project.filesApart
      have hsources : sourcesIn s s₁ = sourcesIn s store :=
        sourcesIn_congr s declared'.isLater.outside
      have kept : ∀ file ∈ a.project.editedFiles, s₂.get? file = s₁.get? file :=
        fun file hfile => templated'.get?_of_apart fun _ sources t ht =>
          (targets _ (hsources ▸ sources)).edited t ht file hfile
      obtain ⟨-, ke, kr, ka⟩ := a.project.forall_editedFiles.mp kept
      have later₂ := declared'.isLater.trans templated'.isLater
      have later₃ := later₂.trans entered'.isLater
      have later₄ := later₃.trans routed'.isLater
      -- so every step answers what it answers in the dry run
      obtain rfl := declared.result_unique declared' (writable_of_reads reads _)
      obtain ⟨rfl, rfl⟩ := templated.result_unique templated' rfl reads declared'.isLater targets
        fun _ sources t ht => declared'.get?_of_ne <| by
          rw [Path.same_comm]
          exact (targets _ sources).edited t ht _ (by simp [Project.editedFiles])
      obtain rfl := entered.result_unique entered' reads later₂ <| by
        rw [ke, declared'.get?_of_ne hme]
      obtain rfl := routed.result_unique routed' reads later₃ <| by
        rw [entered'.get?_of_ne her, kr, declared'.get?_of_ne hmr]
      obtain rfl := marked.result_unique marked' reads later₄ <| by
        rw [routed'.get?_of_ne hra, entered'.get?_of_ne hea, ka, declared'.get?_of_ne hma]
      rfl

/-- A dry run over a sample project whose router file cannot be read, and a real run on another
    day. -/
theorem dryRun_predicts_sample :
    let store := { Sample.store .javascript with
      faults := [⟨.read, Sample.root.join ⟨"src/router/index.js"⟩, ⟨false, "permission denied"⟩⟩] }
    let dry := (run {} ⟨true, 0, ⟨"2024", "2024-02-29"⟩⟩ Sample.root :
      StateM Memory (Except Failure Report)) store
    let real := (run {} ⟨false, 7, ⟨"2025", "2025-01-01"⟩⟩ Sample.root :
      StateM Memory (Except Failure Report)) store
    dry.2 = store ∧ dry.1.map observed = real.1.map observed := by
  intro store dry real
  have project : projectAt {} Sample.root store = some ⟨Sample.root, .javascript, some 2⟩ := by
    decide +kernel
  have timeless : Timeless {} ⟨"2024", "2024-02-29"⟩ ⟨"2025", "2025-01-01"⟩ Sample.root store := by
    rintro p hp
    obtain rfl := Option.some.inj (project.symm.trans hp)
    exact timelessOn_of_builtIn rfl (by decide) (by decide) (by decide +kernel)
  obtain ⟨hstore, hreport, later⟩ := dryRun_predicts {} 0 ⟨"2024", "2024-02-29"⟩ Sample.root store
    (by simp [store]) fun _ _ hdir => absurd rfl hdir
  exact ⟨hstore, by rw [hreport, ← later 7 ⟨"2025", "2025-01-01"⟩ timeless]⟩

end Pass

end RouteLocalizer
