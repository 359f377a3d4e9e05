/-
  What the report of a pass SAYS to be modified, against what the store shows.

  Each step that edits a file is accounted for exactly: its record names its file as modified when
  the file's text is another one afterwards (`Accounted`), for the manifest because a text that
  declares the dependency is not the one it had.  Since the steps' files are apart, and files never
  vanish, the steps' accounts add up to that of the pass.

  One step falls short of this.  A rendering that a fault ends gives up its list of written files,
  so the example files written until then are in the project without being named (`LeftBehind`).

  SPECIFICATION (`run_accounts`): after a real pass that answers a report, whatever fails on the
  way, a path holds another text than before exactly if
  (1) a record of the report names it as modified, or
  (2) it is a file that an unfinished rendering left behind.
  In the second case the report has an error, and says that the step was skipped.
-/
import RouteLocalizer.Proofs.JsonReread

namespace RouteLocalizer

/-! ## What is named -/

/-- Whether a step's record names a file as modified. -/
def Pass.StepResult.Names (r : Pass.StepResult) (path : Path) : Prop :=
  r.outcome = .modified ∧ ∃ file ∈ r.files, file.same path = true

/-- Whether a report names a file as modified. -/
def Report.Names (report : Report) (path : Path) : Prop :=
  ∃ file ∈ report.modifiedFiles, file.same path = true

instance (report : Report) (path : Path) : Decidable (report.Names path) :=
  inferInstanceAs (Decidable (∃ file ∈ report.modifiedFiles, file.same path = true))

/-- What a report names, step by step. -/
theorem Report.names_addTo (r : Pass.StepResult) (step : Step) (report : Report) (path : Path) :
    (r.addTo step report).Names path ↔ report.Names path ∨ r.Names path := by
  simp only [Names, modifiedFiles, Pass.StepResult.addTo, Pass.StepResult.Names,
    List.filter_append, List.flatMap_append, List.mem_append, or_and_right, exists_or]
  refine or_congr_right ?_
  by_cases hmodified : r.outcome = .modified <;> simp [hmodified]

/-! ## Templates -/

namespace Template

/-- After a real rendering the files that are new are those that it lists as written. -/
theorem Rendered.mem_written {dryRun : Bool} {root : Path} {vars : Variables}
    {store store' : Memory} {templates : List Template} {answer : Except Failure Summary}
    (h : Rendered dryRun root vars store templates answer store') (real : dryRun = false)
    {summary : Summary} (ok : answer = .ok summary) (path : Path) :
    (∃ file ∈ summary.written, file.same path = true) ↔
      store.get? path = none ∧ (store'.get? path).isSome = true := by
  induction h generalizing summary with
  | nil =>
    cases ok
    simp only [List.not_mem_nil, false_and, exists_false, false_iff, not_and]
    intro absent present
    rw [absent] at present
    cases present
  | kept _ _ ih =>
    obtain ⟨later, rfl, rfl⟩ := Json.map_eq_ok ok
    show (∃ file ∈ later.written, file.same path = true) ↔ _
    exact ih rfl
  | failed => cases ok
  | @added before middle after t _ _ absent placed later ih =>
    obtain ⟨others, rfl, rfl⟩ := Json.map_eq_ok ok
    have hmiddle := placed.get?_of_ok real rfl path
    simp only [Summary.add, List.exists_mem_cons_iff, ih rfl]
    by_cases hsame : (target root vars t).same path = true
    · -- the file itself: it was not there, and files stay
      rw [if_pos hsame] at hmiddle
      have hbefore : before.get? path = none := by rw [← before.get?_congr hsame, absent]
      have hafter : (after.get? path).isSome = true :=
        later.isLater.present path (by rw [hmiddle]; rfl)
      simp [hsame, hbefore, hafter]
    · rw [if_neg hsame] at hmiddle
      simp [hsame, hmiddle]

end Template

/-- A path is that of one edited file at most, so of four edits one behind the other at most one
    changes what it holds. -/
theorem Project.changed_once (p : Project) (path : Path) {t₀ t₁ t₂ t₃ t₄ : Option Text}
    (manifest : p.manifestFile.same path = false → t₁ = t₀)
    (entry : p.entryFile.same path = false → t₂ = t₁)
    (router : p.routerFile.same path = false → t₃ = t₂)
    (app : p.appFile.same path = false → t₄ = t₃) :
    t₄ ≠ t₀ ↔ ((t₁ ≠ t₀ ∨ t₂ ≠ t₁) ∨ t₃ ≠ t₂) ∨ t₄ ≠ t₃ := by
  obtain ⟨hme, hmr, hma, her, hea, hra⟩ := p.filesApart
  have other : ∀ {f g : Path}, f.same g = false → f.same path = true → g.same path = false := by
    intro f g hfg hf
    rw [Path.same_comm, ← Path.same_congr hf, hfg]
  cases hmanifest : p.manifestFile.same path with
  | true =>
    simp [entry (other hme hmanifest), router (other hmr hmanifest), app (other hma hmanifest)]
  | false =>
    cases hentry : p.entryFile.same path with
    | true => simp [manifest hmanifest, router (other her hentry), app (other hea hentry)]
    | false =>
      cases hrouter : p.routerFile.same path with
      | true => simp [manifest hmanifest, entry hentry, app (other hra hrouter)]
      | false => simp [manifest hmanifest, entry hentry, router hrouter]

namespace Pass

/-! ## The steps -/

/-- A step that is accounted for: its record names the files that changed. -/
def Accounted (store store' : Memory) (r : StepResult) : Prop :=
  ∀ path, r.Names path ↔ store'.get? path ≠ store.get? path

/-- A step that left everything as it was, and says so. -/
theorem Accounted.of_kept {store store' : Memory} {r : StepResult} (h : r.outcome ≠ .modified)
    (kept : ∀ path, store'.get? path = store.get? path) : Accounted store store' r :=
  fun path => ⟨fun named => absurd named.1 h, fun changed => absurd (kept path) changed⟩

/-- A step that wrote a new text to a file, and names it. -/
theorem Accounted.of_written {store store' : Memory} {file : Path} {old new : Text}
    {notes : List Diagnostic} (hold : store.get? file = some old)
    (hnew : store'.get? file = some new) (changed : new ≠ old)
    (frame : ∀ path, file.same path = false → store'.get? path = store.get? path) :
    Accounted store store' ⟨.modified, [file], notes⟩ := by
  intro path
  constructor
  · rintro ⟨-, own, hown, hsame⟩ heq
    obtain rfl := List.mem_singleton.mp hown
    rw [← store.get?_congr hsame, ← store'.get?_congr hsame, hold, hnew] at heq
    exact changed (Option.some.inj heq)
  · intro hne
    refine ⟨rfl, file, List.mem_singleton_self _, ?_⟩
    cases hsame : file.same path with
    | true => rfl
    | false => exact absurd (frame path hsame) hne

theorem Saved.accounted {store store' : Memory} {dryRun : Bool} {file : Path} {old new : Text}
    {outcome : Outcome} {notes notes' : List Diagnostic}
    (h : Saved store dryRun file new outcome notes store') (real : dryRun = false)
    (hold : store.get? file = some old) (changed : new ≠ old) :
    Accounted store store' ⟨outcome, [file], notes'⟩ := by
  cases h with
  | pretended dry => rw [real] at dry; cases dry
  | written =>
    refine .of_written hold (Memory.get?_set_self _ _ _) changed fun path hne => ?_
    rw [Memory.get?_set_of_ne _ _ hne, Memory.get?_logged]
  | refused => exact .of_kept (by simp) fun _ => rfl

theorem Edited.accounted {wanted : Bool} {store store' : Memory} {dryRun : Bool} {file : Path}
    {remedy : Text} {edit : Text → Edit} {r : StepResult}
    (h : Edited wanted store dryRun file remedy edit r store') (real : dryRun = false) :
    Accounted store store' r := by
  cases h with
  | unwanted => exact .of_kept (by simp) fun _ => rfl
  | unread => exact .of_kept (by simp) fun _ => rfl
  | unchanged => exact .of_kept (by simp) fun _ => rfl
  | saved _ read changed saved => exact saved.accounted real (Memory.get?_of_read read) changed

theorem Declared.accounted {s : Settings} {mode : Mode} {a : Accepted} {store store' : Memory}
    {r : StepResult} (h : Declared s mode a store r store') (real : mode.dryRun = false)
    {old : Text} (hold : store.get? a.project.manifestFile = some old)
    (parsed : Manifest.parse old = .ok a.manifest) : Accounted store store' r := by
  cases h with
  | already => exact .of_kept (by simp) fun _ => rfl
  | saved declared saved => exact saved.accounted real hold (Manifest.toText_ne parsed declared)

/-- A templates step names the files that are new, unless it was not completed.  Then it names none,
    and there is an error. -/
theorem Templated.names_iff {s : Settings} {mode : Mode} {p : Project} {store store' : Memory}
    {r : StepResult} {withExamples : Bool} (h : Templated s mode p store r withExamples store')
    (real : mode.dryRun = false) (path : Path) :
    (r.Names path → store.get? path = none ∧ (store'.get? path).isSome = true) ∧
      (store.get? path = none → (store'.get? path).isSome = true →
        r.Names path ∨ r.outcome = .skipped ∧ ∃ d ∈ r.notes, d.level = .error) := by
  cases h with
  | unwanted =>
    refine ⟨fun named => (nomatch named.1), fun absent present => ?_⟩
    rw [absent] at present
    cases present
  | noSource =>
    refine ⟨fun named => (nomatch named.1), fun absent present => ?_⟩
    rw [absent] at present
    cases present
  | failed =>
    exact ⟨fun named => (nomatch named.1), fun _ _ => .inr ⟨rfl, _, List.mem_singleton_self _, rfl⟩⟩
  | @rendered _ _ summary _ _ rendered =>
    have hwritten := rendered.mem_written real rfl path
    refine ⟨fun named => hwritten.mp named.2, fun absent present => .inl ?_⟩
    obtain ⟨file, hfile, hsame⟩ := hwritten.mpr ⟨absent, present⟩
    refine ⟨?_, file, hfile, hsame⟩
    have hne : summary.written ≠ [] := List.ne_nil_of_mem hfile
    simp [hne]

/-! ## The whole pass -/

/-- A new file that a rendering left behind which a fault ended. -/
structure LeftBehind (store store' : Memory) (report : Report) (path : Path) : Prop where
  unfinished : report.outcome? .templates = some .skipped
  reported : report.hasErrors = true
  absent : store.get? path = none
  present : (store'.get? path).isSome = true

/-- **What changed is what the report names**, and what an unfinished rendering left behind: in
    every real pass that answers a report, whatever fails on the way. -/
theorem run_accounts (s : Settings) (mode : Mode) (root : Path) (store : Memory) {report : Report}
    {store' : Memory} (real : mode.dryRun = false)
    (ran : (run s mode root : StateM Memory (Except Failure Report)) store =
      (.ok report, store')) (path : Path) :
    store'.get? path ≠ store.get? path ↔
      report.Names path ∨ LeftBehind store store' report path := by
  cases Ran.of_run ran with
  | @completed a manifest templates entry router markup _ s₁ s₂ s₃ s₄ _ accepted declared templated
      entered routed marked =>
    obtain ⟨hroot, text, hread, parsed⟩ := eq_of_accept accepted
    have hfile : Project.manifestAt root = a.project.manifestFile := by
      rw [Project.manifestFile, hroot]
    rw [hfile] at hread
    have hm := declared.accounted real (Memory.get?_of_read hread) parsed path
    have he := entered.accounted real path
    have hr := routed.accounted real path
    have ha := marked.accounted real path
    obtain ⟨hnamed, hadded⟩ := templated.names_iff real path
    have hstart : ¬ Report.Names { diagnostics := a.notes, dryRun := mode.dryRun } path := by
      simp [Report.Names, Report.modifiedFiles]
    simp only [Report.names_addTo, hstart, false_or]
    cases hold : store.get? path with
    | none =>
      have h₁ : s₁.get? path = none := by
        rw [declared.get?_of_ne ?_, hold]
        rw [Bool.eq_false_iff]
        intro hsame
        rw [← store.get?_congr hsame, Memory.get?_of_read hread] at hold
        cases hold
      cases hnew : s₂.get? path with
      | none =>
        -- no later step makes a file, so nothing happened at this path
        have h₃ := entered.get?_of_absent hnew
        have h₄ := routed.get?_of_absent h₃
        have h₅ := marked.get?_of_absent h₄
        have htemplates : ¬ templates.Names path := fun h => by simpa [hnew] using (hnamed h).2
        have hbehind : ¬ LeftBehind store store' (markup.addTo .markup <| router.addTo .router <|
            entry.addTo .entry <| templates.addTo .templates <| manifest.addTo .manifest
              { diagnostics := a.notes, dryRun := mode.dryRun }) path :=
          fun h => by simpa [h₅] using h.present
        simp [hm, he, hr, ha, hold, h₁, hnew, h₃, h₄, h₅, htemplates, hbehind]
      | some new =>
        -- the file is new, and stays
        have hsome : (store'.get? path).isSome = true :=
          (entered.isLater.trans (routed.isLater.trans marked.isLater)).present path
            (by rw [hnew]; rfl)
        refine iff_of_true (fun h => by simp [h] at hsome) ?_
        rcases hadded h₁ (by rw [hnew]; rfl) with hnames | ⟨hskipped, d, hd, herror⟩
        · exact .inl (.inl (.inl (.inl (.inr hnames))))
        · refine .inr ⟨?_, ?_, hold, hsome⟩
          · simp [Report.outcome?, StepResult.addTo, hskipped]
          · simp only [Report.hasErrors, StepResult.addTo, List.any_eq_true, decide_eq_true_eq]
            exact ⟨d, by simp [hd], herror⟩
    | some old =>
      have hpresent : (s₁.get? path).isSome = true :=
        declared.isLater.present path (by rw [hold]; rfl)
      obtain ⟨between, hbetween⟩ := Option.isSome_iff_exists.mp hpresent
      have h₂ : s₂.get? path = s₁.get? path := by
        rw [hbetween, templated.get?_of_present hbetween]
      have htemplates : ¬ templates.Names path := fun h => by simpa [hbetween] using (hnamed h).1
      have hbehind : ∀ report, ¬ LeftBehind store store' report path := fun report h => by
        simpa [hold] using h.absent
      simp only [hm, he, hr, ha, htemplates, hbehind, h₂, or_false, ← hold]
      exact a.project.changed_once path declared.get?_of_ne
        (fun hne => (entered.get?_of_ne hne).trans h₂) routed.get?_of_ne marked.get?_of_ne

/-- The account of a pass over a sample project with a file that cannot be written. -/
theorem run_accounts_sample :
    let store := { Sample.store .javascript with
      faults := [⟨.write, Sample.root.join ⟨"src/App.vue"⟩, ⟨false, "permission denied"⟩⟩] }
    ∃ report store', (run {} {} Sample.root : StateM Memory (Except Failure Report)) store =
        (.ok report, store') ∧
      ∀ path, store'.get? path ≠ store.get? path ↔
        report.Names path ∨ LeftBehind store store' report path := by
  intro store
  obtain ⟨report, store', hrun⟩ := run_ok {} {} Sample.root store (by decide +kernel)
  exact ⟨report, store', hrun, run_accounts {} {} _ store rfl hrun⟩

/-- The first example file is written, the second one cannot be: the first one is in the project,
    and the report does not name it. -/
theorem run_leaves_behind :
    let s : Settings := { options := { localizeLinks := false, injectI18n := false } }
    let file (relative : Text) : Path := Sample.root.join ⟨relative⟩
    let store := { Sample.smallStore [] with
      faults := [⟨.write, file "src/lang/translations/en.json", ⟨false, "disk full"⟩⟩] }
    let done := (run s {} Sample.root : StateM Memory (Except Failure Report)) store
    done.1.map (fun report => decide (report.Names (file "src/lang/translations/index.js"))) =
        .ok false ∧
      done.2.get? (file "src/lang/translations/index.js") ≠
        store.get? (file "src/lang/translations/index.js") := by
  decide +kernel

end Pass

end RouteLocalizer
