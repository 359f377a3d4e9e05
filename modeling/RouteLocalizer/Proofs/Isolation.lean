/-
  The ISOLATION of the steps of a pass: a file that cannot be written costs its own step only.

  Two passes are compared, over one store and over the same store with writes to one more file
  refused.  The crux is that the stores they go through differ in that file alone (`ApartAt`), and
  that no step but the file's own looks at what it holds: the manifest is read once, before any
  step, and the example files ask only whether a file is there, which it is in both stores.  So a
  program is `Blind` to the file when it answers the same over two such stores and leaves two such
  stores behind, and blindness is inherited by sequences of programs.

  PROGRAM: `run` is the checks and five steps one behind the other; four of the steps have a file of
  their own (`fileOf`), the example files have none.
  SPECIFICATION (`run_isolated`): whatever else is planned to fail,
  (1) both passes end the same way, and their reports say the same of every step but the file's own;
  (2) every other file comes out the same;
  (3) the file itself stays as it was;
  (4) and the second pass may be run at any other time, where a pass does not see the time
      (`Timeless`): refusing a write changes nothing that is read (`read_refusing`), so it changes
      nothing of that either.

  A step with a file of its own is `Contained`: blind to all other files, and at its own file it
  leaves the two stores apart at most there.  For each step this is four facts about it, and three
  of them are those that every saving has (`Saved`, `Edited`).
-/
import RouteLocalizer.Proofs.Clock
import RouteLocalizer.Proofs.Frame

namespace RouteLocalizer

namespace Memory

/-- The store with every write to one more file refused. -/
def refusing (store : Memory) (file : Path) (fault : FileFault) : Memory :=
  { store with faults := ⟨.write, file, fault⟩ :: store.faults }

/-! ## Two stores that differ in one file -/

/-- The second store refuses to write the file and keeps its text; everywhere else the two stores
    are alike. -/
structure ApartAt (file : Path) (fault : FileFault) (kept : Text) (a b : Memory) : Prop where
  outside : b.outside = a.outside
  faults : b.faults = ⟨.write, file, fault⟩ :: a.faults
  alike : ∀ path, file.same path = false → b.get? path = a.get? path
  present : (a.get? file).isSome = true
  kept : b.get? file = some kept

namespace ApartAt

variable {file path : Path} {fault : FileFault} {kept : Text} {a b a' b' : Memory}

theorem refusing (present : a.get? file = some kept) :
    ApartAt file fault kept a (a.refusing file fault) where
  outside := rfl
  faults := rfl
  alike := fun _ _ => rfl
  present := by simp [present]
  kept := present

/-- The planned faults are those of both stores, but for writes to the file. -/
theorem faultFor_eq (h : ApartAt file fault kept a b) {call : FileCall}
    (other : call ≠ .write ∨ file.same path = false) :
    b.faultFor call path = a.faultFor call path := by
  have hskip : (decide (FileCall.write = call) && file.same path) = false := by
    rcases other with hcall | hpath
    · simp [Ne.symm hcall]
    · simp [hpath]
  simp [faultFor, h.faults, hskip]

/-- The second store refuses to write the file. -/
theorem refused (h : ApartAt file fault kept a b) (same : file.same path = true) :
    b.faultFor .write path = some fault := by
  simp [faultFor, h.faults, same]

/-- The file is there in both stores, so the same files are there. -/
theorem isSome_eq (h : ApartAt file fault kept a b) (path : Path) :
    (b.get? path).isSome = (a.get? path).isSome := by
  cases hsame : file.same path with
  | false => rw [h.alike path hsame]
  | true => rw [← b.get?_congr hsame, ← a.get?_congr hsame, h.kept, h.present]; rfl

/-- Any other file is read alike. -/
theorem read_eq (h : ApartAt file fault kept a b) (apart : file.same path = false) :
    b.read path = a.read path := by
  simp only [read, h.faultFor_eq (.inr apart), h.alike path apart]

/-- What a program changes at the file itself keeps two stores apart at most there. -/
theorem of_own (h : ApartAt file fault kept a b) (ha : IsLater a a') (hb : IsLater b b')
    (frame : ∀ path, file.same path = false →
      a'.get? path = a.get? path ∧ b'.get? path = b.get? path)
    (held : b'.get? file = b.get? file) : ApartAt file fault kept a' b' where
  outside := by rw [hb.outside, ha.outside, h.outside]
  faults := by rw [hb.faults, ha.faults, h.faults]
  alike := fun path hpath => by
    obtain ⟨hleft, hright⟩ := frame path hpath
    rw [hleft, hright, h.alike path hpath]
  present := ha.present file h.present
  kept := held.trans h.kept

/-- Logging one call in both stores keeps them apart at the file only. -/
theorem logged (h : ApartAt file fault kept a b) (call : FileCall) (path : Path) :
    ApartAt file fault kept (a.logged call path) (b.logged call path) :=
  ⟨h.outside, h.faults, h.alike, h.present, h.kept⟩

/-- So does setting one text in both, at another file. -/
theorem set (h : ApartAt file fault kept a b) (apart : file.same path = false) (text : Text) :
    ApartAt file fault kept (a.set path text) (b.set path text) where
  outside := h.outside
  faults := h.faults
  alike := fun other hother => by rw [get?_set, get?_set, h.alike other hother]
  present := (isLater_set a path text).present file h.present
  kept := by rw [get?_set_of_ne _ _ (by rw [Path.same_comm]; exact apart), h.kept]

end ApartAt

/-! ## Programs that do not see the file -/

/-- A program that answers the same over two stores that differ in a file only, and leaves two
    such stores behind. -/
def Blind {α : Type} (file : Path) (x : StateM Memory α) : Prop :=
  ∀ fault kept a b, ApartAt file fault kept a b →
    (x b).1 = (x a).1 ∧ ApartAt file fault kept (x a).2 (x b).2

namespace Blind

variable {α β : Type} {file path : Path}

/-- What a blind program does to two stores, with names for all of it. -/
theorem answers {x : StateM Memory α} (h : Blind file x) {fault : FileFault} {kept : Text}
    {a b : Memory} (apart : ApartAt file fault kept a b) :
    ∃ r a' r' b', x a = (r, a') ∧ x b = (r', b') ∧ r = r' ∧ ApartAt file fault kept a' b' := by
  obtain ⟨hanswer, hlater⟩ := h fault kept a b apart
  exact ⟨_, _, _, _, rfl, rfl, hanswer.symm, hlater⟩

/-- A program that only answers sees nothing. -/
theorem pure (answer : α) : Blind file (Pure.pure answer : StateM Memory α) :=
  fun _ _ _ _ h => ⟨rfl, h⟩

/-- **Blindness is inherited by sequences.** -/
theorem bind {x : StateM Memory α} {f : α → StateM Memory β} (hx : Blind file x)
    (hf : ∀ answer, Blind file (f answer)) : Blind file (x >>= f) := by
  intro fault kept a b h
  obtain ⟨hanswer, hmiddle⟩ := hx fault kept a b h
  simp only [bind_apply, hanswer]
  exact hf _ fault kept _ _ hmiddle

/-- Reading another file does not see the file. -/
theorem read (apart : file.same path = false) :
    Blind file (Files.read path : StateM Memory (Except FileFault Text)) :=
  fun _ _ _ _ h => ⟨h.read_eq apart, h⟩

/-- Asking whether a file is there does not see it, since it is there in both stores. -/
theorem isPresent : Blind file (Files.isPresent path : StateM Memory Bool) :=
  fun _ _ _ _ h => ⟨h.isSome_eq path, h⟩

/-- The directories outside are the same for both. -/
theorem textsBelow : Blind file (Files.textsBelow path :
    StateM Memory (Option (Except FileFault (List (Path × Text))))) :=
  fun _ _ _ _ h => ⟨by simp [Memory.textsBelow, h.outside], h⟩

/-- Making directories does not see it: what is refused are writes. -/
theorem makeDirs :
    Blind file (Files.makeDirs path : StateM Memory (Except FileFault Unit)) := by
  intro fault kept a b h
  have hfault : b.faultFor .makeDirs path = a.faultFor .makeDirs path :=
    h.faultFor_eq (.inl (by decide))
  simp only [makeDirs_apply, Memory.makeDirs, hfault]
  cases a.faultFor .makeDirs path <;> exact ⟨rfl, h.logged .makeDirs path⟩

/-- Writing another file does not see it. -/
theorem write (apart : file.same path = false) (text : Text) :
    Blind file (Files.write path text : StateM Memory (Except FileFault Unit)) := by
  intro fault kept a b h
  have hfault : b.faultFor .write path = a.faultFor .write path := h.faultFor_eq (.inr apart)
  simp only [write_apply, Memory.write, hfault]
  cases a.faultFor .write path with
  | some => exact ⟨rfl, h.logged .write path⟩
  | none => exact ⟨rfl, (h.logged .write path).set apart text⟩

/-- Placing a text at another file is making the directories above and writing. -/
theorem place (apart : file.same path = false) (text : Text) :
    Blind file (Files.place path text : StateM Memory (Except FileFault Unit)) := by
  unfold Files.place
  cases path.parent? with
  | none => exact write apart text
  | some above =>
    refine makeDirs.bind fun answer => ?_
    cases answer with
    | error fault => exact pure _
    | ok _ => exact write apart text

end Blind

end Memory

open Memory

/-! ## The steps of a pass -/

/-- Rendering does not see what a file holds that is there: a template that goes to it is left
    out. -/
theorem Template.render_blind (file : Path) (dryRun : Bool) (root : Path) (vars : Variables)
    (templates : List Template) :
    Blind file (render dryRun root vars templates : StateM Memory (Except Failure Summary)) := by
  induction templates with
  | nil => exact .pure _
  | cons t rest ih =>
    intro fault kept a b h
    rw [render_cons, render_cons]
    simp only [h.isSome_eq]
    by_cases hpresent : (a.get? (target root vars t)).isSome = true
    · obtain ⟨hanswer, hlater⟩ := ih fault kept a b h
      simp only [hpresent, if_true, hanswer]
      exact ⟨trivial, hlater⟩
    · -- a template with nothing at its target goes to another file
      have apart : file.same (target root vars t) = false := by
        rw [Bool.eq_false_iff]
        intro hsame
        rw [← a.get?_congr hsame] at hpresent
        exact hpresent h.present
      simp only [hpresent]
      cases dryRun with
      | true =>
        obtain ⟨hanswer, hlater⟩ := ih fault kept a b h
        exact ⟨by simp [hanswer], hlater⟩
      | false =>
        obtain ⟨hplaced, hmiddle⟩ :=
          Blind.place apart (vars.fill t.content) fault kept a b h
        simp only [Bool.false_eq_true, if_false, hplaced]
        cases (Files.place (target root vars t) (vars.fill t.content) :
            StateM Memory (Except FileFault Unit)) a |>.1 with
        | error fault => exact ⟨rfl, hmiddle⟩
        | ok _ =>
          obtain ⟨hanswer, hlater⟩ := ih fault kept _ _ hmiddle
          exact ⟨by simp [hanswer], hlater⟩

namespace Pass

variable {file own : Path}

/-- Saving another file, where the pass is a real one. -/
theorem save_blind (apart : file.same own = false) (dryRun : Bool) (text : Text) :
    Blind file (save dryRun own text : StateM Memory (Outcome × List Diagnostic)) := by
  cases dryRun with
  | true => exact .pure _
  | false =>
    refine Blind.bind (.write apart text) fun answer => ?_
    cases answer <;> exact .pure _

/-- Editing another file: it is read, and saved when the edit changes it. -/
theorem editFile_blind (apart : file.same own = false) (dryRun : Bool) (remedy : Text)
    (edit : Text → Edit) :
    Blind file (editFile dryRun own remedy edit : StateM Memory StepResult) := by
  refine Blind.bind (.read apart) fun content => ?_
  cases content with
  | error fault => exact .pure _
  | ok text =>
    by_cases hsame : (edit text).text = text
    · simp only [hsame, if_true]
      exact .pure _
    · simp only [hsame, if_false]
      exact .bind (save_blind apart dryRun _) fun _ => .pure _

/-- **The example files are blind to every file**, so they need not be contained. -/
theorem templatesStep_blind (s : Settings) (mode : Mode) (p : Project) (file : Path) :
    Blind file (templatesStep s mode p : StateM Memory (StepResult × Bool)) := by
  have hsource : Blind file (Template.source s : StateM Memory _) := by
    unfold Template.source
    cases s.templates.dir with
    | none => exact .pure _
    | some dir =>
      refine Blind.bind .textsBelow fun texts => ?_
      rcases texts with - | fault | files <;> exact .pure _
  unfold templatesStep
  cases s.options.renderTemplate with
  | false => exact .pure _
  | true =>
    refine Blind.bind hsource fun sources => ?_
    cases sources with
    | error failure => exact .pure _
    | ok templates =>
      refine Blind.bind (Template.render_blind file _ _ _ templates) fun answer => ?_
      cases answer <;> exact .pure _

/-! ## The step of the file itself -/

/-- A refused write leaves everything as it was. -/
theorem Saved.get?_of_refused {store store' : Memory} {dryRun : Bool} {text : Text}
    {outcome : Outcome} {notes : List Diagnostic} {fault : FileFault}
    (h : Saved store dryRun own text outcome notes store')
    (refused : store.faultFor .write own = some fault) (path : Path) :
    store'.get? path = store.get? path := by
  cases h with
  | pretended => rfl
  | written _ writable => rw [refused] at writable; cases writable
  | refused => rfl

/-- A step that edits a file leaves everything as it was, where writing that file is refused. -/
theorem Edited.get?_of_refused {wanted dryRun : Bool} {store store' : Memory} {remedy : Text}
    {edit : Text → Edit} {r : StepResult} {fault : FileFault}
    (h : Edited wanted store dryRun own remedy edit r store')
    (refused : store.faultFor .write own = some fault) (path : Path) :
    store'.get? path = store.get? path := by
  cases h with
  | unwanted => rfl
  | unread => rfl
  | unchanged => rfl
  | saved _ _ _ saved => exact saved.get?_of_refused refused path

/-- A step with a file of its own: it is blind to every other file, and keeps two stores that differ
    in its own file apart at most there. -/
def Contained {α : Type} (own : Path) (x : StateM Memory α) : Prop :=
  ∀ file fault kept a b, ApartAt file fault kept a b →
    (file.same own = false → (x b).1 = (x a).1) ∧ ApartAt file fault kept (x a).2 (x b).2

/-- A step is contained when it is blind to every other file, changes its own file only, and not
    even that where writing it is refused. -/
theorem Contained.of_blind {α : Type} {x : StateM Memory α}
    (blind : ∀ file, file.same own = false → Blind file x)
    (isLater : ∀ store, IsLater store (x store).2)
    (frame : ∀ store path, own.same path = false → (x store).2.get? path = store.get? path)
    (held : ∀ store fault, store.faultFor .write own = some fault → ∀ path,
      (x store).2.get? path = store.get? path) : Contained own x := by
  intro file fault kept a b h
  cases hsame : file.same own with
  | false =>
    obtain ⟨hanswer, hlater⟩ := blind file hsame fault kept a b h
    exact ⟨fun _ => hanswer, hlater⟩
  | true =>
    refine ⟨fun hne => (nomatch hne), h.of_own (isLater a) (isLater b) ?_
      (held b fault (h.refused hsame) file)⟩
    intro path hpath
    have hown : own.same path = false := by rw [← Path.same_congr hsame, hpath]
    exact ⟨frame a path hown, frame b path hown⟩

theorem Contained.pure {α : Type} (own : Path) (answer : α) :
    Contained own (Pure.pure answer : StateM Memory α) :=
  fun _ _ _ _ _ h => ⟨fun _ => rfl, h⟩

/-- Saving a text is contained in the file that it is saved to. -/
theorem save_contained (dryRun : Bool) (own : Path) (text : Text) :
    Contained own (save dryRun own text : StateM Memory (Outcome × List Diagnostic)) := by
  refine .of_blind (fun file apart => save_blind apart dryRun text) (fun store => ?_)
    (fun store path hne => ?_) (fun store fault refused path => ?_)
  all_goals obtain ⟨outcome, notes, store', hsave, saved⟩ := save_saved store dryRun own text
  · rw [hsave]; exact saved.isLater
  · rw [hsave]; exact saved.get?_of_ne hne
  · rw [hsave]; exact saved.get?_of_refused refused path

/-- **A step that edits a file is contained in it**; the three that follow are cases of this. -/
theorem editFile_contained (dryRun : Bool) (own : Path) (remedy : Text) (edit : Text → Edit) :
    Contained own (editFile dryRun own remedy edit : StateM Memory StepResult) := by
  refine .of_blind (fun file apart => editFile_blind apart dryRun remedy edit) (fun store => ?_)
    (fun store path hne => ?_) (fun store fault refused path => ?_)
  all_goals obtain ⟨r, store', hedit, edited⟩ := editFile_edited store dryRun own remedy edit
  · rw [hedit]; exact edited.isLater
  · rw [hedit]; exact edited.get?_of_ne hne
  · rw [hedit]; exact edited.get?_of_refused refused path

theorem entryStep_contained (s : Settings) (mode : Mode) (p : Project) :
    Contained p.entryFile (entryStep s mode p : StateM Memory StepResult) := by
  unfold entryStep
  split
  · exact .pure _ _
  · exact editFile_contained _ _ _ _

theorem routerStep_contained (s : Settings) (mode : Mode) (p : Project) (withExamples : Bool) :
    Contained p.routerFile (routerStep s mode p withExamples : StateM Memory StepResult) :=
  editFile_contained _ _ _ _

theorem markupStep_contained (s : Settings) (mode : Mode) (p : Project) :
    Contained p.appFile (markupStep s mode p : StateM Memory StepResult) := by
  unfold markupStep
  split
  · exact .pure _ _
  · exact editFile_contained _ _ _ _

/-- What a contained step does to two stores, with names for all of it. -/
theorem Contained.answers {α : Type} {x : StateM Memory α} (h : Contained own x) {fault : FileFault}
    {kept : Text} {a b : Memory} (apart : ApartAt file fault kept a b) :
    ∃ r a' r' b', x a = (r, a') ∧ x b = (r', b') ∧ (file.same own = false → r' = r) ∧
      ApartAt file fault kept a' b' := by
  obtain ⟨hanswer, hlater⟩ := h file fault kept a b apart
  exact ⟨_, _, _, _, rfl, rfl, hanswer, hlater⟩

/-- What is made of the answer alone is contained with it. -/
theorem Contained.bind_pure {α β : Type} {x : StateM Memory α} (h : Contained own x) (f : α → β) :
    Contained own (x >>= fun answer => Pure.pure (f answer)) := by
  intro file fault kept a b apart
  obtain ⟨hanswer, hlater⟩ := h file fault kept a b apart
  exact ⟨fun hne => congrArg f (hanswer hne), hlater⟩

/-- The manifest's step saves what was read before, so it need not read again. -/
theorem manifestStep_contained (s : Settings) (mode : Mode) (a : Accepted) :
    Contained a.project.manifestFile
      (manifestStep s mode a : StateM Memory (Except Failure StepResult)) := by
  unfold manifestStep
  dsimp only
  rcases a.manifest.declare s.dependency.name s.dependency.version with
    failure | ⟨manifest, - | -⟩
  · exact .pure _ _
  · exact .pure _ _
  · exact (save_contained mode.dryRun _ manifest.toText).bind_pure _

/-- Behind the checks the manifest's step answers with a result. -/
theorem manifestStep_ok {s : Settings} {mode : Mode} {a : Accepted} {store store' : Memory}
    {answer : Except Failure StepResult} (checked : a.manifest.checkSections = .ok ())
    (h : (manifestStep s mode a : StateM Memory (Except Failure StepResult)) store =
      (answer, store')) : ∃ r, answer = .ok r := by
  obtain ⟨r, later, hstep, -⟩ := manifestStep_declared s mode a store checked
  rw [h] at hstep
  exact ⟨r, (Prod.mk.inj hstep).1⟩

/-! ## The whole pass -/

/-- The file that a step works on; the example files are no file of their own. -/
def fileOf (p : Project) : Step → Option Path
  | .manifest => some p.manifestFile
  | .templates => none
  | .entry => some p.entryFile
  | .router => some p.routerFile
  | .markup => some p.appFile

/-- What a report says of all steps but one. -/
def recordsBut (step : Step) (report : Report) : List StepRecord :=
  report.steps.filter fun record => decide (record.step ≠ step)

/-- Reports that agree but for one step go on to agree when a step is added to both, with one
    result unless it is that step. -/
theorem recordsBut_addTo {step other : Step} {r r' : StepResult} {report report' : Report}
    (result : other ≠ step → r' = r) (before : recordsBut step report' = recordsBut step report) :
    recordsBut step (r'.addTo other report') = recordsBut step (r.addTo other report) := by
  simp only [recordsBut, StepResult.addTo, List.filter_append] at before ⊢
  rw [before]
  by_cases hother : other = step
  · simp [hother]
  · rw [result hother]

/-- Two passes that differ by one step's work on its own file, which the second one leaves as it
    was. -/
structure Isolated (step : Step) (file : Path) (store : Memory)
    (plain faulty : Except Failure Report × Memory) : Prop where
  answers : faulty.1.map (recordsBut step) = plain.1.map (recordsBut step)
  elsewhere : ∀ path, file.same path = false → faulty.2.get? path = plain.2.get? path
  untouched : faulty.2.get? file = store.get? file

/-- What stands behind the root in the file of a step. -/
def behindRoot (script : Script) : Step → List Component
  | .manifest => [.name "package.json"]
  | .templates => []
  | .entry => [.name "src", .name ("main." ++ script.extension)]
  | .router => [.name "src", .name "router", .name ("index." ++ script.extension)]
  | .markup => [.name "src", .name "App.vue"]

/-- The file of a step is found below the root of the project. -/
theorem components_fileOf {p : Project} {step : Step} {file : Path}
    (h : fileOf p step = some file) :
    file.components = p.root.components ++ behindRoot p.script step := by
  have hall := p.components_editedFiles
  simp only [Project.editedFiles, Project.editedComponents, List.map_cons, List.map_nil,
    List.cons.injEq, and_true] at hall
  obtain ⟨hmanifest, hentry, hrouter, happ⟩ := hall
  cases step with
  | manifest => cases h; exact hmanifest
  | templates => cases h
  | entry => cases h; exact hentry
  | router => cases h; exact hrouter
  | markup => cases h; exact happ

/-- Below one root the files of different steps are apart, also when one is that of a typed project
    and the other is not. -/
theorem fileOf_apart {p q : Project} (hroot : p.root = q.root) {step other : Step}
    (hne : other ≠ step) {file own : Path} (hfile : fileOf p step = some file)
    (hown : fileOf q other = some own) : file.same own = false := by
  have hbehind : ∀ script script',
      behindRoot script step ≠ behindRoot script' other := by
    intro script script'
    cases script <;> cases script' <;> cases step <;> cases other <;>
      first | exact absurd rfl hne | decide
  simp only [Path.same, components_fileOf hfile, components_fileOf hown, hroot,
    List.append_cancel_left_eq, hbehind, decide_false]

/-- Refusing writes to a file changes nothing that is read. -/
theorem read_refusing (store : Memory) (file : Path) (fault : FileFault) (path : Path) :
    (store.refusing file fault).read path = store.read path := by
  simp [Memory.read, Memory.refusing, Memory.faultFor, Memory.get?]

/-- Nor does it change whether the time is seen. -/
theorem Timeless.refusing {s : Settings} {day day' : Day} {root : Path} {store : Memory}
    (h : Timeless s day day' root store) (file : Path) (fault : FileFault) :
    Timeless s day day' root (store.refusing file fault) := by
  intro p hp
  rw [projectAt, read_refusing] at hp
  obtain ⟨templates, tags, component, rendered⟩ := h p hp
  exact ⟨templates, tags, component, rendered⟩

/-- **A refused write costs its own step only.**  Whatever else fails, the pass ends the same way,
    every other file comes out the same, and the report says the same of every other step; the file
    itself stays as it was.  The two passes may be run at different times, where a pass does not see
    the time. -/
theorem run_isolated (s : Settings) (mode : Mode) (p : Project) (store : Memory) {step : Step}
    {file : Path} {old : Text} (own : fileOf p step = some file)
    (present : store.get? file = some old) (fault : FileFault) :
    let plain := (run s mode p.root : StateM Memory (Except Failure Report)) store
    let faulty := (run s mode p.root : StateM Memory (Except Failure Report))
      (store.refusing file fault)
    Isolated step file store plain faulty ∧
      ∀ stamp day, Timeless s mode.day day p.root store →
        (run s ⟨mode.dryRun, stamp, day⟩ p.root : StateM Memory (Except Failure Report))
          (store.refusing file fault) = faulty := by
  refine ⟨?_, fun _ _ timeless => run_sameTime (timeless.refusing file fault)⟩
  have start : ApartAt file fault old store (store.refusing file fault) := .refusing present
  have hread := read_refusing store file fault
  cases haccept : accept s p.root (store.read (Project.manifestAt p.root)) with
  | error failure =>
    -- no step is taken, in either pass
    have hrun : ∀ later : Memory, later.read (Project.manifestAt p.root) =
        store.read (Project.manifestAt p.root) →
        (run s mode p.root : StateM Memory (Except Failure Report)) later =
          (.error failure, later) := by
      intro later hlater
      simp [run, preconditions, hlater, haccept]
    rw [hrun _ rfl, hrun _ (hread _)]
    exact ⟨rfl, start.alike, rfl⟩
  | ok a =>
    obtain ⟨hroot, -⟩ := eq_of_accept haccept
    have apart : ∀ {other own'}, fileOf a.project other = some own' → other ≠ step →
        file.same own' = false := fun hown hne => fileOf_apart hroot.symm hne own hown
    -- step by step: each answers the same unless the file is its own, and the stores stay apart at
    -- most there
    obtain ⟨answer, a₁, answer', b₁, ha₁, hb₁, same₁, h₁⟩ :=
      (manifestStep_contained s mode a).answers start
    obtain ⟨manifest, rfl⟩ := manifestStep_ok (checkSections_of_accept haccept) ha₁
    obtain ⟨manifest', rfl⟩ := manifestStep_ok (checkSections_of_accept haccept) hb₁
    obtain ⟨⟨templates, withExamples⟩, a₂, -, b₂, ha₂, hb₂, rfl, h₂⟩ :=
      (templatesStep_blind s mode a.project file).answers h₁
    obtain ⟨entry, a₃, entry', b₃, ha₃, hb₃, same₃, h₃⟩ :=
      (entryStep_contained s mode a.project).answers h₂
    obtain ⟨router, a₄, router', b₄, ha₄, hb₄, same₄, h₄⟩ :=
      (routerStep_contained s mode a.project withExamples).answers h₃
    obtain ⟨markup, a₅, markup', b₅, ha₅, hb₅, same₅, h₅⟩ :=
      (markupStep_contained s mode a.project).answers h₄
    simp only [run, preconditions, steps, bind_apply, pure_apply, read_apply, hread, haccept,
      ha₁, hb₁, ha₂, hb₂, ha₃, hb₃, ha₄, hb₄, ha₅, hb₅]
    refine ⟨congrArg Except.ok ?_, h₅.alike, h₅.kept.trans present.symm⟩
    refine recordsBut_addTo (fun hne => same₅ (apart rfl hne)) ?_
    refine recordsBut_addTo (fun hne => same₄ (apart rfl hne)) ?_
    refine recordsBut_addTo (fun hne => same₃ (apart rfl hne)) ?_
    refine recordsBut_addTo (fun _ => rfl) ?_
    exact recordsBut_addTo (fun hne => Except.ok.inj (same₁ (apart rfl hne))) rfl

/-- A pass over a sample project, and one on another day in which the router file cannot be
    written. -/
theorem run_isolated_sample :
    let p : Project := ⟨Sample.root, .javascript, some 2⟩
    let fault : FileFault := ⟨false, "permission denied"⟩
    Isolated .router p.routerFile (Sample.store .javascript)
      ((run {} ⟨false, 0, ⟨"2024", "2024-02-29"⟩⟩ p.root :
        StateM Memory (Except Failure Report)) (Sample.store .javascript))
      ((run {} ⟨false, 7, ⟨"2025", "2025-01-01"⟩⟩ p.root : StateM Memory (Except Failure Report))
        ((Sample.store .javascript).refusing p.routerFile fault)) := by
  intro p fault
  have present : (Sample.store .javascript).get? p.routerFile = some Sample.routerFile := by
    decide +kernel
  have project : projectAt {} p.root (Sample.store .javascript) = some p := by decide +kernel
  have timeless : Timeless {} ⟨"2024", "2024-02-29"⟩ ⟨"2025", "2025-01-01"⟩ p.root
      (Sample.store .javascript) := by
    rintro q hq
    obtain rfl := Option.some.inj (project.symm.trans hq)
    exact timelessOn_of_builtIn rfl (by decide) (by decide) (by decide +kernel)
  have own : fileOf p .router = some p.routerFile := rfl
  obtain ⟨isolated, later⟩ := run_isolated {} ⟨false, 0, ⟨"2024", "2024-02-29"⟩⟩ p
    (Sample.store .javascript) own present fault
  rw [← later 7 ⟨"2025", "2025-01-01"⟩ timeless] at isolated
  exact isolated

end Pass

end RouteLocalizer
