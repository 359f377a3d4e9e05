/-
  What one step of a pass DOES to the store in memory.

  PROGRAM: three of the five steps edit one file — they read it, put it through an edit, and save
  it when the edit changed it; the manifest's step saves a text that was read before.
  SPECIFICATION: `Edited` lists all that can come of such a step:
  (1) it is not wanted, and nothing is done;
  (2) the file cannot be read, and the step is skipped with a note on what to do by hand;
  (3) the edit changes nothing;
  (4) the text is saved, and `Saved` lists what comes of that: a dry run only says what it would
      write, the write fails, or it succeeds.

  `editFile_edited` is the one place where the program of such a step is opened; everything else
  about it is a case analysis on `Edited`.  Those facts are what the whole pass is argued from: a
  step touches its own file only, keeps every file there, is idle in a dry run, and its result is a
  function of what reading the file answered (`editResult`), where writing cannot fail.
-/
import RouteLocalizer.Pass.Run
import RouteLocalizer.Proofs.Store

namespace RouteLocalizer.Pass

/-! ## Writing one file -/

/-- What comes of saving a text: the outcome, the notes and the store afterwards. -/
inductive Saved (store : Memory) (dryRun : Bool) (file : Path) (text : Text) :
    Outcome → List Diagnostic → Memory → Prop where
  | pretended (dry : dryRun = true) : Saved store dryRun file text .modified [] store
  | written (real : dryRun = false) (writable : store.faultFor .write file = none) :
      Saved store dryRun file text .modified [] ((store.logged .write file).set file text)
  | refused (real : dryRun = false) {fault : FileFault}
      (refused : store.faultFor .write file = some fault) :
      Saved store dryRun file text .skipped
        [⟨.error, "Failed to write " ++ file.spelling ++ ": " ++ fault.message⟩]
        (store.logged .write file)

/-- **Saving is one of the three**, and this is where its program is opened. -/
theorem save_saved (store : Memory) (dryRun : Bool) (file : Path) (text : Text) :
    ∃ outcome notes store',
      (save dryRun file text : StateM Memory (Outcome × List Diagnostic)) store =
        ((outcome, notes), store') ∧
      Saved store dryRun file text outcome notes store' := by
  cases dryRun with
  | true => exact ⟨.modified, [], store, rfl, .pretended rfl⟩
  | false =>
    cases hfault : store.faultFor .write file with
    | none =>
      refine ⟨.modified, [], (store.logged .write file).set file text, ?_, .written rfl hfault⟩
      simp [save, Memory.write, hfault]
    | some fault =>
      refine ⟨.skipped, _, store.logged .write file, ?_, .refused rfl hfault⟩
      simp [save, Memory.write, hfault]

namespace Saved

variable {store store' : Memory} {dryRun : Bool} {file : Path} {text : Text} {outcome : Outcome}
  {notes : List Diagnostic}

/-- Saving keeps every file there. -/
theorem isLater (h : Saved store dryRun file text outcome notes store') :
    Memory.IsLater store store' := by
  cases h with
  | pretended => exact .refl store
  | written => exact (Memory.isLater_logged _ _ _).trans (Memory.isLater_set _ _ _)
  | refused => exact Memory.isLater_logged _ _ _

/-- Saving touches its own file only. -/
theorem get?_of_ne (h : Saved store dryRun file text outcome notes store') {other : Path}
    (hne : file.same other = false) : store'.get? other = store.get? other := by
  cases h with
  | pretended => rfl
  | written => rw [Memory.get?_set_of_ne _ _ hne, Memory.get?_logged]
  | refused => rfl

/-- After a real run the file holds the new text if the step says so, and the old one else. -/
theorem get?_self (h : Saved store dryRun file text outcome notes store') (real : dryRun = false) :
    (outcome = .modified ∧ store'.get? file = some text) ∨
      (outcome = .skipped ∧ store'.get? file = store.get? file) := by
  cases h with
  | pretended dry => rw [real] at dry; cases dry
  | written => exact .inl ⟨rfl, Memory.get?_set_self _ _ _⟩
  | refused => exact .inr ⟨rfl, rfl⟩

/-- Where nothing can fail, a dry run and a real one say the same. -/
theorem eq_modified (h : Saved store dryRun file text outcome notes store')
    (writable : store.faultFor .write file = none) : outcome = .modified ∧ notes = [] := by
  cases h with
  | pretended => exact ⟨rfl, rfl⟩
  | written => exact ⟨rfl, rfl⟩
  | refused _ refused => rw [writable] at refused; cases refused

/-- A dry run saves nothing. -/
theorem store_of_dry (h : Saved store dryRun file text outcome notes store')
    (dry : dryRun = true) : store' = store := by
  cases h with
  | pretended => rfl
  | written real => rw [real] at dry; cases dry
  | refused real => rw [real] at dry; cases dry

end Saved

/-! ## Editing one file -/

/-- What comes of a step that edits a file, if it is wanted: the result of the step and the store
    afterwards. -/
inductive Edited (wanted : Bool) (store : Memory) (dryRun : Bool) (file : Path) (remedy : Text)
    (edit : Text → Edit) : StepResult → Memory → Prop where
  | unwanted (off : wanted = false) :
      Edited wanted store dryRun file remedy edit ⟨.skipped, [], []⟩ store
  | unread (on : wanted = true) {fault : FileFault} (read : store.read file = .error fault) :
      Edited wanted store dryRun file remedy edit
        ⟨.skipped, [file], [unread file fault remedy]⟩ store
  | unchanged (on : wanted = true) {text : Text} (read : store.read file = .ok text)
      (same : (edit text).text = text) :
      Edited wanted store dryRun file remedy edit ⟨.unchanged, [file], (edit text).notes⟩ store
  | saved (on : wanted = true) {text : Text} {outcome : Outcome} {notes : List Diagnostic}
      {store' : Memory} (read : store.read file = .ok text) (changed : (edit text).text ≠ text)
      (saved : Saved store dryRun file (edit text).text outcome notes store') :
      Edited wanted store dryRun file remedy edit
        ⟨outcome, [file], (edit text).notes ++ notes⟩ store'

/-- **Editing a file is one of the four.** -/
theorem editFile_edited (store : Memory) (dryRun : Bool) (file : Path) (remedy : Text)
    (edit : Text → Edit) :
    ∃ r store', (editFile dryRun file remedy edit : StateM Memory StepResult) store = (r, store') ∧
      Edited true store dryRun file remedy edit r store' := by
  cases hread : store.read file with
  | error fault =>
    refine ⟨_, store, ?_, .unread rfl hread⟩
    simp [editFile, hread]
  | ok text =>
    by_cases hsame : (edit text).text = text
    · refine ⟨_, store, ?_, .unchanged rfl hread hsame⟩
      simp [editFile, hread, hsame]
    · obtain ⟨outcome, notes, store', hsave, saved⟩ := save_saved store dryRun file (edit text).text
      refine ⟨_, store', ?_, .saved rfl hread hsame saved⟩
      simp [editFile, hread, hsame, hsave]

/-- What a step says of its file when writing cannot fail. -/
def editResult (wanted : Bool) (file : Path) (remedy : Text) (edit : Text → Edit) :
    Except FileFault Text → StepResult
  | content =>
    if !wanted then ⟨.skipped, [], []⟩
    else match content with
      | .error fault => ⟨.skipped, [file], [unread file fault remedy]⟩
      | .ok text =>
        ⟨if (edit text).text = text then .unchanged else .modified, [file], (edit text).notes⟩

namespace Edited

variable {wanted : Bool} {store store' : Memory} {dryRun : Bool} {file other : Path}
  {remedy : Text} {edit : Text → Edit} {r : StepResult}

/-- Editing keeps every file there. -/
theorem isLater (h : Edited wanted store dryRun file remedy edit r store') :
    Memory.IsLater store store' := by
  cases h with
  | unwanted => exact .refl store
  | unread => exact .refl store
  | unchanged => exact .refl store
  | saved _ _ _ saved => exact saved.isLater

/-- A step touches its own file only. -/
theorem get?_of_ne (h : Edited wanted store dryRun file remedy edit r store')
    (hne : file.same other = false) : store'.get? other = store.get? other := by
  cases h with
  | unwanted => rfl
  | unread => rfl
  | unchanged => rfl
  | saved _ _ _ saved => exact saved.get?_of_ne hne

/-- A step never makes its file. -/
theorem get?_of_missing (h : Edited wanted store dryRun file remedy edit r store')
    (missing : store.get? file = none) : store' = store := by
  cases h with
  | unwanted => rfl
  | unread => rfl
  | unchanged => rfl
  | saved _ read => rw [Memory.get?_of_read read] at missing; cases missing

/-- A dry run leaves the store as it is. -/
theorem store_of_dry (h : Edited wanted store dryRun file remedy edit r store')
    (dry : dryRun = true) : store' = store := by
  cases h with
  | unwanted => rfl
  | unread => rfl
  | unchanged => rfl
  | saved _ _ _ saved => exact saved.store_of_dry dry

/-- A file that was there holds the old text or the edited one after a real run, and the edited one
    unless the step was skipped. -/
theorem get?_self (h : Edited wanted store dryRun file remedy edit r store')
    (real : dryRun = false) {old : Text} (hold : store.get? file = some old) :
    (store'.get? file = some old ∨ store'.get? file = some (edit old).text) ∧
      (r.outcome ≠ .skipped → store'.get? file = some (edit old).text) := by
  have read_eq : ∀ {text}, store.read file = .ok text → text = old := by
    intro text read
    have := Memory.get?_of_read read
    rw [hold] at this
    exact (Option.some.inj this).symm
  cases h with
  | unwanted => exact ⟨.inl hold, fun hne => absurd rfl hne⟩
  | unread => exact ⟨.inl hold, fun hne => absurd rfl hne⟩
  | unchanged _ read same =>
    obtain rfl := read_eq read
    rw [same]
    exact ⟨.inl hold, fun _ => hold⟩
  | saved _ read _ saved =>
    obtain rfl := read_eq read
    rcases saved.get?_self real with ⟨rfl, hget⟩ | ⟨rfl, hget⟩
    · exact ⟨.inr hget, fun _ => hget⟩
    · exact ⟨.inl (hget.trans hold), fun hne => absurd rfl hne⟩

/-- Where writing cannot fail, the result of a step is told by what its file reads as. -/
theorem result_eq (h : Edited wanted store dryRun file remedy edit r store')
    (writable : store.faultFor .write file = none) :
    r = editResult wanted file remedy edit (store.read file) := by
  cases h with
  | unwanted off => simp [editResult, off]
  | unread on read => simp [editResult, on, read]
  | unchanged on read same => simp [editResult, on, read, same]
  | saved on read changed saved =>
    obtain ⟨rfl, rfl⟩ := saved.eq_modified writable
    simp [editResult, on, read, changed]

/-- A file that its edit does not change stays, and the step says so. -/
theorem of_fixed (h : Edited wanted store dryRun file remedy edit r store')
    (fixed : ∀ text, store.read file = .ok text → wanted = true → (edit text).text = text) :
    store' = store ∧ r.outcome ≠ .modified := by
  cases h with
  | unwanted => exact ⟨rfl, by simp⟩
  | unread => exact ⟨rfl, by simp⟩
  | unchanged => exact ⟨rfl, by simp⟩
  | saved on read changed => exact absurd (fixed _ read on) changed

end Edited

/-! ## The three steps that edit a file -/

/-- The entry file is edited where that is asked for. -/
theorem entryStep_edited (s : Settings) (mode : Mode) (p : Project) (store : Memory) :
    ∃ r store', (entryStep s mode p : StateM Memory StepResult) store = (r, store') ∧
      Edited s.options.injectI18n store mode.dryRun p.entryFile
        "make sure to import i18n manually!" (entryEdit s.router (p.root.shownIn p.entryFile))
        r store' := by
  cases hon : s.options.injectI18n with
  | false => exact ⟨_, store, by simp [entryStep, hon], .unwanted rfl⟩
  | true =>
    simp only [entryStep, hon, Bool.not_true, Bool.false_eq_true, if_false]
    exact editFile_edited _ _ _ _ _

/-- The router file always is. -/
theorem routerStep_edited (s : Settings) (mode : Mode) (p : Project) (withExamples : Bool)
    (store : Memory) :
    ∃ r store', (routerStep s mode p withExamples : StateM Memory StepResult) store =
        (r, store') ∧
      Edited true store mode.dryRun p.routerFile
        ("make sure to add " ++ s.router.toSymbol ++ " manually!")
        (routerEdit s withExamples (p.root.shownIn p.routerFile)) r store' :=
  editFile_edited _ _ _ _ _

/-- The component is edited when either of its two changes is asked for. -/
theorem markupStep_edited (s : Settings) (mode : Mode) (p : Project) (store : Memory) :
    ∃ r store', (markupStep s mode p : StateM Memory StepResult) store = (r, store') ∧
      Edited (s.options.localizeLinks || s.options.addLanguageSwitcher) store mode.dryRun p.appFile
        ("skipping <" ++ s.router.linkTag ++ "> changes.")
        (markupEdit s mode.stamp (p.root.shownIn p.appFile)) r store' := by
  cases hon : s.options.localizeLinks || s.options.addLanguageSwitcher with
  | false =>
    obtain ⟨hlinks, hswitcher⟩ := Bool.or_eq_false_iff.mp hon
    exact ⟨_, store, by simp [markupStep, hlinks, hswitcher], .unwanted rfl⟩
  | true =>
    have hoff : (!s.options.localizeLinks && !s.options.addLanguageSwitcher) = false := by
      rw [← Bool.not_or, hon, Bool.not_true]
    simp only [markupStep, hoff, Bool.false_eq_true, if_false]
    exact editFile_edited _ _ _ _ _

end RouteLocalizer.Pass
