/-
  What RENDERING templates does to the store in memory.

  `Rendered` follows the recursion over the templates: a file that is there is kept, one that is not
  is placed, and the first fault ends it.  From it come the three facts that a pass needs of its
  templates step: files that were there keep their texts, a new file is the target of some template
  and holds what that template says, and after a rendering without fault all targets are there.

  SPECIFICATION:
  (1) `Placed` — placing one file: in a dry run nothing happens, else the directories above are made
      and the file is written, and either can fail;
  (2) `render_rendered` — every rendering is one of the cases of `Rendered`; the program of it is
      opened in the equation `render_cons` and nowhere else;
  (3) `get?_of_present`, `get?_of_absent`, `targets_present` — the three facts.
-/
import RouteLocalizer.Proofs.Steps

namespace RouteLocalizer

/-! ## Placing a file -/

/-- What comes of writing a file with the directories above it, unless it is a dry run. -/
structure Template.Placed (dryRun : Bool) (store : Memory) (file : Path) (text : Text)
    (answer : Except FileFault Unit) (store' : Memory) : Prop where
  isLater : Memory.IsLater store store'
  dry : dryRun = true → answer = .ok () ∧ store' = store
  get?_of_ok : dryRun = false → answer = .ok () →
    ∀ other, store'.get? other = if file.same other then some text else store.get? other
  get?_of_error : ∀ fault, answer = .error fault → ∀ other, store'.get? other = store.get? other
  ok_of_writable : (∀ f ∈ store.faults, f.call = .read) → answer = .ok ()

namespace Template

/-- Writing a file of the store in memory, with what it answers and what becomes of the store. -/
theorem write_placed (store : Memory) (file : Path) (text : Text) :
    Placed false store file text (store.write file text).1 (store.write file text).2 where
  isLater := Memory.isLater_write store file text
  dry := fun h => by cases h
  get?_of_ok := by
    intro _ hok other
    unfold Memory.write at hok ⊢
    split
    · rename_i fault hfault
      simp [hfault] at hok
    · rw [Memory.get?_set, Memory.get?_logged]
  get?_of_error := by
    intro fault herror other
    unfold Memory.write at herror ⊢
    split
    · rfl
    · rename_i hfault
      simp [hfault] at herror
  ok_of_writable := by
    intro reads
    have hfault : store.faultFor .write file = none :=
      Memory.faultFor_eq_none (fun f hf => by rw [reads f hf]; decide) file
    simp [Memory.write, hfault]

/-- **Placing a file** is making the directories above it and writing it. -/
theorem place_placed (store : Memory) (file : Path) (text : Text) :
    ∃ answer store', (Files.place file text : StateM Memory (Except FileFault Unit)) store =
        (answer, store') ∧ Placed false store file text answer store' := by
  cases hparent : file.parent? with
  | none =>
    refine ⟨_, _, ?_, write_placed store file text⟩
    simp [Files.place, hparent, Files.write, pure]
  | some above =>
    cases hfault : store.faultFor .makeDirs above with
    | some fault =>
      refine ⟨.error fault, store.logged .makeDirs above, ?_, ?_⟩
      · simp [Files.place, hparent, Memory.makeDirs, hfault]
      · refine ⟨Memory.isLater_logged _ _ _, (fun h => nomatch h), (fun _ h => nomatch h),
          fun _ _ _ => rfl, fun reads => ?_⟩
        have : store.faultFor .makeDirs above = none :=
          Memory.faultFor_eq_none (fun f hf => by rw [reads f hf]; decide) above
        rw [this] at hfault
        cases hfault
    | none =>
      have hw := write_placed (store.logged .makeDirs above) file text
      refine ⟨_, _, ?_, ⟨(Memory.isLater_logged _ _ _).trans hw.isLater, (fun h => nomatch h),
        hw.get?_of_ok, hw.get?_of_error, hw.ok_of_writable⟩⟩
      simp [Files.place, hparent, Memory.makeDirs, hfault]

/-! ## Rendering -/

/-- What is made of an answer is one exactly if there was one. -/
theorem isOk_map {α β : Type} (f : α → β) (answer : Except Failure α) :
    (answer.map f).isOk = answer.isOk := by
  cases answer <;> rfl

/-- A summary with one more file that was kept. -/
def Summary.keep (file : Path) (s : Summary) : Summary := { s with skipped := file :: s.skipped }

/-- A summary with one more file that was written. -/
def Summary.add (file : Path) (s : Summary) : Summary := { s with written := file :: s.written }

/-- What comes of rendering templates, one after another: the answer and the store afterwards. -/
inductive Rendered (dryRun : Bool) (root : Path) (vars : Variables) :
    Memory → List Template → Except Failure Summary → Memory → Prop where
  | nil {store : Memory} : Rendered dryRun root vars store [] (.ok {}) store
  | kept {store store' : Memory} {t : Template} {rest : List Template}
      {answer : Except Failure Summary}
      (present : (store.get? (target root vars t)).isSome = true)
      (later : Rendered dryRun root vars store rest answer store') :
      Rendered dryRun root vars store (t :: rest)
        (answer.map (·.keep (target root vars t))) store'
  | failed {store store' : Memory} {t : Template} {rest : List Template} {fault : FileFault}
      (absent : store.get? (target root vars t) = none)
      (placed : Placed dryRun store (target root vars t) (vars.fill t.content) (.error fault)
        store') :
      Rendered dryRun root vars store (t :: rest) (.error fault.toFailure) store'
  | added {store middle store' : Memory} {t : Template} {rest : List Template}
      {answer : Except Failure Summary}
      (absent : store.get? (target root vars t) = none)
      (placed : Placed dryRun store (target root vars t) (vars.fill t.content) (.ok ()) middle)
      (later : Rendered dryRun root vars middle rest answer store') :
      Rendered dryRun root vars store (t :: rest)
        (answer.map (·.add (target root vars t))) store'

/-- One template of a rendering, opened: what `render` does with the first one. -/
theorem render_cons (dryRun : Bool) (root : Path) (vars : Variables) (t : Template)
    (rest : List Template) (store : Memory) :
    (render dryRun root vars (t :: rest) : StateM Memory (Except Failure Summary)) store =
      let file := target root vars t
      if (store.get? file).isSome then
        let later := (render dryRun root vars rest : StateM Memory _) store
        (later.1.map (·.keep file), later.2)
      else
        let placed := if dryRun then (.ok (), store)
          else (Files.place file (vars.fill t.content) : StateM Memory _) store
        match placed.1 with
        | .error fault => (.error fault.toFailure, placed.2)
        | .ok () =>
          let later := (render dryRun root vars rest : StateM Memory _) placed.2
          (later.1.map (·.add file), later.2) := by
  by_cases hpresent : (store.get? (target root vars t)).isSome = true
  · simp only [render, Memory.bind_apply, Memory.pure_apply, Memory.isPresent_apply, hpresent,
      if_true]
    rfl
  · cases dryRun with
    | true =>
      simp only [render, Memory.bind_apply, Memory.pure_apply, Memory.isPresent_apply, hpresent,
        Bool.false_eq_true, if_false, if_true]
      rfl
    | false =>
      simp only [render, Memory.bind_apply, Memory.isPresent_apply, hpresent,
        Bool.false_eq_true, if_false]
      obtain ⟨answer, middle, hplace, -⟩ :=
        place_placed store (target root vars t) (vars.fill t.content)
      simp only [hplace]
      cases answer <;> rfl

/-- **Rendering follows `Rendered`.**  By induction on the templates. -/
theorem render_rendered (dryRun : Bool) (root : Path) (vars : Variables)
    (templates : List Template) (store : Memory) :
    ∃ answer store', (render dryRun root vars templates : StateM Memory _) store =
        (answer, store') ∧ Rendered dryRun root vars store templates answer store' := by
  induction templates generalizing store with
  | nil => exact ⟨.ok {}, store, rfl, .nil⟩
  | cons t rest ih =>
    rw [render_cons]
    by_cases hpresent : (store.get? (target root vars t)).isSome = true
    · obtain ⟨answer, store', hrest, later⟩ := ih store
      exact ⟨_, store', by simp [hpresent, hrest], .kept hpresent later⟩
    · have absent : store.get? (target root vars t) = none := by simpa using hpresent
      -- in both modes the first file is placed in the sense of `Placed`
      have hplaced : ∃ answer middle,
          (if dryRun then (.ok (), store)
            else (Files.place (target root vars t) (vars.fill t.content) :
              StateM Memory (Except FileFault Unit)) store) = (answer, middle) ∧
          Placed dryRun store (target root vars t) (vars.fill t.content) answer middle := by
        cases dryRun with
        | true =>
          exact ⟨_, _, rfl, .refl store, fun _ => ⟨rfl, rfl⟩, (fun h => nomatch h),
            (fun _ h => nomatch h), fun _ => rfl⟩
        | false => exact place_placed store _ _
      obtain ⟨placed, middle, heq, hplaced⟩ := hplaced
      cases placed with
      | error fault => exact ⟨_, middle, by simp [absent, heq], .failed absent hplaced⟩
      | ok _ =>
        obtain ⟨answer, store', hrest, later⟩ := ih middle
        exact ⟨_, store', by simp [absent, heq, hrest], .added absent hplaced later⟩

namespace Rendered

variable {dryRun : Bool} {root : Path} {vars : Variables} {store store' : Memory}
  {templates : List Template} {answer : Except Failure Summary}

/-- Rendering keeps every file there. -/
theorem isLater (h : Rendered dryRun root vars store templates answer store') :
    Memory.IsLater store store' := by
  induction h with
  | nil => exact .refl _
  | kept _ _ ih => exact ih
  | failed _ placed => exact placed.isLater
  | added _ placed _ ih => exact placed.isLater.trans ih

/-- In a dry run nothing is written. -/
theorem store_of_dry (h : Rendered dryRun root vars store templates answer store')
    (dry : dryRun = true) : store' = store := by
  induction h with
  | nil => rfl
  | kept _ _ ih => exact ih
  | failed _ placed => exact (placed.dry dry).2
  | added _ placed _ ih => exact ih.trans (placed.dry dry).2

/-- A file that is there keeps its text. -/
theorem get?_of_present (h : Rendered dryRun root vars store templates answer store')
    {other : Path} {text : Text} (present : store.get? other = some text) :
    store'.get? other = some text := by
  induction h with
  | nil => exact present
  | kept _ _ ih => exact ih present
  | failed _ placed => rw [placed.get?_of_error _ rfl, present]
  | @added store middle _ t _ _ absent placed _ ih =>
    apply ih
    cases dryRun with
    | true => rw [(placed.dry rfl).2, present]
    | false =>
      have hne : (target root vars t).same other = false := by
        rw [Bool.eq_false_iff]
        intro hsame
        rw [Memory.get?_congr _ hsame, present] at absent
        cases absent
      rw [placed.get?_of_ok rfl rfl, hne, ← present]
      rfl

/-- A new file is the target of some template, and holds what that template says. -/
theorem get?_of_absent (h : Rendered dryRun root vars store templates answer store')
    {other : Path} (absent : store.get? other = none) {text : Text}
    (present : store'.get? other = some text) :
    ∃ t ∈ templates, (target root vars t).same other = true ∧ text = vars.fill t.content := by
  induction h with
  | nil => rw [absent] at present; cases present
  | kept _ _ ih =>
    obtain ⟨t, ht, hsame, htext⟩ := ih absent present
    exact ⟨t, List.mem_cons_of_mem _ ht, hsame, htext⟩
  | failed _ placed =>
    rw [placed.get?_of_error _ rfl, absent] at present
    cases present
  | @added store middle _ t rest _ _ placed later ih =>
    cases hmiddle : middle.get? other with
    | none =>
      obtain ⟨t, ht, hsame, htext⟩ := ih hmiddle present
      exact ⟨t, List.mem_cons_of_mem _ ht, hsame, htext⟩
    | some written =>
      -- the file was placed here, and the templates behind this one leave it alone
      have hkept := later.get?_of_present hmiddle
      rw [present] at hkept
      cases dryRun with
      | true => rw [(placed.dry rfl).2, absent] at hmiddle; cases hmiddle
      | false =>
        rw [placed.get?_of_ok rfl rfl] at hmiddle
        split at hmiddle
        · rename_i hsame
          refine ⟨t, List.mem_cons_self, hsame, ?_⟩
          rw [Option.some.inj hkept, Option.some.inj hmiddle]
        · rw [absent] at hmiddle; cases hmiddle

/-- What is no target of a template is as it was. -/
theorem get?_of_apart (h : Rendered dryRun root vars store templates answer store')
    {other : Path} (apart : ∀ t ∈ templates, (target root vars t).same other = false) :
    store'.get? other = store.get? other := by
  cases hold : store.get? other with
  | some text => exact h.get?_of_present hold
  | none =>
    cases hnew : store'.get? other with
    | none => rfl
    | some text =>
      obtain ⟨t, ht, hsame, -⟩ := h.get?_of_absent hold hnew
      rw [apart t ht] at hsame
      cases hsame

/-- After a real rendering without fault all targets are there. -/
theorem targets_present (h : Rendered dryRun root vars store templates answer store')
    (real : dryRun = false) (ok : answer.isOk = true) :
    ∀ t ∈ templates, (store'.get? (target root vars t)).isSome = true := by
  induction h with
  | nil => intro t ht; cases ht
  | @kept _ _ t rest answer present later ih =>
    have ok : answer.isOk = true := by rwa [isOk_map] at ok
    intro u hu
    rcases List.mem_cons.mp hu with rfl | hu
    · exact later.isLater.present _ present
    · exact ih ok u hu
  | failed => cases ok
  | @added _ middle _ t rest answer _ placed later ih =>
    have ok : answer.isOk = true := by rwa [isOk_map] at ok
    intro u hu
    rcases List.mem_cons.mp hu with rfl | hu
    · apply later.isLater.present
      rw [placed.get?_of_ok real rfl, Path.same_refl]
      rfl
    · exact ih ok u hu

/-- Where all targets are there, rendering keeps them all and does nothing. -/
theorem of_present (h : Rendered dryRun root vars store templates answer store')
    (present : ∀ t ∈ templates, (store.get? (target root vars t)).isSome = true) :
    store' = store ∧ ∃ summary, answer = .ok summary ∧ summary.written = [] := by
  induction h with
  | nil => exact ⟨rfl, {}, rfl, rfl⟩
  | kept _ _ ih =>
    obtain ⟨hstore, summary, rfl, hwritten⟩ :=
      ih fun t ht => present t (List.mem_cons_of_mem _ ht)
    exact ⟨hstore, _, rfl, hwritten⟩
  | failed absent => simpa [absent] using present _ List.mem_cons_self
  | added absent => simpa [absent] using present _ List.mem_cons_self

/-- A rendering that has written nothing leaves the store as it was. -/
theorem store_of_unwritten {summary : Summary}
    (h : Rendered dryRun root vars store templates (.ok summary) store')
    (unwritten : summary.written = []) : store' = store := by
  generalize hanswer : (Except.ok summary : Except Failure Summary) = answer at h
  induction h generalizing summary with
  | nil => rfl
  | @kept _ _ _ _ answer _ _ ih =>
    cases answer with
    | error => cases hanswer
    | ok before =>
      cases hanswer
      exact @ih before unwritten rfl
  | failed => cases hanswer
  | @added _ _ _ _ _ answer _ _ _ ih =>
    cases answer with
    | error => cases hanswer
    | ok before =>
      cases hanswer
      cases unwritten

/-- Where only reading can fail, rendering does not fail. -/
theorem ok_of_writable (h : Rendered dryRun root vars store templates answer store')
    (reads : ∀ f ∈ store.faults, f.call = .read) : answer.isOk = true := by
  induction h with
  | nil => rfl
  | @kept _ _ _ _ answer _ _ ih =>
    rw [isOk_map]
    exact ih reads
  | failed _ placed => cases placed.ok_of_writable reads
  | @added _ _ _ _ _ answer _ placed _ ih =>
    rw [isOk_map]
    exact ih (by rw [placed.isLater.faults]; exact reads)

end Rendered

end Template

end RouteLocalizer
