/-
  Rendering ACCOUNTS for every template, and a fault undoes nothing and adds nothing.

  A template is NEW when no file is where it goes and no template in front of it goes there.  That
  is said of the store before the rendering alone.  `render` asks the store that it has written so
  far instead, and the crux is the invariant that ties the two together (`Covers`): what is there
  during a rendering is what was there before it, and the targets of the templates that are done.

  1. Without a fault the new templates are written, all others are skipped, and the files of the
     store are the old ones with the new templates' behind them (`settled_of_ok`).
  2. The fault that ends a rendering leaves the files as they are after the templates in front of
     the one that it struck (`exists_of_error`).
  3. Files that were there keep their texts either way (`Rendered.get?_of_present`).
-/
import RouteLocalizer.Proofs.JsonValues
import RouteLocalizer.Proofs.Templates

namespace RouteLocalizer

/-! ## Placing a file where none is -/

theorem Memory.setIn_of_absent {path : Path} {files : List (Path × Text)}
    (absent : ∀ f ∈ files, f.1.same path = false) (text : Text) :
    setIn path text files = files ++ [(path, text)] := by
  induction files with
  | nil => rfl
  | cons f files ih =>
    have hf := absent f List.mem_cons_self
    rw [setIn, hf, if_neg Bool.false_ne_true, ih fun g hg => absent g (List.mem_cons_of_mem f hg),
      List.cons_append]

theorem Memory.same_of_absent {store : Memory} {path : Path} (absent : store.get? path = none) :
    ∀ f ∈ store.files, f.1.same path = false := by
  intro f hf
  rw [get?, Option.map_eq_none_iff, List.find?_eq_none] at absent
  exact Bool.eq_false_iff.mpr (absent f hf)

/-- A file that was stored behind all others is found where no other one is. -/
theorem Memory.get?_of_files {store store' : Memory} {file : Path} {text : Text}
    (files : store'.files = store.files ++ [(file, text)]) (path : Path) :
    store'.get? path = (store.get? path).or (if file.same path then some text else none) := by
  rw [get?, get?, files, List.find?_append]
  cases store.files.find? fun f => f.1.same path with
  | some f => rfl
  | none => cases hsame : file.same path <;> simp [hsame]

namespace Template

/-- A new file is stored behind all others, and a fault stores nothing. -/
theorem write_files {store : Memory} {file : Path} (absent : store.get? file = none) (text : Text) :
    ((store.write file text).1 = .ok () ∧
        (store.write file text).2.files = store.files ++ [(file, text)]) ∨
      ∃ fault, (store.write file text).1 = .error fault ∧
        (store.write file text).2.files = store.files := by
  unfold Memory.write
  split
  · rename_i fault _
    exact .inr ⟨fault, rfl, rfl⟩
  · exact .inl ⟨rfl, Memory.setIn_of_absent (Memory.same_of_absent absent) text⟩

theorem place_files {store : Memory} {file : Path} (absent : store.get? file = none) (text : Text) :
    ∃ answer store', (Files.place file text : StateM Memory (Except FileFault Unit)) store =
        (answer, store') ∧
      ((answer = .ok () ∧ store'.files = store.files ++ [(file, text)]) ∨
        ∃ fault, answer = .error fault ∧ store'.files = store.files) := by
  cases hparent : file.parent? with
  | none =>
    refine ⟨_, _, ?_, write_files absent text⟩
    simp [Files.place, hparent, Files.write, pure]
  | some above =>
    cases hfault : store.faultFor .makeDirs above with
    | some fault =>
      refine ⟨.error fault, store.logged .makeDirs above, ?_, .inr ⟨fault, rfl, rfl⟩⟩
      simp [Files.place, hparent, Memory.makeDirs, hfault]
    | none =>
      have absent' : (store.logged .makeDirs above).get? file = none := absent
      refine ⟨_, _, ?_, write_files absent' text⟩
      simp [Files.place, hparent, Memory.makeDirs, hfault]

/-! ## New templates -/

section

variable (store : Memory) (root : Path) (vars : Variables)

/-- Whether a template is new, where `front` are the templates in front of it. -/
def isNew (front : List Template) (t : Template) : Bool :=
  (store.get? (target root vars t)).isNone &&
    !front.any fun u => (target root vars u).same (target root vars t)

end

/-- The templates of which something holds that depends on the templates in front of them. -/
def pick (p : List Template → Template → Bool) (front : List Template) :
    List Template → List Template
  | [] => []
  | t :: rest =>
    if p front t then t :: pick p (front ++ [t]) rest else pick p (front ++ [t]) rest

/-- Each template is picked once, by a property or by its opposite. -/
theorem pick_perm (p : List Template → Template → Bool) (front templates : List Template) :
    (pick p front templates ++ pick (fun front t => !p front t) front templates).Perm
      templates := by
  induction templates generalizing front with
  | nil => exact .nil
  | cons t rest ih =>
    have later := ih (front ++ [t])
    cases hp : p front t with
    | true => simpa [pick, hp] using later
    | false => simpa [pick, hp] using List.perm_middle.trans (later.cons t)

/-! ## One rendering -/

variable {store middle store' : Memory} {root : Path} {vars : Variables}
  {front templates : List Template}

/-- During a rendering: what is there is what was there before, and the targets of the templates
    that are done. -/
def Covers (store : Memory) (root : Path) (vars : Variables) (front : List Template)
    (middle : Memory) : Prop :=
  ∀ path, (middle.get? path).isSome = true ↔
    (store.get? path).isSome = true ∨ ∃ t ∈ front, (target root vars t).same path = true

theorem covers_nil (store : Memory) : Covers store root vars [] store :=
  fun path => by simp

/-- A template is new when its target is not there at its turn. -/
theorem Covers.isNew_eq (h : Covers store root vars front middle) (t : Template) :
    isNew store root vars front t = (middle.get? (target root vars t)).isNone := by
  have htarget := h (target root vars t)
  rw [isNew, Bool.eq_iff_iff, Bool.and_eq_true, Bool.not_eq_true', ← Bool.not_eq_true,
    List.any_eq_true, ← Option.not_isSome, ← Option.not_isSome, Bool.not_eq_true',
    Bool.not_eq_true', ← Bool.not_eq_true, ← Bool.not_eq_true, htarget, not_or]

/-- A target that is there is covered as it is. -/
theorem Covers.keep (h : Covers store root vars front middle) {t : Template}
    (present : (middle.get? (target root vars t)).isSome = true) :
    Covers store root vars (front ++ [t]) middle := by
  intro path
  constructor
  · intro hpath
    exact ((h path).mp hpath).imp_right fun ⟨u, hu, hsame⟩ =>
      ⟨u, List.mem_append_left _ hu, hsame⟩
  · rintro (hstore | ⟨u, hu, hsame⟩)
    · exact (h path).mpr (.inl hstore)
    · rcases List.mem_append.mp hu with hu | hu
      · exact (h path).mpr (.inr ⟨u, hu, hsame⟩)
      · obtain rfl := List.mem_singleton.mp hu
        rw [← middle.get?_congr hsame]
        exact present

theorem Covers.add {text : Text} (h : Covers store root vars front middle) {t : Template}
    (files : store'.files = middle.files ++ [(target root vars t, text)]) :
    Covers store root vars (front ++ [t]) store' := by
  intro path
  rw [Memory.get?_of_files files, Option.isSome_or, Bool.or_eq_true, h path, or_assoc]
  refine or_congr_right ?_
  simp only [List.mem_append, List.mem_singleton, or_and_right, exists_or, exists_eq_left]
  refine or_congr_right ?_
  cases (target root vars t).same path <;> simp

/-- A real rendering, as a program over the store in memory. -/
abbrev renderReal (root : Path) (vars : Variables) (templates : List Template) :
    StateM Memory (Except Failure Summary) := render false root vars templates

/-- **One template of a rendering.**  It is kept where a file is, and otherwise its file is stored
    behind all others, or a fault ends the rendering; whatever templates come behind it. -/
theorem renderReal_cons (root : Path) (vars : Variables) (t : Template) (middle : Memory) :
    ((middle.get? (target root vars t)).isSome = true ∧
        ∀ rest, renderReal root vars (t :: rest) middle =
          ((renderReal root vars rest middle).1.map (·.keep (target root vars t)),
            (renderReal root vars rest middle).2)) ∨
      (middle.get? (target root vars t) = none ∧ ∃ next,
        next.files = middle.files ++ [(target root vars t, vars.fill t.content)] ∧
        ∀ rest, renderReal root vars (t :: rest) middle =
          ((renderReal root vars rest next).1.map (·.add (target root vars t)),
            (renderReal root vars rest next).2)) ∨
      ∃ failure next, next.files = middle.files ∧
        ∀ rest, renderReal root vars (t :: rest) middle = (.error failure, next) := by
  cases hpresent : middle.get? (target root vars t) with
  | some text =>
    refine .inl ⟨rfl, fun rest => ?_⟩
    rw [renderReal, render_cons]
    simp [hpresent]
  | none =>
    obtain ⟨answer, next, hplace, ⟨rfl, hfiles⟩ | ⟨fault, rfl, hfiles⟩⟩ :=
      place_files hpresent (vars.fill t.content)
    · refine .inr (.inl ⟨rfl, next, hfiles, fun rest => ?_⟩)
      rw [renderReal, render_cons]
      simp [hpresent, hplace]
    · refine .inr (.inr ⟨fault.toFailure, next, hfiles, fun rest => ?_⟩)
      rw [renderReal, render_cons]
      simp [hpresent, hplace]

/-! ## All templates -/

/-- What a rendering without a fault has done, by the templates that are new. -/
structure Settled (store : Memory) (root : Path) (vars : Variables)
    (front templates : List Template) (summary : Summary) (before after : Memory) : Prop where
  written : summary.written =
    (pick (isNew store root vars) front templates).map (target root vars)
  skipped : summary.skipped =
    (pick (fun front t => !isNew store root vars front t) front templates).map (target root vars)
  files : after.files = before.files ++
    (pick (isNew store root vars) front templates).map fun t =>
      (target root vars t, vars.fill t.content)

/-- **A rendering without a fault** writes the new templates and skips the others. -/
theorem settled_of_ok (covers : Covers store root vars front middle) {summary : Summary}
    (h : renderReal root vars templates middle = (.ok summary, store')) :
    Settled store root vars front templates summary middle store' := by
  induction templates generalizing front middle summary with
  | nil =>
    cases h
    exact ⟨rfl, rfl, by simp [pick]⟩
  | cons t rest ih =>
    have hnew := covers.isNew_eq t
    rcases renderReal_cons root vars t middle with ⟨present, hstep⟩ |
      ⟨absent, next, hfiles, hstep⟩ | ⟨failure, next, -, hstep⟩
    · rw [hstep] at h
      obtain ⟨hanswer, hstore⟩ := Prod.mk.inj h
      obtain ⟨later, hlater, rfl⟩ := Json.map_eq_ok hanswer
      obtain ⟨written, skipped, files⟩ := ih (covers.keep present) (Prod.ext hlater hstore)
      have hkept : isNew store root vars front t = false := by
        rw [hnew, Option.isNone_eq_false_iff]
        exact present
      refine ⟨?_, ?_, ?_⟩
      · simpa [pick, hkept, Summary.keep] using written
      · simpa [pick, hkept, Summary.keep] using skipped
      · simpa [pick, hkept] using files
    · rw [hstep] at h
      obtain ⟨hanswer, hstore⟩ := Prod.mk.inj h
      obtain ⟨later, hlater, rfl⟩ := Json.map_eq_ok hanswer
      obtain ⟨written, skipped, files⟩ := ih (covers.add hfiles) (Prod.ext hlater hstore)
      have hadded : isNew store root vars front t = true := by rw [hnew, absent]; rfl
      refine ⟨?_, ?_, ?_⟩
      · simpa [pick, hadded, Summary.add] using written
      · simpa [pick, hadded, Summary.add] using skipped
      · rw [files, hfiles]
        simp [pick, hadded]
    · rw [hstep] at h
      cases h

/-- **A fault leaves what was done until then**: the templates in front of the one that it struck
    can be rendered without it, and the files are then the same. -/
theorem exists_of_error {failure : Failure}
    (h : renderReal root vars templates store = (.error failure, store')) :
    ∃ done t rest, templates = done ++ t :: rest ∧ ∃ summary middle,
      renderReal root vars done store = (.ok summary, middle) ∧
      renderReal root vars (done ++ [t]) store = (.error failure, store') ∧
      store'.files = middle.files := by
  induction templates generalizing store with
  | nil => cases h
  | cons t rest ih =>
    -- a template that goes through, kept or added, belongs to those that are done
    have through : ∀ (next : Memory) (f : Summary → Summary),
        (∀ rest, renderReal root vars (t :: rest) store =
          ((renderReal root vars rest next).1.map f, (renderReal root vars rest next).2)) →
        ∃ done u behind, t :: rest = done ++ u :: behind ∧ ∃ summary middle,
          renderReal root vars done store = (.ok summary, middle) ∧
          renderReal root vars (done ++ [u]) store = (.error failure, store') ∧
          store'.files = middle.files := by
      intro next f hstep
      have hrest : renderReal root vars rest next = (.error failure, store') := by
        rw [hstep] at h
        obtain ⟨hanswer, hstore⟩ := Prod.mk.inj h
        cases hlater : (renderReal root vars rest next).1 with
        | ok later => rw [hlater] at hanswer; cases hanswer
        | error fault =>
          rw [hlater] at hanswer
          cases hanswer
          exact Prod.ext hlater hstore
      obtain ⟨done, u, behind, rfl, summary, middle, hdone, hfault, hfiles⟩ := ih hrest
      refine ⟨t :: done, u, behind, rfl, f summary, middle, ?_, ?_, hfiles⟩
      · rw [hstep, hdone]
        rfl
      · rw [List.cons_append, hstep, hfault]
        rfl
    rcases renderReal_cons root vars t store with ⟨-, hstep⟩ | ⟨-, next, -, hstep⟩ |
      ⟨failure, next, hfiles, hstep⟩
    · exact through store _ hstep
    · exact through next _ hstep
    · rw [hstep] at h
      cases h
      exact ⟨[], t, rest, rfl, {}, store, rfl, hstep [], hfiles⟩

/-- **Rendering accounts for every template.**  Files that were there keep their texts.  Without a
    fault each template's target is listed once, in the order of the templates: as written when the
    template is new and as skipped otherwise, and the files are the old ones and those of the new
    templates.  A fault leaves the files as they are after the templates in front of the one that
    it struck. -/
theorem render_accounts (store : Memory) (root : Path) (vars : Variables)
    (templates : List Template) :
    ∃ answer store', (render false root vars templates : StateM Memory (Except Failure Summary))
        store = (answer, store') ∧
      (∀ path text, store.get? path = some text → store'.get? path = some text) ∧
      (∀ summary, answer = .ok summary →
        Settled store root vars [] templates summary store store' ∧
          (summary.written ++ summary.skipped).Perm (templates.map (target root vars))) ∧
      ∀ failure, answer = .error failure →
        ∃ done t rest, templates = done ++ t :: rest ∧ ∃ summary middle,
          renderReal root vars done store = (.ok summary, middle) ∧
          renderReal root vars (done ++ [t]) store = (.error failure, store') ∧
          store'.files = middle.files := by
  obtain ⟨answer, store', hrender, rendered⟩ := render_rendered false root vars templates store
  refine ⟨answer, store', hrender, fun path text => rendered.get?_of_present, ?_, ?_⟩
  · rintro summary rfl
    have settled := settled_of_ok (covers_nil store) hrender
    refine ⟨settled, ?_⟩
    rw [settled.written, settled.skipped, ← List.map_append]
    exact (pick_perm _ [] templates).map _
  · rintro failure rfl
    exact exists_of_error hrender

/-- Two templates for one new file, under two spellings, and one for a file that is there. -/
example : (renderReal ⟨"/p"⟩ [] [⟨"a", "1"⟩, ⟨"b", "2"⟩, ⟨"./b", "3"⟩]
      { files := [(⟨"/p/a"⟩, "0")] }).1.toOption =
    some { written := [⟨"/p/b"⟩], skipped := [⟨"/p/a"⟩, ⟨"/p/./b"⟩] } := by decide

end Template

end RouteLocalizer
