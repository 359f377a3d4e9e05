/-
  What the store in memory GUARANTEES.

  A store is looked at through `get?`, and `get?_set` is the one equation about writing: the text
  just written under every spelling of its path, and the old text everywhere else.  Faults, the log
  and the directories outside never change what is stored.

  PROGRAM: a pass is written over the operations of `Files`; here they are those of `Memory`, a
  state monad over a list of files, the planned faults and a log of the calls.
  SPECIFICATION:
  (1) each operation of `Files`, applied to a store, is the function of `Memory` that it names, so a
      pass unfolds by `simp` and no proof opens the monad;
  (2) `get?_set`, `get?_congr` — a store is a function of the components of paths;
  (3) `read_congr`, `read_of_get?`, `get?_of_read` — reading is looking up, unless a fault is
      planned;
  (4) `IsLater` — a file that was there stays there, whatever is written.

  Paths are compared by their components, not as they are spelt; that comparison (`Path.same`) is an
  equivalence, and most of the side conditions below are about it.
-/
import RouteLocalizer.Store.Memory

namespace RouteLocalizer

namespace Path

/-- Paths are the same when their components are, however they are spelt. -/
@[simp] theorem same_iff {p q : Path} : p.same q = true ↔ p.components = q.components := by
  simp [same]

theorem same_refl (p : Path) : p.same p = true := by simp

/-- Spellings of one path are interchangeable on the left of `same`. -/
theorem same_congr {p q : Path} (h : p.same q = true) (r : Path) : p.same r = q.same r := by
  simp only [same_iff] at h
  simp [same, h]

/-- The order of the two paths does not matter. -/
theorem same_comm (p q : Path) : p.same q = q.same p := by
  simp [same, eq_comm]

end Path

namespace Memory

/-! ## Programs over the store -/

section

variable {α β : Type} (store : Memory) (path : Path)

/-- A program that only answers leaves the store as it is. -/
@[simp] theorem pure_apply (a : α) : (pure a : StateM Memory α) store = (a, store) := rfl

/-- A program hands on its answer and the store that it left. -/
@[simp] theorem bind_apply (x : StateM Memory α) (f : α → StateM Memory β) :
    (x >>= f) store = f (x store).1 (x store).2 := rfl

@[simp] theorem map_apply (f : α → β) (x : StateM Memory α) :
    (f <$> x) store = (f (x store).1, (x store).2) := rfl

/-- Reading does not change the store; the calls that do are logged. -/
@[simp] theorem read_apply :
    (Files.read path : StateM Memory (Except FileFault Text)) store = (store.read path, store) :=
  rfl

/-- Writing can be refused, and is logged when it is too. -/
@[simp] theorem write_apply (text : Text) :
    (Files.write path text : StateM Memory (Except FileFault Unit)) store =
      store.write path text := rfl

/-- A file is there when something is stored for it. -/
@[simp] theorem isPresent_apply :
    (Files.isPresent path : StateM Memory Bool) store = ((store.get? path).isSome, store) := rfl

/-- Directories leave nothing in the store but an entry of the log. -/
@[simp] theorem makeDirs_apply :
    (Files.makeDirs path : StateM Memory (Except FileFault Unit)) store = store.makeDirs path := rfl

/-- The texts below a directory come from outside the store. -/
@[simp] theorem textsBelow_apply :
    (Files.textsBelow path : StateM Memory _) store = (store.textsBelow path, store) := rfl

end

variable {store : Memory} {path other : Path} {text : Text}

/-! ## Looking up what was written -/

/-- Looking for a file in the list behind the store after one of its texts was set: one place only
    was changed, or a new one added at the end. -/
theorem find?_setIn (path : Path) (text : Text) (other : Path) (files : List (Path × Text)) :
    ((setIn path text files).find? fun f => f.1.same other).map Prod.snd =
      if path.same other then some text
      else (files.find? fun f => f.1.same other).map Prod.snd := by
  induction files with
  | nil => by_cases h : path.same other <;> simp [setIn, h]
  | cons f rest ih =>
    by_cases hf : f.1.same path
    · have hcongr := Path.same_congr hf other
      by_cases h : path.same other
      · simp [setIn, hf, hcongr, h]
      · simp [setIn, hf, hcongr, h]
    · by_cases h : f.1.same other
      · have hne : path.same other = false := by
          rw [Bool.eq_false_iff]
          intro hp
          exact hf (by rw [Path.same_comm, Path.same_congr hp, Path.same_comm]; exact h)
        simp [setIn, hf, h, hne]
      · simp only [setIn, hf, Bool.false_eq_true, if_false, List.find?_cons, h]
        exact ih

/-- **Looking up after writing.** -/
@[simp] theorem get?_set (store : Memory) (path other : Path) (text : Text) :
    (store.set path text).get? other = if path.same other then some text else store.get? other :=
  find?_setIn path text other store.files

/-- What was written is found again. -/
theorem get?_set_self (store : Memory) (path : Path) (text : Text) :
    (store.set path text).get? path = some text := by
  simp

/-- What was not written to is as it was. -/
theorem get?_set_of_ne (store : Memory) (text : Text) (h : path.same other = false) :
    (store.set path text).get? other = store.get? other := by
  simp [h]

/-- Spellings of one path find the same text. -/
theorem get?_congr (store : Memory) (h : path.same other = true) :
    store.get? path = store.get? other := by
  have hf : (fun f : Path × Text => f.1.same path) = fun f => f.1.same other := by
    funext f
    rw [Path.same_comm, Path.same_congr h, Path.same_comm]
  simp [get?, hf]

/-- Logging a call is no writing. -/
@[simp] theorem get?_logged (store : Memory) (call : FileCall) (path other : Path) :
    (store.logged call path).get? other = store.get? other := rfl

/-- A call of a kind for which no fault is planned does not fail. -/
theorem faultFor_eq_none {call : FileCall} (h : ∀ f ∈ store.faults, f.call ≠ call) (path : Path) :
    store.faultFor call path = none := by
  simp only [faultFor, Option.map_eq_none_iff, List.find?_eq_none]
  intro f hf
  simp [h f hf]

/-! ## Reading -/

/-- A text that can be read is the text that is stored. -/
theorem get?_of_read (h : store.read path = .ok text) : store.get? path = some text := by
  unfold read at h
  split at h
  · cases h
  · split at h
    · rename_i found hget
      cases h
      exact hget
    · cases h

/-- What reading answers depends on the planned faults and on the text that is stored. -/
theorem read_congr {store store' : Memory} (hfaults : store'.faults = store.faults)
    (hget : store'.get? path = store.get? path) : store'.read path = store.read path := by
  simp [read, faultFor, hfaults, hget]

/-- Without a planned fault a stored text can be read. -/
theorem read_of_get? (hfault : store.faultFor .read path = none)
    (h : store.get? path = some text) : store.read path = .ok text := by
  simp [read, hfault, h]

/-! ## Stores that only grow -/

/-- A store that another one turned into by writing: every file that was there is still there, and
    faults and outside directories are as they were. -/
structure IsLater (store store' : Memory) : Prop where
  faults : store'.faults = store.faults
  outside : store'.outside = store.outside
  present : ∀ path, (store.get? path).isSome = true → (store'.get? path).isSome = true

theorem IsLater.refl (store : Memory) : IsLater store store := ⟨rfl, rfl, fun _ h => h⟩

/-- What one part of a pass keeps and the next part keeps, both keep. -/
theorem IsLater.trans {a b c : Memory} (h : IsLater a b) (h' : IsLater b c) : IsLater a c :=
  ⟨h'.faults.trans h.faults, h'.outside.trans h.outside,
    fun path hp => h'.present path (h.present path hp)⟩

/-- Logging a call leaves every file where it is. -/
theorem isLater_logged (store : Memory) (call : FileCall) (path : Path) :
    IsLater store (store.logged call path) := ⟨rfl, rfl, fun _ h => h⟩

/-- Setting a text leaves every file where it is, the one that is set included. -/
theorem isLater_set (store : Memory) (path : Path) (text : Text) :
    IsLater store (store.set path text) := by
  refine ⟨rfl, rfl, fun other h => ?_⟩
  rw [get?_set]
  split
  · rfl
  · exact h

/-- **Writing keeps every file there**, whether it is refused or not. -/
theorem isLater_write (store : Memory) (path : Path) (text : Text) :
    IsLater store (store.write path text).2 := by
  unfold write
  split
  · exact isLater_logged store _ _
  · exact (isLater_logged store _ _).trans (isLater_set _ _ _)

end Memory

end RouteLocalizer
