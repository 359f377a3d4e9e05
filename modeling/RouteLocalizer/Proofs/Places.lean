/-
  Where the files of a pass LIE, and that no two of them are one file.

  PROGRAM: a path is a text; `join` puts one behind another, and paths are compared by their
  components — what stands between slashes, with single dots and empty parts left out.
  SPECIFICATION:
  (1) `components_join` — a path joined to a root has the root's components in front of its own,
      however the root is spelt;
  (2) `filesApart` — the four files that a pass edits are four, below every root;
  (3) `examples_apart` — the targets of the built-in templates differ from them and from each other.

  The crux is (1): two files below one root are told apart by the components behind the root, and
  those are plain texts, so that what is left of (2) and (3) is decided.
-/
import Mathlib.Data.List.Permutation
import RouteLocalizer.Pass.Run
import RouteLocalizer.Proofs.Store

namespace RouteLocalizer

/-! ## Components of a joined path -/

/-- Every text has at least one piece. -/
theorem Text.pieces_ne_nil (separator : Char) (text : Text) : pieces separator text ≠ [] := by
  cases text with
  | nil => simp [pieces]
  | cons c cs =>
    by_cases h : c = separator
    · simp [pieces, h]
    · simp only [pieces, h, if_false]
      split <;> simp

/-- A separator cuts a text, whatever stands around it. -/
theorem Text.pieces_append (separator : Char) (a b : Text) :
    pieces separator (a ++ separator :: b) = pieces separator a ++ pieces separator b := by
  induction a with
  | nil => simp [pieces]
  | cons c cs ih =>
    by_cases h : c = separator
    · simp [pieces, h, ih]
    · simp only [List.cons_append, pieces, h, if_false, ih]
      cases hcs : pieces separator cs with
      | nil => exact absurd hcs (pieces_ne_nil separator cs)
      | cons p ps => rfl

namespace Path

/-- The components of the pieces that a path starts with when it does not start at the root. -/
def startComponents : List Text → List Component
  | ['.'] :: rest => .current :: rest.filterMap pieceComponent
  | all => all.filterMap pieceComponent

/-- Only the first piece is special at the start of a path. -/
theorem startComponents_append {front : List Text} (h : front ≠ []) (behind : List Text) :
    startComponents (front ++ behind) =
      startComponents front ++ behind.filterMap pieceComponent := by
  cases front with
  | nil => exact absurd rfl h
  | cons p ps =>
    by_cases hp : p = ['.']
    · simp [hp, startComponents]
    · have hstart : ∀ rest, startComponents (p :: rest) = (p :: rest).filterMap pieceComponent := by
        intro rest
        unfold startComponents
        split
        · rename_i heq
          exact absurd (List.cons.inj heq).1 hp
        · rfl
      rw [List.cons_append, hstart, hstart, ← List.cons_append, List.filterMap_append]

/-- A path from the root starts with the root, ... -/
theorem components_root (text : Text) :
    components ⟨'/' :: text⟩ = .root :: (Text.pieces '/' text).filterMap pieceComponent := rfl

/-- ... and any other one with its first piece. -/
theorem components_start {c : Char} (h : c ≠ '/') (text : Text) :
    components ⟨c :: text⟩ = startComponents (Text.pieces '/' (c :: text)) := by
  simp only [components, layout]
  split
  · rename_i heq
    cases heq
  · rename_i heq
    exact absurd (List.cons.inj heq).1 h
  · rename_i heq _
    unfold startComponents
    split <;> simp_all

/-- The components that a text adds to a path in front of it. -/
def componentsBelow (text : Text) : List Component :=
  (Text.pieces '/' text).filterMap pieceComponent

/-- A spelling, cut at one of its slashes. -/
theorem components_append (front behind : Text) :
    components ⟨front ++ '/' :: behind⟩ =
      components ⟨front ++ ['/']⟩ ++ componentsBelow behind := by
  cases front with
  | nil => rfl
  | cons c cs =>
    by_cases hc : c = '/'
    · subst hc
      simp only [List.cons_append, components_root, Text.pieces_append, List.filterMap_append]
      simp [componentsBelow, Text.pieces, pieceComponent]
    · simp only [List.cons_append, components_start hc]
      rw [← List.cons_append, ← List.cons_append, Text.pieces_append, Text.pieces_append,
        startComponents_append (Text.pieces_ne_nil _ _),
        startComponents_append (Text.pieces_ne_nil _ _)]
      simp [componentsBelow, Text.pieces, pieceComponent]

/-- A slash at the end means nothing. -/
theorem components_slash {text : Text} (h : text ≠ []) :
    components ⟨text ++ ['/']⟩ = components ⟨text⟩ := by
  cases text with
  | nil => exact absurd rfl h
  | cons c cs =>
    by_cases hc : c = '/'
    · subst hc
      simp only [List.cons_append, components_root, Text.pieces_append, List.filterMap_append]
      simp [Text.pieces, pieceComponent]
    · simp only [List.cons_append, components_start hc]
      rw [← List.cons_append, Text.pieces_append, startComponents_append (Text.pieces_ne_nil _ _)]
      simp [Text.pieces, pieceComponent]

/-- A text that names a place below another one: it starts neither at the root nor with a dot that
    stands alone. -/
def IsBelow (text : Text) : Prop :=
  (⟨text⟩ : Path).isAbsolute = false ∧ components ⟨text⟩ = componentsBelow text

instance (text : Text) : Decidable (IsBelow text) := inferInstanceAs (Decidable (_ ∧ _))

/-- **The components of a joined path** are those of the root and those of the text. -/
theorem components_join (root : Path) {text : Text} (h : IsBelow text) :
    (root.join ⟨text⟩).components = root.components ++ componentsBelow text := by
  obtain ⟨relative, start⟩ := h
  unfold join
  by_cases hroot : root.spelling = []
  · have : root = ⟨[]⟩ := by cases root; simp_all
    rw [if_pos (.inr hroot), start, this]
    rfl
  · rw [if_neg (by simp [relative, hroot])]
    split
    · rename_i hslash
      obtain ⟨front, hfront⟩ := List.getLast?_eq_some_iff.mp hslash
      have hjoined : root.spelling ++ text = front ++ '/' :: text := by simp [hfront]
      rw [hjoined, components_append, ← hfront]
    · rw [components_append, components_slash hroot]

/-- Two places below one root are the same when the components behind the root are. -/
theorem same_join (root : Path) {a b : Text} (ha : IsBelow a) (hb : IsBelow b) :
    (root.join ⟨a⟩).same (root.join ⟨b⟩) = decide (componentsBelow a = componentsBelow b) := by
  simp [same, components_join root ha, components_join root hb]

end Path

/-! ## The files of a project -/

namespace Project

variable (p : Project)

/-- The files that a pass edits, in the order of its steps. -/
def editedFiles : List Path := [p.manifestFile, p.entryFile, p.routerFile, p.appFile]

/-- What stands behind the root in the files that a pass edits. -/
def editedComponents (script : Script) : List (List Component) :=
  [[.name "package.json"],
    [.name "src", .name ("main." ++ script.extension)],
    [.name "src", .name "router", .name ("index." ++ script.extension)],
    [.name "src", .name "App.vue"]]

/-- A file of the sources lies behind the root and `src`. -/
theorem components_sourceFile {relative : Text} (h : Path.IsBelow relative) :
    (p.sourceFile relative).components =
      p.root.components ++ (.name "src" :: Path.componentsBelow relative) := by
  unfold sourceFile
  rw [Path.components_join _ h, Path.components_join _ (by decide), List.append_assoc]
  rfl

/-- The four files, by what stands behind the root. -/
theorem components_editedFiles : p.editedFiles.map Path.components =
    (editedComponents p.script).map (p.root.components ++ ·) := by
  have hmanifest : p.manifestFile.components =
      p.root.components ++ [.name "package.json"] := by
    unfold manifestFile manifestAt
    rw [Path.components_join _ (by decide)]
    rfl
  have hentry : Path.IsBelow ("main." ++ p.script.extension) := by cases p.script <;> decide
  have hindex : Path.IsBelow ("index." ++ p.script.extension) := by cases p.script <;> decide
  have hrouter : p.routerFile.components = p.root.components ++
      [.name "src", .name "router", .name ("index." ++ p.script.extension)] := by
    unfold routerFile
    rw [Path.components_join _ hindex, p.components_sourceFile (by decide)]
    cases p.script <;> simp <;> rfl
  simp only [editedFiles, editedComponents, List.map_cons, List.map_nil, hmanifest, hrouter,
    entryFile, appFile, p.components_sourceFile hentry,
    p.components_sourceFile (show Path.IsBelow "App.vue" by decide)]
  cases p.script <;> rfl

/-- **No two of the files that a pass edits are one file**, under any root. -/
theorem editedFiles_pairwise :
    p.editedFiles.Pairwise fun f g => f.same g = false := by
  have hne : (editedComponents p.script).Pairwise (· ≠ ·) := by cases p.script <;> decide
  have hall : ((editedComponents p.script).map (p.root.components ++ ·)).Pairwise (· ≠ ·) := by
    rw [List.pairwise_map]
    exact hne.imp fun h heq => h (List.append_cancel_left heq)
  rw [← p.components_editedFiles, List.pairwise_map] at hall
  exact hall.imp fun h => by simp [Path.same, h]

/-- To say something of all four is to say it of each. -/
theorem forall_editedFiles {P : Path → Prop} : (∀ file ∈ p.editedFiles, P file) ↔
    P p.manifestFile ∧ P p.entryFile ∧ P p.routerFile ∧ P p.appFile := by
  simp [editedFiles]

/-- The four files, pair by pair. -/
structure FilesApart : Prop where
  manifest_entry : p.manifestFile.same p.entryFile = false
  manifest_router : p.manifestFile.same p.routerFile = false
  manifest_app : p.manifestFile.same p.appFile = false
  entry_router : p.entryFile.same p.routerFile = false
  entry_app : p.entryFile.same p.appFile = false
  router_app : p.routerFile.same p.appFile = false

/-- **The files that a pass edits are apart**, two by two. -/
theorem filesApart : p.FilesApart := by
  have h := p.editedFiles_pairwise
  simp only [editedFiles, List.pairwise_cons, List.mem_cons, List.not_mem_nil, or_false,
    forall_eq_or_imp, forall_eq] at h
  obtain ⟨⟨hme, hmr, hma⟩, ⟨her, hea⟩, hra, -⟩ := h
  exact ⟨hme, hmr, hma, her, hea, hra⟩

end Project

/-! ## The targets of templates -/

namespace Template

/-- Templates that go to different files, none of which is one that a pass edits. -/
structure TargetsApart (s : Settings) (day : Day) (p : Project) (templates : List Template) :
    Prop where
  pairwise : templates.Pairwise fun t u =>
    (target p.root (standardValues s p.script day) t).same
      (target p.root (standardValues s p.script day) u) = false
  edited : ∀ t ∈ templates, ∀ file ∈ p.editedFiles,
    (target p.root (standardValues s p.script day) t).same file = false

/-- Where the built-in templates go. -/
def exampleTargets (script : Script) : List Text :=
  ["src/lang/translations/index." ++ script.extension,
    "src/lang/translations/en.json",
    "src/lang/translations/cs.json",
    "src/lang/localized-urls/index." ++ script.extension,
    "src/lang/localized-urls/cs.json"]

/-- Where the built-in templates go does not depend on the settings or the day. -/
theorem fill_examples (s : Settings) (script : Script) (day : Day) :
    examples.map (fun t => (standardValues s script day).fill t.relative) =
      exampleTargets script := by
  cases script <;> cbv

/-- **The built-in templates are apart**, under any root and with any settings. -/
theorem examples_apart (s : Settings) (day : Day) (p : Project) :
    TargetsApart s day p examples := by
  have hbelow : ∀ text ∈ exampleTargets p.script, Path.IsBelow text := by
    cases p.script <;> decide
  have hpairwise : (exampleTargets p.script).Pairwise fun a b =>
      Path.componentsBelow a ≠ Path.componentsBelow b := by cases p.script <;> decide
  have hedited : ∀ text ∈ exampleTargets p.script,
      Path.componentsBelow text ∉ Project.editedComponents p.script := by
    cases p.script <;> decide
  rw [← fill_examples s p.script day] at hbelow hpairwise hedited
  rw [List.pairwise_map] at hpairwise
  constructor
  · refine hpairwise.imp_of_mem fun {t u} ht hu hne => ?_
    unfold target
    rw [Path.same_join _ (hbelow _ (List.mem_map_of_mem ht)) (hbelow _ (List.mem_map_of_mem hu))]
    exact decide_eq_false hne
  · intro t ht file hfile
    have hcomponents : file.components ∈ p.editedFiles.map Path.components :=
      List.mem_map_of_mem hfile
    rw [p.components_editedFiles, List.mem_map] at hcomponents
    obtain ⟨behind, hbehind, heq⟩ := hcomponents
    have htext : (standardValues s p.script day).fill t.relative ∈
        examples.map fun t => (standardValues s p.script day).fill t.relative :=
      List.mem_map_of_mem ht
    simp only [Path.same, target, Path.components_join _ (hbelow _ htext), ← heq,
      List.append_cancel_left_eq, decide_eq_false_iff_not]
    rintro rfl
    exact hedited _ htext hbehind

end Template

end RouteLocalizer
