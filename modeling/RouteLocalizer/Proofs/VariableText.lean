/-
  A TEXT SETTING, given in the settings file or in the environment.

  Program: `load` puts the settings file over the defaults and the environment over both.  A file
  can say that a value is a text.  A variable cannot: its value is taken for a switch or a number
  wherever it can be read as one (`ofVariable`), and where a text is asked for, the switch or the
  number is written out again.

  What this way there and back makes of a text is `respelled`.

  1. Either source sets one table in one table, with one value in it (`setAll_table`,
     `setAll_path`), and the settings made of these are the defaults with that value at its key
     (`settings_single`).
  2. A text that passes the check passes it respelled as well (`check_respelled`).  The crux is that
     no switch and no number is written with white space alone.
  3. So a variable loads wherever the file does, and means the same exactly if respelling keeps the
     text.
-/
import Mathlib.Data.List.Forall2
import RouteLocalizer.Proofs.Characters
import RouteLocalizer.Proofs.JsonNumerals
import RouteLocalizer.Proofs.Runs
import RouteLocalizer.Settings.Load
import RouteLocalizer.Store.Disk

namespace RouteLocalizer

open Text Decimal

namespace Settings

/-! ## The text of a variable -/

/-- What a text setting gets from a variable of the given value. -/
def respelled (v : Text) : Text :=
  if toLower v = ['t', 'r', 'u', 'e'] then "true"
  else if toLower v = ['f', 'a', 'l', 's', 'e'] then "false"
  else match readInteger v with
    | some i => ofInt i
    | none =>
      match readDouble v with
      | some d => Notation.plain.write d
      | none => v

/-- **The way there and back**: a variable's value, read as a text. -/
theorem readText_ofVariable (v : Text) :
    (Layer.ofVariable v).readText = .ok (respelled v) := by
  unfold Layer.ofVariable respelled
  split
  · rfl
  split
  · rfl
  cases readInteger v with
  | some i => rfl
  | none =>
    cases readDouble v with
    | some d => rfl
    | none => rfl

/-! ## One value in a table in a table -/

namespace Layer

/-- A table with one section, and in it one key. -/
def single (name key : Text) (value : Layer) : Layer :=
  .table none [(name, .table none [(key, value)])]

/-- A value that is no table. -/
def IsPlain (value : Layer) : Prop := ∀ source entries, value ≠ .table source entries

/-- A value that is no table takes the place of the old one. -/
theorem onTopOf_plain {value : Layer} (plain : IsPlain value) (old : Layer) :
    onTopOf old value = value := by
  cases value with
  | table source entries => exact absurd rfl (plain source entries)
  | _ => rfl

/-- A variable never gives a table. -/
theorem isPlain_ofVariable (v : Text) : IsPlain (ofVariable v) := by
  intro source entries
  unfold ofVariable
  split
  · intro h
    cases h
  split
  · intro h
    cases h
  split
  · intro h
    cases h
  split
  · intro h
    cases h
  · intro h
    cases h

/-- A name that is a key path of its own, in small letters. -/
structure IsKey (name : Text) : Prop where
  small : toLower name = name
  path : readPath name = [.name name]

/-- A table in a table, as a file sets it. -/
theorem setAll_table {name key : Text} {value : Layer} (hname : IsKey name)
    (hkey : toLower key = key) (plain : IsPlain value) (source : Option Text) :
    setAll [(name, .table source [(key, value)])] (.table none []) = single name key value := by
  have hmerge : onTopOf (.table none []) (.table source [(key, value)]) =
      .table none [(key, value)] := by
    simp only [onTopOf, mergeInto, hkey, onTopOf_plain plain]
    rfl
  simp only [setAll, List.foldl_cons, List.foldl_nil, hname.path, setAt, hname.small]
  show Layer.set (.table none []) name (onTopOf (.table none []) _) = _
  rw [hmerge]
  rfl

/-- A table in a table, as a key path of two names sets it. -/
theorem setAll_path {name key path : Text} {value : Layer}
    (hpath : readPath path = [.name name, .name key]) (hname : toLower name = name)
    (hkey : toLower key = key) (plain : IsPlain value) :
    setAll [(path, value)] (.table none []) = single name key value := by
  simp only [setAll, List.foldl_cons, List.foldl_nil, hpath, setAt, hname, hkey,
    onTopOf_plain plain]
  rfl

end Layer

/-! ## Settings with one value -/

/-- Names that are told apart find their own entry. -/
theorem find?_name {α β : Type} {entries : List (Text × α)} {name : Text} {a : α} (f : α → β)
    (distinct : (entries.map Prod.fst).Nodup) (h : (name, a) ∈ entries) :
    ((entries.map fun (n, x) => (n, f x)).find? fun p => p.1 = name) = some (name, f a) := by
  induction entries with
  | nil => cases h
  | cons e entries ih =>
    obtain ⟨n, x⟩ := e
    obtain ⟨hnot, hdistinct⟩ := List.nodup_cons.mp distinct
    rcases List.mem_cons.mp h with heq | hmem
    · cases heq
      simp
    · have hne : n ≠ name := by
        rintro rfl
        exact hnot (List.mem_map.mpr ⟨(n, a), hmem, rfl⟩)
      rw [List.map_cons, List.find?_cons_of_neg (by simpa using hne)]
      exact ih hdistinct hmem

/-- No two tables of the settings have one name, ... -/
theorem nodup_sections : (sections.map Prod.fst).Nodup := by decide

/-- ... and no two keys of a table. -/
theorem nodup_fields {part : Text × Section} (known : part ∈ sections) :
    (part.2.fields.map Prod.fst).Nodup := by
  have hall : ∀ part ∈ sections, (part.2.fields.map Prod.fst).Nodup := by decide
  exact hall part known

variable {part : Text × Section} {key : Text}

/-- **One value makes settings** that are the defaults up to its key. -/
theorem settings_single {field : Field} (known : part ∈ sections)
    (mem : (key, field) ∈ part.2.fields) {value : Layer} {s : Settings}
    (reads : Layer.format.readField field value {} = .ok s) :
    Layer.format.settings (Layer.single part.1 key value) = .ok s := by
  have hsection := find?_name Layer.format.readSection nodup_sections
    (show (part.1, part.2) ∈ sections from known)
  have hfield := find?_name Layer.format.readField (nodup_fields known) mem
  have hread : Layer.format.readSection part.2 (.table none [(key, value)]) {} = .ok s := by
    show Format.fromEntries _ [(key, value)] {} = _
    simp only [Format.fromEntries, hfield, reads]
  show Format.fromEntries _ [(part.1, Layer.table none [(key, value)])] {} = _
  simp only [Format.fromEntries, hsection, hread]

/-! ## The keys -/

/-- A key is one by itself, also behind its section; a variable may have its name. -/
structure KeyFacts (name key : Text) : Prop where
  own : Layer.IsKey name
  small : toLower key = key
  path : Layer.readPath (name ++ '.' :: key) = [.name name, .name key]
  dotted : replaceAll ['_', '_'] ['.'] (name ++ ("__" : Text) ++ key) = name ++ '.' :: key

theorem keyFacts {field : Field} (known : part ∈ sections) (mem : (key, field) ∈ part.2.fields) :
    KeyFacts part.1 key := by
  have hall : ∀ part ∈ sections, ∀ f ∈ part.2.fields,
      (toLower part.1 = part.1 ∧ Layer.readPath part.1 = [.name part.1]) ∧ toLower f.1 = f.1 ∧
        Layer.readPath (part.1 ++ '.' :: f.1) = [.name part.1, .name f.1] ∧
        replaceAll ['_', '_'] ['.'] (part.1 ++ ("__" : Text) ++ f.1) = part.1 ++ '.' :: f.1 := by
    decide +kernel
  obtain ⟨⟨hsmall, hown⟩, hkey, hpath, hvariable⟩ := hall part known (key, field) mem
  exact ⟨⟨hsmall, hown⟩, hkey, hpath, hvariable⟩

/-- What a text field does to the defaults: it writes its text in one place. -/
structure WritesText (put : Text → Settings → Settings) : Prop where
  injective : ∀ v w, put v {} = put w {} → v = w
  required : ∀ v w, List.Forall₂ (fun a b => b.2 = a.2 ∨ a.2 = v ∧ b.2 = w)
    (put v {}).required (put w {}).required
  format : ∀ v w, (put w {}).logging.format = (put v {}).logging.format ∨
    (put v {}).logging.format = v ∧ (put w {}).logging.format = w

/-- What a field of a text does is to write it. -/
def Field.Writes : Field → Prop
  | .text put => WritesText put
  | _ => True

/-- Every field writes its own key. -/
theorem fields_write : ∀ part ∈ sections, ∀ f ∈ part.2.fields, f.2.Writes := by
  -- the sections and their fields, one by one
  repeat' first
    | exact List.forall_mem_nil _
    | refine List.forall_mem_cons.mpr ⟨?_, ?_⟩
  all_goals first | exact trivial | skip
  all_goals
    refine ⟨fun v w h => ?_, fun v w => ?_, fun v w => ?_⟩
    · cases h
      rfl
    · repeat' first
        | exact List.Forall₂.nil
        | refine List.Forall₂.cons ?_ ?_
      all_goals first | exact .inl rfl | exact .inr ⟨rfl, rfl⟩
    · first | exact .inl rfl | exact .inr ⟨rfl, rfl⟩

/-! ## The check -/

/-- What a check asks for: texts that are not blank, and a format for the log that is known. -/
theorem check_eq_ok {s : Settings} : s.check = .ok () ↔
    (∀ r ∈ s.required, trim r.2 ≠ []) ∧ s.logging.format ∈ logFormats := by
  unfold check
  constructor
  · intro h
    split at h
    · cases h
    · rename_i hnone
      split at h
      · rename_i hformat
        refine ⟨fun r hr hnil => ?_, hformat⟩
        have := List.find?_eq_none.mp hnone r hr
        simp [hnil] at this
      · cases h
  · rintro ⟨hrequired, hformat⟩
    split
    · rename_i key value hfound
      have hmem := List.mem_of_find?_eq_some hfound
      have hempty := List.find?_some hfound
      exact absurd (List.isEmpty_iff.mp hempty) (hrequired (key, value) hmem)
    · rw [if_pos hformat]

/-- Settings that are checked come out as they are. -/
theorem checked_eq_ok {s s' : Settings} : s.checked = .ok s' ↔ s' = s ∧ s.check = .ok () := by
  unfold checked
  cases hcheck : s.check with
  | ok u =>
    constructor
    · intro h
      cases h
      exact ⟨rfl, rfl⟩
    · rintro ⟨rfl, -⟩
      rfl
  | error refusal =>
    constructor
    · intro h
      cases h
    · rintro ⟨-, h⟩
      cases h

/-- A text of characters that are no white space is left by trimming. -/
theorem trim_ne_nil {v : Text} (hne : v ≠ []) (h : ∀ c ∈ v, isBlank c = false) : trim v ≠ [] := by
  have hfirst : v.head?.any isBlank = false := by
    obtain ⟨c, v, rfl⟩ := List.exists_cons_of_ne_nil hne
    simpa using h c (by simp)
  have hlast : v.getLast?.any isBlank = false := by
    obtain ⟨front, c, rfl⟩ := exists_concat hne
    simpa using h c (by simp)
  have htrim : trim ([] ++ v) = v := trim_of_ink (by simp) hfirst hlast
  rw [List.nil_append] at htrim
  rwa [htrim]

/-- A numeral is not blank, ... -/
theorem trim_numeral {v : Text} (h : Json.IsNumeral v) : trim v ≠ [] := by
  refine trim_ne_nil h.1 fun c hc => ?_
  rw [Bool.eq_false_iff]
  intro hblank
  have hnumeral := of_isBlank (P := fun c => Json.isNumeral c = false) (by decide) hblank
  rw [h.2 c hc] at hnumeral
  cases hnumeral

/-- ... so no number is written blank. -/
theorem trim_write (d : Double) : trim (Notation.plain.write d) ≠ [] := by
  cases d with
  | finite negative mantissa exponent =>
    exact trim_numeral (Json.isNumeral_write (by decide) negative mantissa exponent)
  | infinite negative => cases negative <;> decide
  | nan => decide

/-- **What is respelled is not empty**, if the text was not. -/
theorem trim_respelled {v : Text} (h : trim v ≠ []) : trim (respelled v) ≠ [] := by
  unfold respelled
  split
  · decide
  split
  · decide
  cases readInteger v with
  | some i => exact trim_numeral (Json.isNumeral_ofInt i)
  | none =>
    cases readDouble v with
    | some d => exact trim_write d
    | none => exact h

/-- No format of the log reads as a switch or a number. -/
theorem respelled_logFormat {v : Text} (h : v ∈ logFormats) : respelled v = v := by
  have hall : ∀ v ∈ logFormats, respelled v = v := by decide +kernel
  exact hall v h

/-- What follows for every pair of entries follows for all entries of the second list. -/
theorem forall_mem_of_forall₂ {α β : Type} {R : α → β → Prop} {P : α → Prop} {Q : β → Prop}
    {as : List α} {bs : List β} (h : List.Forall₂ R as bs) (step : ∀ a b, R a b → P a → Q b)
    (all : ∀ a ∈ as, P a) : ∀ b ∈ bs, Q b := by
  induction h with
  | nil => exact List.forall_mem_nil _
  | cons hab _ ih =>
    obtain ⟨ha, has⟩ := List.forall_mem_cons.mp all
    exact List.forall_mem_cons.mpr ⟨step _ _ hab ha, ih has⟩

/-- **What passes the check passes it respelled**, whatever key the text stands under. -/
theorem check_respelled {put : Text → Settings → Settings} (writes : WritesText put) {v : Text}
    (h : (put v {}).check = .ok ()) : (put (respelled v) {}).check = .ok () := by
  obtain ⟨hrequired, hformat⟩ := check_eq_ok.mp h
  refine check_eq_ok.mpr ⟨?_, ?_⟩
  · refine forall_mem_of_forall₂ (writes.required v (respelled v)) ?_ hrequired
    rintro a b (hsame | ⟨hv, hw⟩) ha
    · rw [hsame]
      exact ha
    · rw [hw]
      rw [hv] at ha
      exact trim_respelled ha
  · rcases writes.format v (respelled v) with hsame | ⟨hv, hw⟩
    · rw [hsame]
      exact hformat
    · rw [hv] at hformat
      rw [hw, respelled_logFormat hformat]
      exact hformat

/-! ## Loading -/

end Settings

namespace Disk

variable {α β : Type} {d : Disk} {path : Path}

/-- A program over the disk hands on its answer and the disk it left. -/
theorem bind_apply (x : StateM Disk α) (f : α → StateM Disk β) :
    (x >>= f) d = f (x d).1 (x d).2 := rfl

theorem read_apply : (Files.read path : StateM Disk (Except FileFault Text)) d =
    (reported (d.read path), d) := rfl

theorem isPresent_apply : (Files.isPresent path : StateM Disk Bool) d = (d.isPresent path, d) :=
  rfl

theorem isDirectory_apply :
    (Files.isDirectory path : StateM Disk Bool) d = (d.isDirectory path, d) := rfl

/-- What can be read as a text is there, and it is no directory. -/
theorem facts_of_read {content : Text} (h : d.read path = .ok content) :
    d.isPresent path = true ∧ d.isDirectory path = false := by
  unfold read at h
  unfold isPresent isDirectory
  split at h
  · cases h
  · cases h
  · rename_i heq
    rw [heq]
    exact ⟨rfl, rfl⟩
  · cases h

end Disk

namespace Settings

variable {here dir file : Path} {d : Disk}

/-- A settings file that can be read sets what it holds. -/
theorem readProject_of_read (here : Path) {content : Text} (h : d.read file = .ok content) :
    (readProject here file : StateM Disk (Except Failure Layer.Entries)) d =
      ((FileFormat.toml.entries (here.seenFrom file) content).mapError .configuration, d) := by
  obtain ⟨hpresent, hdirectory⟩ := Disk.facts_of_read h
  simp only [readProject, readFile, Disk.bind_apply, Disk.isPresent_apply, hpresent,
    Bool.not_true, Bool.false_eq_true, if_false, Disk.isDirectory_apply, hdirectory,
    Bool.not_false, if_true, Disk.read_apply, h]
  rfl

/-- Without a settings file there is nothing that it sets. -/
theorem readProject_of_absent (h : d.isPresent file = false) :
    (readProject here file : StateM Disk (Except Failure Layer.Entries)) d = (.ok [], d) := by
  simp only [readProject, Disk.bind_apply, Disk.isPresent_apply, h]
  rfl

/-- What loading the settings of a directory answers on a disk. -/
def loaded (d : Disk) (here dir : Path) (env : List (Text × Text)) : Except Failure Settings :=
  ((load here dir env : StateM Disk (Except Failure Settings)) d).1

/-- What is loaded when the project's own file could be read. -/
theorem loaded_of_readProject {entries : Layer.Entries} {env : List (Text × Text)} {s : Settings}
    (h : (readProject here (dir.join ⟨fileName⟩) : StateM Disk (Except Failure Layer.Entries)) d =
      (.ok entries, d)) (layers : ofLayers entries env = .ok s) :
    loaded d here dir env = s.checked := by
  simp only [loaded, load, Disk.bind_apply, h, layers]
  rfl

/-- The variables of an environment that are settings. -/
def settingVariables (env : List (Text × Text)) : List (Text × Text) :=
  env.filter fun w => (Layer.variableKey w.1).isSome

/-- No other variables matter. -/
theorem ofEnvironment_settingVariables (env : List (Text × Text)) :
    Layer.ofEnvironment (settingVariables env) = Layer.ofEnvironment env := by
  unfold Layer.ofEnvironment settingVariables
  rw [List.filterMap_filter]
  congr 1
  funext w
  cases Layer.variableKey w.1 <;> rfl

/-- The name of a variable, in letters of any case, that stands for a key of a section. -/
def IsVariableOf (name key var : Text) : Prop :=
  toLower var = Layer.variableStart ++ (name ++ ("__" : Text) ++ key)

instance (name key var : Text) : Decidable (IsVariableOf name key var) :=
  inferInstanceAs (Decidable (_ = _))

/-- The key that a variable's name stands for. -/
theorem variableKey_eq {field : Field} (known : part ∈ sections)
    (mem : (key, field) ∈ part.2.fields) {var : Text}
    (h : IsVariableOf part.1 key var) :
    Layer.variableKey var = some (part.1 ++ '.' :: key) := by
  rw [Layer.variableKey, show toLower var = _ from h, afterWord_eq_some_iff.mpr rfl,
    Option.map_some, (keyFacts known mem).dotted]

variable {put : Text → Settings → Settings} {v : Text}

/-- A file that holds one text and nothing else makes settings with that text. -/
theorem ofLayers_file (known : part ∈ sections) (field : (key, .text put) ∈ part.2.fields)
    {source : Text} {env : List (Text × Text)} (silent : settingVariables env = []) :
    ofLayers [(part.1, .table (some source) [(key, .text source v)])] env = .ok (put v {}) := by
  have facts := keyFacts known field
  have henv : Layer.ofEnvironment env = [] := by
    rw [← ofEnvironment_settingVariables, silent]
    rfl
  have hplain : Layer.IsPlain (.text source v) := by
    intro source entries h
    cases h
  rw [ofLayers, henv, Layer.setAll_table facts.own facts.small hplain]
  exact settings_single known field rfl

/-- One variable makes settings with its text, respelled. -/
theorem ofLayers_variable (known : part ∈ sections) (field : (key, .text put) ∈ part.2.fields)
    {env : List (Text × Text)} {var : Text} (spelled : IsVariableOf part.1 key var)
    (only : settingVariables env = [(var, v)]) :
    ofLayers [] env = .ok (put (respelled v) {}) := by
  have facts := keyFacts known field
  have henv : Layer.ofEnvironment env = [(part.1 ++ '.' :: key, Layer.ofVariable v)] := by
    rw [← ofEnvironment_settingVariables, only]
    simp only [Layer.ofEnvironment, List.filterMap_cons, variableKey_eq known field spelled]
    rfl
  have hnone : Layer.setAll [] (.table none []) = .table none [] := rfl
  rw [ofLayers, hnone, henv, Layer.setAll_path facts.path facts.own.small facts.small
    (Layer.isPlain_ofVariable v)]
  refine settings_single known field ?_
  show (Layer.ofVariable v).readText.map _ = _
  rw [readText_ofVariable]
  rfl

/-- A settings file that holds one text under one key, and nothing else. -/
def HoldsOnly (name key v content : Text) : Prop :=
  Toml.read content = some (.table [(name, .table [(key, .string v)])])

/-- Whether a value holds one text under one key, and nothing else. -/
def isOnly (name key v : Text) : Option Toml → Bool
  | some (.table [(n, .table [(k, .string t)])]) => n = name && k = key && t = v
  | _ => false

theorem isOnly_iff {name : Text} {value : Option Toml} : isOnly name key v value = true ↔
    value = some (.table [(name, .table [(key, .string v)])]) := by
  constructor
  · intro h
    unfold isOnly at h
    split at h
    · simp only [Bool.and_eq_true, decide_eq_true_eq] at h
      obtain ⟨⟨rfl, rfl⟩, rfl⟩ := h
      rfl
    · cases h
  · rintro rfl
    simp [isOnly]

instance (name key v content : Text) : Decidable (HoldsOnly name key v content) :=
  decidable_of_iff (isOnly name key v (Toml.read content) = true) isOnly_iff

/-- A settings file that holds one text, as it is read. -/
theorem entries_of_holds {source content name : Text} (holds : HoldsOnly name key v content) :
    FileFormat.toml.entries source content =
      .ok [(name, .table (some source) [(key, .text source v)])] := by
  simp only [FileFormat.entries, FileFormat.value, show Toml.read content = _ from holds]
  rfl

/-- **A text from the environment is respelled.**  Wherever a settings file with one text loads,
    the text goes to its key as it is; a variable of that value loads as well, and the key gets the
    text respelled.  So the two mean the same exactly if respelling keeps the text. -/
theorem loaded_variable (known : part ∈ sections) (field : (key, .text put) ∈ part.2.fields)
    {withFile without : Disk} {content var : Text} {quiet env : List (Text × Text)}
    (read : withFile.read (dir.join ⟨fileName⟩) = .ok content)
    (holds : HoldsOnly part.1 key v content)
    (silent : settingVariables quiet = [])
    (absent : without.isPresent (dir.join ⟨fileName⟩) = false)
    (spelled : IsVariableOf part.1 key var)
    (only : settingVariables env = [(var, v)]) {s : Settings}
    (loads : loaded withFile here dir quiet = .ok s) :
    s = put v {} ∧ loaded without here dir env = .ok (put (respelled v) {}) ∧
      (loaded without here dir env = loaded withFile here dir quiet ↔ respelled v = v) := by
  have writes : WritesText put := fields_write part known (key, .text put) field
  have hproject := readProject_of_read here read
  rw [entries_of_holds holds] at hproject
  have hfile := loads
  rw [loaded_of_readProject hproject (ofLayers_file known field silent)] at hfile
  obtain ⟨rfl, hcheck⟩ := checked_eq_ok.mp hfile
  have henv : loaded without here dir env = .ok (put (respelled v) {}) := by
    rw [loaded_of_readProject (readProject_of_absent absent)
      (ofLayers_variable known field spelled only)]
    exact checked_eq_ok.mpr ⟨rfl, check_respelled writes hcheck⟩
  refine ⟨rfl, henv, ?_⟩
  rw [henv, loads]
  constructor
  · intro h
    exact writes.injective _ _ (Except.ok.inj h)
  · intro h
    rw [h]

/-- A version that is no number is the same from both. -/
theorem loaded_variable_sample :
    let file : Text := "[dependency]\nversion = \"^2.0\"\n"
    let withFile : Disk := ⟨[(["p"], .directory), (["p", "lang-router.toml"], .text file)], []⟩
    let without : Disk := ⟨[(["p"], .directory)], []⟩
    let env : List (Text × Text) := [("HOME", "/"), ("Lang_Router_Dependency__Version", "^2.0")]
    loaded without ⟨"/"⟩ ⟨"/p"⟩ env = loaded withFile ⟨"/"⟩ ⟨"/p"⟩ [("HOME", "/")] := by
  intro file withFile without env
  have known : (("dependency" : Text), dependencySection) ∈ sections :=
    List.mem_cons_of_mem _ List.mem_cons_self
  have field : (("version" : Text), Field.text fun t s =>
      { s with dependency := { s.dependency with version := t } }) ∈ dependencySection.fields :=
    List.mem_cons_of_mem _ List.mem_cons_self
  have holds : HoldsOnly "dependency" "version" "^2.0" file := by decide +kernel
  have read : withFile.read ((⟨"/p"⟩ : Path).join ⟨fileName⟩) = .ok file := by decide +kernel
  have absent : without.isPresent ((⟨"/p"⟩ : Path).join ⟨fileName⟩) = false := by decide +kernel
  have spelled : IsVariableOf "dependency" "version" "Lang_Router_Dependency__Version" := by
    decide +kernel
  have loads : loaded withFile ⟨"/"⟩ ⟨"/p"⟩ [("HOME", "/")] =
      .ok { dependency := { version := "^2.0" } } := by
    decide +kernel
  exact (loaded_variable known field read holds (by decide +kernel) absent spelled
    (by decide +kernel) loads).2.2.mpr (by decide +kernel)

/-- **A version that reads as a number is not**: its last zero counts for a text only. -/
theorem loaded_differs :
    let file : Text := "[dependency]\nversion = \"1.20\"\n"
    let withFile : Disk := ⟨[(["p"], .directory), (["p", "lang-router.toml"], .text file)], []⟩
    let without : Disk := ⟨[(["p"], .directory)], []⟩
    HoldsOnly "dependency" "version" "1.20" file ∧
      loaded withFile ⟨"/"⟩ ⟨"/p"⟩ [] = .ok { dependency := { version := "1.20" } } ∧
      loaded without ⟨"/"⟩ ⟨"/p"⟩ [("LANG_ROUTER_DEPENDENCY__VERSION", "1.20")] =
        .ok { dependency := { version := "1.2" } } := by
  decide +kernel

/-- Other texts that are respelled: a switch, a number with zeros in front, words for numbers. -/
example : ["TRUE", "007", "+5", "1e3", "nan", "Infinity"].map (fun v : String => respelled v) =
    ["true", "7", "5", "1000", "NaN", "inf"].map String.toList := by
  decide +kernel

end Settings

end RouteLocalizer
