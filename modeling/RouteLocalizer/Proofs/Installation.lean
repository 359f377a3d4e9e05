/-
  WHAT THE LOCALIZED ROUTER IS INSTALLED WITH when the example files are there.

  The install call that the edit writes names what it imported of them, and it is the first one of
  the localized router unless one stood in front of it before.  The edit only looks for the stock
  router's call, so a file that was wired without the example files keeps its bare call, and nothing
  is said about it.

  SPECIFICATION (`routerStep_passes`): after a router step without a warning, with the example
  files there,
  (1) the localized router is installed;
  (2) and if no call of it stood in front of the one that is edited, the first call passes the
      example files on.

  That a bare call stays bare is `routerStep_keeps_bare`.
-/
import RouteLocalizer.Proofs.Detection
import RouteLocalizer.Proofs.InstallCall
import RouteLocalizer.Sample

namespace RouteLocalizer

namespace Pass

open Text Import Script

variable {s : Settings} {text : Text}

/-! ## The arguments of the localized router -/

/-- What the install call passes, up to the default language. -/
def argsFront (newline : Text) : Text :=
  ", " ++ (['\x7b'] ++ newline ++ ("  " ++ "defaultLanguage: '"))

/-- What the install call passes behind the default language. -/
def argsBack (newline : Text) : Text :=
  "'" ++ ("," ++ newline ++ ("  " ++ "translations" ++ "," ++ newline ++
    ("  " ++ "localizedURLs" ++ "," ++ newline ++ ['\x7d'])))

/-- What stands behind the symbol in the install call of the localized router. -/
def exampleInner (s : Settings) (newline : Text) : Text :=
  argsFront newline ++ (s.i18n.defaultLanguage ++ argsBack newline)

theorem installText_exampleArgs (s : Settings) (newline : Text) :
    installText s.router (exampleArgs s) newline =
      installed s.router.host s.router.toSymbol (exampleInner s newline) := by
  have hentries : (exampleArgs s).entries =
      [InstallArgs.languageProperty s.i18n.defaultLanguage, "translations", "localizedURLs"] := by
    have hproperty : ∀ key : Text, InstallArgs.property key key = key := fun key => if_pos rfl
    rw [InstallArgs.entries, exampleArgs, Option.map_some, Option.map_some, Option.map_some,
      hproperty, hproperty]
    rfl
  have hempty : (exampleArgs s).isEmpty = false := rfl
  -- the literals are opaque here: comparing them with each other is slow
  have hassoc : ∀ host use symbol next opening indent key language quote comma messages urls closing
      close : Text, host ++ use ++ symbol ++ next ++ (opening ++ newline ++
        ((indent ++ (key ++ language ++ quote) ++ comma ++ newline) ++
          ((indent ++ messages ++ comma ++ newline) ++
            ((indent ++ urls ++ comma ++ newline) ++ []))) ++ closing) ++ close =
        host ++ use ++ symbol ++ (next ++ (opening ++ newline ++ (indent ++ key)) ++ (language ++
          (quote ++ (comma ++ newline ++ (indent ++ messages ++ comma ++ newline ++
            (indent ++ urls ++ comma ++ newline ++ closing)))))) ++ close := by
    intros
    simp only [List.append_assoc, List.append_nil]
  rw [installText, hempty, if_neg Bool.false_ne_true, InstallArgs.render, hentries, installed_eq]
  exact hassoc s.router.host ".use(" s.router.toSymbol ", " ['\x7b'] "  " "defaultLanguage: '"
    s.i18n.defaultLanguage "'" "," "translations" "localizedURLs" ['\x7d'] ")"

theorem encloses_args (text : Text) :
    Encloses (argsFront (lineEnding text)) (argsBack (lineEnding text)) := by
  have hall : ∀ newline ∈ [(['\n'] : Text), ['\r', '\n']],
      (')' ∉ argsFront newline ∧ ')' ∉ argsBack newline) ∧
      ((argsFront newline).IsChain (fun c d => c = 'w' → isBlank d = false) ∧
        (argsBack newline).IsChain fun c d => c = 'w' → isBlank d = false) ∧
      (argsFront newline).head? = some ',' ∧
      (argsFront newline).getLast? = some '\'' ∧ (argsBack newline).head? = some '\'' := by
    decide +kernel
  obtain ⟨closes, unspaced, starts, quoted⟩ := hall (lineEnding text) (lineEnding_mem text)
  exact ⟨closes, unspaced, starts, quoted⟩

/-- Whether an install call names what the edit imports of the example files. -/
def PassesExamples (call : Passage) : Prop :=
  ∀ key ∈ exampleSymbols, hasIdentifier key call.body = true

instance (call : Passage) : Decidable (PassesExamples call) :=
  inferInstanceAs (Decidable (∀ key ∈ exampleSymbols, hasIdentifier key call.body = true))

/-- The install call that is written names the example files, whatever it quotes. -/
theorem passesExamples_installed {call : Passage} {host symbol front language : Text} (text : Text)
    (h : call.body = installed host symbol (front ++ (language ++ argsBack (lineEnding text)))) :
    PassesExamples call := by
  intro key hkey
  have hall : ∀ newline ∈ [(['\n'] : Text), ['\r', '\n']], ∀ key ∈ exampleSymbols,
      ' ' :: (key ++ [',']) <:+: argsBack newline := by decide +kernel
  have hnames : ∀ key ∈ exampleSymbols, IsIdentifier key := by decide +kernel
  obtain ⟨u, v, hback⟩ := hall (lineEnding text) (lineEnding_mem text) key hkey
  have hsplit : call.body = (callHead host symbol front ++ (language ++ u)) ++
      ' ' :: (key ++ ',' :: (v ++ [')'])) := by
    rw [h, ← List.append_nil (installed ..), installed_quoted, ← hback]
    simp
  rw [hsplit]
  exact hasIdentifier_between (hnames key hkey) (by decide +kernel)
    (show isIdentifierChar ',' = false by decide)

/-- Names that an install call can be told by, and a language that does not end it. -/
structure Passing (s : Settings) : Prop where
  host : IsSymbol s.router.host
  fromSymbol : IsSymbol s.router.fromSymbol
  toSymbol : IsSymbol s.router.toSymbol
  apart : s.router.host ≠ s.router.fromSymbol ∧ s.router.host ≠ s.router.toSymbol
  language : ')' ∉ s.i18n.defaultLanguage

instance (s : Settings) : Decidable (Passing s) :=
  decidable_of_iff (IsSymbol s.router.host ∧ IsSymbol s.router.fromSymbol ∧
      IsSymbol s.router.toSymbol ∧ (s.router.host ≠ s.router.fromSymbol ∧
        s.router.host ≠ s.router.toSymbol) ∧ ')' ∉ s.i18n.defaultLanguage)
    ⟨fun ⟨host, fromSymbol, toSymbol, apart, language⟩ =>
      ⟨host, fromSymbol, toSymbol, apart, language⟩,
      fun h => ⟨h.host, h.fromSymbol, h.toSymbol, h.apart, h.language⟩⟩

/-- **Where the localized router was not installed in front of the stock router**, the edit installs
    it with the example files, or does not install it at all. -/
theorem routerText_passes (h : Passing s) {call : Passage}
    (fresh : StartsNoCallBefore s.router.host s.router.fromSymbol s.router.toSymbol
      (importedText s true text))
    (found : findInstallCall s.router.host s.router.toSymbol (routerText s true text) =
      some call) : PassesExamples call := by
  obtain ⟨hfrom, hto⟩ := h.apart
  rw [routerText_eq, if_pos rfl, swapRouter, swapInstallCall] at found
  cases hp : findInstallCall s.router.host s.router.fromSymbol (importedText s true text) with
  | none =>
    have hnone : findInstallCall s.router.host s.router.toSymbol (importedText s true text) =
        none := by
      refine Option.eq_none_iff_forall_not_mem.mpr fun call hcall => ?_
      obtain ⟨p, hp', -⟩ := fresh call hcall
      rw [hp] at hp'
      cases hp'
    have := findInstallCall_swapConstruction_none h.host h.fromSymbol h.toSymbol hto hnone
    simp only [hp, this] at found
    cases found
  | some p =>
    simp only [hp] at found
    generalize importedText s true text = imported at *
    have args := encloses_args imported
    have hopen : ')' ∉ exampleInner s (lineEnding imported) := by
      simp only [exampleInner, List.mem_append, args.closes, h.language, or_self, not_false_eq_true]
    have hinner : (exampleInner s (lineEnding imported)).head?.any isWordChar = false := by
      rw [exampleInner, List.head?_append, args.starts]
      exact (show isWordChar ',' = false by decide)
    have hfirst := findInstallCall_replaceWith h.host h.fromSymbol h.toSymbol hto hp fresh hopen
      hinner
    obtain ⟨language', hswapped⟩ := findInstallCall_swapConstruction h.host h.fromSymbol h.toSymbol
      hfrom hto args h.language hfirst
    rw [Passage.replaceWith, installText_exampleArgs, List.append_assoc] at found
    rw [← exampleInner, found] at hswapped
    exact passesExamples_installed imported (Option.some.inj hswapped)

/-- **A router step without a warning** leaves an install call of the localized router, and the
    first one names the example files where none stood in front of the stock router's before. -/
theorem routerStep_passes (s : Settings) (mode : Mode) (p : Project) (store : Memory)
    {r : StepResult} {store' : Memory} (names : Passing s) (real : mode.dryRun = false)
    (ran : (routerStep s mode p true : StateM Memory StepResult) store = (r, store'))
    (quiet : Quiet r.notes) :
    ∃ old new call, store.get? p.routerFile = some old ∧ store'.get? p.routerFile = some new ∧
      findInstallCall s.router.host s.router.toSymbol new = some call ∧
      (StartsNoCallBefore s.router.host s.router.fromSymbol s.router.toSymbol
        (importedText s true old) → PassesExamples call) := by
  obtain ⟨r', stored, hran, edited⟩ := routerStep_edited s mode p true store
  obtain ⟨rfl, rfl⟩ : r' = r ∧ stored = store' := Prod.mk.inj (hran.symm.trans ran)
  obtain ⟨old, read, left, notes⟩ := edited.of_quiet rfl real quiet
  simp only [routerEdit, quiet_append, quiet_warn, Bool.not_eq_false'] at notes
  obtain ⟨call, found⟩ := Option.isSome_iff_exists.mp notes.1.1
  exact ⟨old, _, call, Memory.get?_of_read read, left, found, fun fresh =>
    routerText_passes names fresh found⟩

/-- The step on a router file whose last line installs the localized router already. -/
theorem routerStep_passes_sample :
    let p : Project := ⟨Sample.root, .javascript, some 2⟩
    let store := Sample.smallStore [("src/router/index.js",
      "Vue.use(VueRouter)\nnew VueRouter()\nVue.use(LangRouter)\n")]
    let done := (routerStep {} {} p true : StateM Memory StepResult) store
    ∃ new call, done.2.get? p.routerFile = some new ∧
      findInstallCall "Vue" "LangRouter" new = some call ∧ PassesExamples call := by
  intro p store done
  obtain ⟨old, new, call, hold, left, found, passes⟩ :=
    routerStep_passes {} {} p store (by decide +kernel) rfl (Prod.eta done).symm (by decide +kernel)
  have hfresh : ∀ old ∈ store.get? p.routerFile,
      StartsNoCallBefore "Vue" "VueRouter" "LangRouter" (importedText {} true old) := by
    decide +kernel
  exact ⟨new, call, left, found, passes (hfresh old hold)⟩

/-- A router file that was wired without the example files keeps its bare call, and no warning says
    so: nothing looks at what the call passes. -/
theorem routerStep_keeps_bare :
    let p : Project := ⟨Sample.root, .javascript, some 2⟩
    let store := Sample.smallStore
      [("src/router/index.js", "Vue.use(VueRouter)\nnew VueRouter()\n")]
    let wired := (routerStep {} {} p false : StateM Memory StepResult) store
    let done := (routerStep {} {} p true : StateM Memory StepResult) wired.2
    Passing {} ∧ Quiet done.1.notes ∧
      ∃ call ∈ (done.2.get? p.routerFile).bind (findInstallCall "Vue" "LangRouter"),
        call.body = "Vue.use(LangRouter)" ∧ ¬ PassesExamples call := by
  decide +kernel

end Pass

end RouteLocalizer
