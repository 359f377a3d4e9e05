/-
  Where the STATUS and a pass AGREE on what is left to do, and where they do not.

  Program: `Status.inspect` looks for five parts of the wiring that a pass would put in place, each
  in its own way, and a pass decides by its edits whether there is something to do.  Nothing ties
  the two together but that they look at the same files.

  Specification, both ways (`status_agrees`):

  * a part that the status finds is left alone by the edit that makes it, but for two.  A closing
    link tag without its opening one is not looked for and renamed all the same, and a longer tag
    that starts with the switcher's name counts as the switcher, though one is still written; for
    these two the theorem says exactly when the edit has nothing to do (`Part.IsSettled`);
  * after a pass that has nothing to do and nothing to say, a part is pending exactly where it is
    left (`Part.IsLeft`): an i18n object that the pass does not want, since the status asks for it
    all the same, or an import that the pass writes and takes back.

  1. A step with nothing to do has made its file what it was, so what the checks look at is the
     output of an edit (`entryFile_of_same`, `routerFile_of_same`, `appChecks_of_same`).
  2. **The crux** is the component.  Its edit goes over placeholders and may put a region into a
     wrong place, so that its output is not what renaming around the regions would make; but an
     output that is the text itself has no tag too many (`cleared_of_markupText_eq`).
  3. An import is written at once (`hasLine_provide_importLine`), and a later edit of the same file
     may run over it.  With names that can be told apart in a script none does
     (`Part.IsLeft.unwanted`).
-/
import RouteLocalizer.Proofs.Completion
import RouteLocalizer.Proofs.SingleImport
import RouteLocalizer.Proofs.TagCounts

namespace RouteLocalizer

/-! ## Texts that an edit leaves alone -/

namespace Markup

open Text

/-- **Renaming around the regions leaves a text alone** exactly when no tag of the old name stands
    in a gap. -/
theorem renameAround_eq_self_iff {fromTag toTag exclusion : Text}
    (h : TagNames fromTag toTag exclusion) {text : Text} :
    renameAround fromTag toTag exclusion text = text ↔
      Cleared openingEnd fromTag exclusion text ∧
        Cleared closingEnd ('/' :: fromTag) exclusion text := by
  constructor
  · intro heq
    have clears := untagged_rename h.link h.localized h.renamed
    rw [← heq]
    exact ⟨cleared_renameAround h (fun gap => (clears gap).opening) text,
      cleared_renameAround h (fun gap => (clears gap).closing) text⟩
  · rintro ⟨hopening, hclosing⟩
    -- on the length: each step goes on behind a region
    induction hlen : text.length using Nat.strongRecOn generalizing text with
    | ind n ih =>
    subst hlen
    cases hnext : nextRegion exclusion text with
    | none =>
      rw [cleared_of_none hnext] at hopening hclosing
      rw [renameAround_of_none hnext, rename_of_untagged h.localized ⟨hopening, hclosing⟩]
    | some p =>
      rw [cleared_of_some hnext] at hopening hclosing
      have htext := whole_of_nextRegion hnext
      rw [renameAround_of_some hnext, rename_of_untagged h.localized ⟨hopening.1, hclosing.1⟩,
        ih _ (length_after_nextRegion hnext) hopening.2 hclosing.2 rfl]
      simpa [Passage.whole] using htext

/-- **No switcher is written** exactly when one opens, or when there is no place for it. -/
theorem addSwitcher_eq_self_iff (w : Wiring) (text : Text) :
    (addSwitcher w text).getD text = text ↔
      hasOpeningTag w.switcherTag text = true ∨ findAnchor text = none := by
  unfold addSwitcher
  split
  · rename_i hopening
    simp [hopening]
  · rename_i hopening
    cases hanchor : findAnchor text with
    | none => simp
    | some p =>
      obtain ⟨htext, -⟩ := findAnchor_eq_some hanchor
      have hne : p.insertBehind (switcherSnippet w ((lastLine p.before ++ p.body ++
          p.after).takeWhile isIndent ++ [' ', ' ']) (Import.lineEnding text)) ≠ text := by
        intro heq
        obtain ⟨u, v, hsnippet⟩ := infix_switcherSnippet w ((lastLine p.before ++ p.body ++
          p.after).takeWhile isIndent ++ [' ', ' ']) (Import.lineEnding text)
        have hlength := congrArg List.length (heq.trans htext)
        simp only [← hsnippet, Passage.insertBehind, List.length_append, List.length_cons]
          at hlength
        omega
      simpa [hopening] using hne

end Markup

namespace Script

/-- A root option that the status finds is not put in again. -/
theorem injectRootOption_of_hasRootOption {w : Wiring} {text : Text}
    (h : Status.hasRootOption w text = true) :
    injectRootOption w.host w.i18nSymbol text = text := by
  obtain ⟨object, hobject, hnamed⟩ := (Option.any_eq_true _ _).mp h
  simp [injectRootOption, hobject, hnamed]

end Script

/-! ## The parts that both know -/

namespace Pass

open Text Import Markup Script

/-- A part of the wiring that the status looks for and an edit puts in place. -/
inductive Part where
  | routerImport
  | i18nImport
  | rootOption
  | links
  | switcher
deriving DecidableEq, Repr

namespace Part

/-- What the status calls the part. -/
def name : Part → Text
  | .routerImport => "router import"
  | .i18nImport => "i18n import"
  | .rootOption => "i18n root option"
  | .links => "links localized"
  | .switcher => "language switcher"

theorem name_injective : Function.Injective name := by
  intro part part' h
  cases part <;> cases part' <;> first | rfl | exact absurd h (by decide)

/-- The other checks of a status are of no part. -/
theorem name_ne (part : Part) : part.name ≠ "dependency declared" ∧
    part.name ≠ "install directive" ∧ part.name ≠ "router construction" := by
  cases part <;> decide

/-- Whether the status finds the part in the text of its file. -/
def isFound (s : Settings) (stamp : Nat) (text : Text) : Part → Bool
  | .routerImport => hasLine s.router.routerImportLine text
  | .i18nImport => hasLine s.router.i18nImportLine text
  | .rootOption => Status.hasRootOption s.router text
  | .links => !hasTagOutside stamp s.router.linkTag s.router.switcherTag text
  | .switcher => Text.contains ('<' :: s.router.switcherTag) text

/-- What a pass does to a text to put the part in place. -/
def edit (s : Settings) (stamp : Nat) (text : Text) : Part → Text
  | .routerImport => provide s.router.fromSymbol s.router.routerImportLine text
  | .i18nImport => provide s.router.i18nSymbol s.router.i18nImportLine text
  | .rootOption => injectRootOption s.router.host s.router.i18nSymbol text
  | .links =>
    renameOutside stamp s.router.linkTag s.router.localizedLinkTag s.router.switcherTag text
  | .switcher => (addSwitcher s.router text).getD text

/-- What a pass makes of the file that the part belongs in. -/
def whole (s : Settings) (stamp : Nat) (text : Text) : Part → Text
  | .routerImport => routerText s (s.templates.dir.isNone && s.options.renderTemplate) text
  | .i18nImport => entryText s.router text
  | .rootOption => entryText s.router text
  | .links => markupText s stamp text
  | .switcher => markupText s stamp text

/-- The edit of the part puts it in place, and another edit of the same file takes it out again. -/
def IsTakenBack (s : Settings) (text : Text) (part : Part) : Prop :=
  part.isFound s 0 (part.edit s 0 text) = true ∧ part.isFound s 0 (part.whole s 0 text) = false

instance (s : Settings) (text : Text) (part : Part) : Decidable (part.IsTakenBack s text) :=
  inferInstanceAs (Decidable (_ ∧ _))

/-- What is left of a part after a pass that has nothing to do: an import that is written and taken
    back, and what a pass does not want. -/
def IsLeft (s : Settings) (p : Project) (store : Memory) : Part → Prop
  | .routerImport =>
    ∃ text, store.read p.routerFile = .ok text ∧ routerImport.IsTakenBack s text
  | .i18nImport =>
    if s.options.injectI18n then
      ∃ text, store.read p.entryFile = .ok text ∧ i18nImport.IsTakenBack s text
    else ∀ text, store.read p.entryFile = .ok text → i18nImport.isFound s 0 text = false
  | .rootOption => s.options.injectI18n = false ∧
      ∀ text, store.read p.entryFile = .ok text → rootOption.isFound s 0 text = false
  | .links => False
  | .switcher => False

/-- What the status does not look at: no link is closed outside the switcher, and the switcher opens
    with its whole name or has no place. -/
def IsSettled (s : Settings) (text : Text) : Part → Prop
  | .links => hasClosingTagOutside 0 s.router.linkTag s.router.switcherTag text = false
  | .switcher => hasOpeningTag s.router.switcherTag text = true ∨ findAnchor text = none
  | _ => True

end Part

/-- **A part that the status finds** is left alone by its edit, exactly where nothing is left of it
    that the status does not look at. -/
theorem Part.edit_eq_self_iff {s : Settings} (tags : ComponentNames s.router) {stamp : Nat}
    {text : Text} {part : Part} (found : part.isFound s stamp text = true)
    (unmarked : part = .links → ¬ mark <:+: text) (stamp' : Nat) :
    part.edit s stamp' text = text ↔ part.IsSettled s text := by
  cases part with
  | routerImport => exact iff_of_true (provide_of_hasLine found) trivial
  | i18nImport => exact iff_of_true (provide_of_hasLine found) trivial
  | rootOption => exact iff_of_true (injectRootOption_of_hasRootOption found) trivial
  | links =>
    have hopening := (hasTagOutside_eq_false tags.link stamp).mp
      (by simpa [Part.isFound] using found)
    rw [Part.edit, renameOutside_eq tags.link tags.localized tags.switcher stamp' (unmarked rfl),
      renameAround_eq_self_iff tags.tagNames, Part.IsSettled,
      hasClosingTagOutside_eq_false tags.link]
    exact and_iff_right hopening
  | switcher => exact addSwitcher_eq_self_iff s.router text

/-! ## A status, read back -/

theorem isComplete_of_pending {status : Status} (h : status.pending = []) :
    status.isComplete = true := by
  simpa [Status.pending, Status.isComplete, List.filter_eq_nil_iff] using h

/-- The check of a file is done where its part is found in the file's text. -/
theorem fileCheck_done_iff {name : Text} {file : Path} {store : Memory} {found : Text → Bool} :
    (Status.fileCheck name file (store.read file).toOption found).state = .done ↔
      ∃ text, store.read file = .ok text ∧ found text = true := by
  cases hread : store.read file with
  | error => simp [Status.fileCheck, Except.toOption]
  | ok text => simp [Except.toOption]

/-- The checks of a status are those of the three files, behind the one of the manifest. -/
theorem checks_of_inspect {s : Settings} {stamp : Nat} {root : Path} {store store' : Memory}
    {status : Status}
    (h : (Status.inspect s stamp root : StateM Memory (Except Failure Status)) store =
      (.ok status, store')) : ∃ p : Project, ∃ declared, status.checks =
        ⟨"dependency declared", Project.manifestAt root, declared⟩ ::
          Status.routerChecks s.router p.routerFile (store.read p.routerFile).toOption ++
          Status.entryChecks s.router p.entryFile (store.read p.entryFile).toOption ++
          Status.appChecks s stamp p.appFile (store.read p.appFile).toOption := by
  cases hread : store.read (Project.manifestAt root) with
  | error fault =>
    simp only [Status.inspect, Memory.bind_apply, Memory.read_apply, hread] at h
    cases h
  | ok text =>
    cases hparse : Manifest.parse text with
    | error failure =>
      simp only [Status.inspect, Memory.bind_apply, Memory.read_apply, hread, hparse] at h
      cases h
    | ok manifest =>
      simp only [Status.inspect, Memory.bind_apply, Memory.read_apply, hread, hparse, textOf_apply,
        Memory.pure_apply] at h
      cases h
      exact ⟨⟨root, manifest.script, none⟩, _, rfl⟩

/-- What the status of a project says of a part. -/
theorem isFound_of_inspect {s : Settings} {stamp : Nat} {root : Path} {store store' : Memory}
    {status : Status}
    (h : (Status.inspect s stamp root : StateM Memory (Except Failure Status)) store =
      (.ok status, store')) {c : Check} (hc : c ∈ status.checks) {part : Part}
    (named : c.name = part.name) (done : c.state = .done) :
    ∃ text, store.read c.file = .ok text ∧ part.isFound s stamp text = true := by
  obtain ⟨p, declared, hchecks⟩ := checks_of_inspect h
  simp only [hchecks, Status.routerChecks, Status.entryChecks, Status.appChecks, List.mem_append,
    List.mem_cons, List.not_mem_nil, or_false, false_or, List.mem_ite_nil_right,
    List.cons_append] at hc
  have part_eq : ∀ {known : Part}, known.name = part.name → part = known := fun hname =>
    (Part.name_injective hname).symm
  obtain ⟨hdependency, hinstall, hconstruction⟩ := part.name_ne
  rcases hc with rfl | rfl | rfl | rfl | (rfl | rfl) | ⟨-, rfl⟩ | ⟨-, rfl⟩
  · exact absurd named.symm hdependency
  · obtain rfl : part = .routerImport := part_eq named
    exact fileCheck_done_iff.mp done
  · exact absurd named.symm hinstall
  · exact absurd named.symm hconstruction
  · obtain rfl : part = .i18nImport := part_eq named
    exact fileCheck_done_iff.mp done
  · obtain rfl : part = .rootOption := part_eq named
    exact fileCheck_done_iff.mp done
  · obtain rfl : part = .links := part_eq named
    exact fileCheck_done_iff.mp done
  · obtain rfl : part = .switcher := part_eq named
    exact fileCheck_done_iff.mp done

/-! ## A pass with nothing to do -/

theorem Saved.eq_modified_of_quiet {store store' : Memory} {dryRun : Bool} {file : Path}
    {text : Text} {outcome : Outcome} {notes : List Diagnostic}
    (h : Saved store dryRun file text outcome notes store') (quiet : Quiet notes) :
    outcome = .modified := by
  cases h with
  | pretended => rfl
  | written => rfl
  | refused => exact absurd (quiet _ (List.mem_singleton_self _)) (by simp [Diagnostic.isWarning])

theorem Declared.of_idle {s : Settings} {mode : Mode} {a : Accepted} {store store' : Memory}
    {r : StepResult} (h : Declared s mode a store r store') (quiet : Quiet r.notes)
    (idle : r.outcome ≠ .modified) :
    store' = store ∧ a.manifest.hasDependency s.dependency.name = true := by
  cases h with
  | already declared =>
    have hsame := Manifest.eq_of_declared declared
    exact ⟨rfl, hsame ▸ Manifest.hasDependency_of_declare declared⟩
  | saved _ saved => exact absurd (saved.eq_modified_of_quiet (quiet_append.mp quiet).1) idle

theorem Templated.of_idle {s : Settings} {mode : Mode} {p : Project} {store store' : Memory}
    {r : StepResult} {withExamples : Bool} (h : Templated s mode p store r withExamples store')
    (quiet : Quiet r.notes) (idle : r.outcome ≠ .modified) : store' = store ∧
      withExamples = (s.templates.dir.isNone && s.options.renderTemplate) := by
  cases h with
  | unwanted off => simp [off]
  | noSource => exact absurd (quiet _ (List.mem_singleton_self _)) (by simp [Diagnostic.isWarning])
  | failed => exact absurd (quiet _ (List.mem_singleton_self _)) (by simp [Diagnostic.isWarning])
  | rendered on _ rendered =>
    exact ⟨rendered.store_of_unwritten (by simpa using idle), by simp [on]⟩

theorem Edited.of_idle {wanted dryRun : Bool} {store store' : Memory} {file : Path}
    {remedy : Text} {edit : Text → Edit} {r : StepResult}
    (h : Edited wanted store dryRun file remedy edit r store') (quiet : Quiet r.notes)
    (idle : r.outcome ≠ .modified) : store' = store ∧
      (wanted = true → ∃ text, store.read file = .ok text ∧ (edit text).text = text ∧
        Quiet (edit text).notes) := by
  cases h with
  | unwanted off => exact ⟨rfl, fun on => by rw [on] at off; cases off⟩
  | unread => exact Bool.noConfusion (quiet _ (List.mem_singleton_self _))
  | unchanged _ read same => exact ⟨rfl, fun _ => ⟨_, read, same, quiet⟩⟩
  | saved _ _ _ saved => exact absurd (saved.eq_modified_of_quiet (quiet_append.mp quiet).2) idle

/-- A pass that has nothing to do and nothing to warn of. -/
structure Idle (report : Report) : Prop where
  clean : report.warnings = []
  unmodified : ∀ record ∈ report.steps, record.outcome ≠ .modified

/-- Settings with names for symbols, and with a package that stands on one line. -/
structure PlainNames (w : Wiring) : Prop where
  host : IsName w.host
  fromSymbol : IsName w.fromSymbol
  toSymbol : IsName w.toSymbol
  i18nSymbol : IsName w.i18nSymbol
  package : '\n' ∉ w.package

instance (w : Wiring) : Decidable (PlainNames w) :=
  decidable_of_iff (IsName w.host ∧ IsName w.fromSymbol ∧ IsName w.toSymbol ∧ IsName w.i18nSymbol ∧
      '\n' ∉ w.package)
    ⟨fun ⟨host, fromSymbol, toSymbol, i18nSymbol, package⟩ =>
      ⟨host, fromSymbol, toSymbol, i18nSymbol, package⟩,
      fun h => ⟨h.host, h.fromSymbol, h.toSymbol, h.i18nSymbol, h.package⟩⟩

section

variable {s : Settings} {text : Text}

/-- Providing an import puts its line in place, whatever its package is on that one line. -/
theorem hasLine_provide_importLine {searched symbol : Text} (hsearched : IsName searched)
    (hsymbol : IsName symbol) (hpackage : '\n' ∉ s.router.package)
    (paired : Text.endsPaired text = true) :
    hasLine (s.router.importLine symbol) (provide searched (s.router.importLine symbol) text) =
      true := by
  have hplain : '\n' ∉ symbol := fun hmem => absurd (hsymbol.oneLine _ hmem) (by decide)
  exact hasLine_provide hsearched.oneLine
    (ImportForm.canonical_line_ne_nil symbol s.router.package .braced)
    (ImportForm.newline_not_mem_line hplain hpackage .braced) paired

/-- **In an entry file that its edit leaves alone**, without a warning, the root option is there,
    and the import but where it is taken back. -/
theorem entryFile_of_same {shown : Text} (names : PlainNames s.router)
    (paired : Text.endsPaired text = true) (same : entryText s.router text = text)
    (quiet : Quiet (entryEdit s.router shown text).notes) :
    (hasLine s.router.i18nImportLine text = false ↔ Part.i18nImport.IsTakenBack s text) ∧
      Status.hasRootOption s.router text = true := by
  have hprovided : hasLine s.router.i18nImportLine
      (provide s.router.i18nSymbol s.router.i18nImportLine text) = true :=
    hasLine_provide_importLine names.i18nSymbol names.i18nSymbol names.package paired
  refine ⟨?line, ?option⟩
  case line =>
    simp only [Part.IsTakenBack, Part.isFound, Part.edit, Part.whole, same, hprovided, true_and]
  case option =>
    have hroot : findRootOptions s.router.host
        (provide s.router.i18nSymbol s.router.i18nImportLine text) ≠ none := by
      simp only [entryEdit, quiet_warn] at quiet
      simpa [Option.isSome_iff_ne_none] using quiet
    obtain ⟨object, hobject⟩ := Option.ne_none_iff_exists'.mp hroot
    obtain ⟨found, hfound, -, hnamed⟩ := findRootOptions_injectRootOption
      names.host.isIdentifier names.i18nSymbol.isIdentifier hobject
    rw [← entryText, same] at hfound
    rw [Status.hasRootOption, hfound]
    exact hnamed

/-- **In a router file that its edit leaves alone**, without a warning, the localized router is
    installed and constructed, and the import is there but where it is taken back. -/
theorem routerFile_of_same {shown : Text} (names : PlainNames s.router)
    (paired : Text.endsPaired text = true)
    (same : routerText s (s.templates.dir.isNone && s.options.renderTemplate) text = text)
    (quiet : Quiet (routerEdit s (s.templates.dir.isNone && s.options.renderTemplate) shown
      text).notes) :
    (hasLine s.router.routerImportLine text = false ↔ Part.routerImport.IsTakenBack s text) ∧
      (findInstallCall s.router.host s.router.toSymbol text).isSome = true ∧
      (findConstruction s.router.toSymbol text).isSome = true := by
  have hprovided : hasLine s.router.routerImportLine
      (provide s.router.fromSymbol s.router.routerImportLine text) = true :=
    hasLine_provide_importLine names.fromSymbol names.toSymbol names.package paired
  simp only [routerEdit, quiet_append, quiet_warn, Bool.not_eq_false', same] at quiet
  obtain ⟨⟨hinstalled, -⟩, hconstructed⟩ := quiet
  refine ⟨?_, hinstalled, by simpa [Option.isSome_iff_ne_none] using hconstructed⟩
  simp only [Part.IsTakenBack, Part.isFound, Part.edit, Part.whole, same, hprovided, true_and]

/-- **In a component that its edit leaves alone**, without a warning, nothing is left to do,
    whatever marks it holds. -/
theorem appChecks_of_same {shown : Text} (tags : ComponentNames s.router) {stamp : Nat}
    (same : markupText s stamp text = text) (quiet : Quiet (markupEdit s stamp shown text).notes)
    (stamp' : Nat) (file : Path) :
    ∀ c ∈ Status.appChecks s stamp' file (some text), c.state = .done := by
  simp only [markupEdit, quiet_warn] at quiet
  refine forall_appChecks.mpr ⟨fun on => ?links, fun on => ?switcher⟩
  case links =>
    exact (hasTagOutside_eq_false tags.link stamp').mpr (cleared_of_markupText_eq tags on same).1
  case switcher =>
    rw [← same]
    refine contains_markupText on ?_
    simpa [on, Option.isSome_iff_ne_none] using quiet

end

/-- The check of a part is of no other part. -/
theorem Part.exists_isLeft {s : Settings} {p : Project} {store : Memory} {c : Check} {known : Part}
    (h : c.name = known.name) :
    (∃ part : Part, c.name = part.name ∧ part.IsLeft s p store) ↔ known.IsLeft s p store := by
  constructor
  · rintro ⟨part, hname, left⟩
    exact Part.name_injective (h.symm.trans hname) ▸ left
  · exact fun left => ⟨known, h, left⟩

/-- A check of no part is done. -/
theorem isLeft_iff_of_done {s : Settings} {p : Project} {store : Memory} {c : Check}
    (done : c.state = .done) (other : ∀ part : Part, part.name ≠ c.name) :
    c.state ≠ .done ↔ ∃ part : Part, c.name = part.name ∧ part.IsLeft s p store :=
  iff_of_false (fun h => h done) fun ⟨part, hname, _⟩ => other part hname.symm

theorem name_of_mem_appChecks {s : Settings} {stamp : Nat} {file : Path} {text : Option Text}
    {c : Check} (h : c ∈ Status.appChecks s stamp file text) :
    c.name = Part.links.name ∨ c.name = Part.switcher.name := by
  simp only [Status.appChecks, List.mem_append, List.mem_ite_nil_right, List.mem_singleton] at h
  exact h.imp (fun h => congrArg Check.name h.2) fun h => congrArg Check.name h.2

/-- A check that is not done has not found its part in what can be read of the file. -/
theorem fileCheck_ne_done_iff {name : Text} {file : Path} {store : Memory} {found : Text → Bool} :
    (Status.fileCheck name file (store.read file).toOption found).state ≠ .done ↔
      ∀ text, store.read file = .ok text → found text = false := by
  rw [Ne, fileCheck_done_iff]
  simp

section

variable {s : Settings} {p : Project} {store : Memory}

/-- What is left of the router file's parts, where the router step is idle. -/
theorem routerChecks_of_idle (names : PlainNames s.router)
    (paired : ∀ text ∈ store.get? p.routerFile, Text.endsPaired text = true) {shown : Text}
    (idle : ∃ text, store.read p.routerFile = .ok text ∧
      (routerEdit s (s.templates.dir.isNone && s.options.renderTemplate) shown text).text = text ∧
      Quiet (routerEdit s (s.templates.dir.isNone && s.options.renderTemplate) shown text).notes) :
    ∀ c ∈ Status.routerChecks s.router p.routerFile (store.read p.routerFile).toOption,
      c.state ≠ .done ↔ ∃ part : Part, c.name = part.name ∧ part.IsLeft s p store := by
  intro c hc
  obtain ⟨router, hread, hsame, hquiet⟩ := idle
  obtain ⟨himport, hinstalled, hconstructed⟩ := routerFile_of_same names
    (paired _ (Memory.get?_of_read hread)) hsame hquiet
  simp only [Status.routerChecks, List.mem_cons, List.not_mem_nil, or_false] at hc
  rcases hc with rfl | rfl | rfl
  · rw [fileCheck_ne_done_iff, @Part.exists_isLeft _ _ _ _ .routerImport rfl]
    simpa [Part.IsLeft, hread] using himport
  · refine isLeft_iff_of_done ?_ fun part => part.name_ne.2.1
    exact fileCheck_done_iff.mpr ⟨router, hread, hinstalled⟩
  · refine isLeft_iff_of_done ?_ fun part => part.name_ne.2.2
    exact fileCheck_done_iff.mpr ⟨router, hread, hconstructed⟩

/-- What is left of the entry file's parts, where the entry step is idle.  The status asks for them
    also where the pass does not want them. -/
theorem entryChecks_of_idle (names : PlainNames s.router)
    (paired : ∀ text ∈ store.get? p.entryFile, Text.endsPaired text = true) {shown : Text}
    (idle : s.options.injectI18n = true → ∃ text, store.read p.entryFile = .ok text ∧
      (entryEdit s.router shown text).text = text ∧
      Quiet (entryEdit s.router shown text).notes) :
    ∀ c ∈ Status.entryChecks s.router p.entryFile (store.read p.entryFile).toOption,
      c.state ≠ .done ↔ ∃ part : Part, c.name = part.name ∧ part.IsLeft s p store := by
  intro c hc
  simp only [Status.entryChecks, List.mem_cons, List.not_mem_nil, or_false] at hc
  cases hwanted : s.options.injectI18n with
  | false =>
    rcases hc with rfl | rfl
    · rw [fileCheck_ne_done_iff, @Part.exists_isLeft _ _ _ _ .i18nImport rfl]
      simp [Part.IsLeft, Part.isFound, hwanted]
    · rw [fileCheck_ne_done_iff, @Part.exists_isLeft _ _ _ _ .rootOption rfl]
      simp [Part.IsLeft, Part.isFound, hwanted]
  | true =>
    obtain ⟨entry, hread, hsame, hquiet⟩ := idle hwanted
    obtain ⟨himport, hoption⟩ := entryFile_of_same names
      (paired _ (Memory.get?_of_read hread)) hsame hquiet
    rcases hc with rfl | rfl
    · rw [fileCheck_ne_done_iff, @Part.exists_isLeft _ _ _ _ .i18nImport rfl]
      simpa [Part.IsLeft, hwanted, hread] using himport
    · rw [fileCheck_ne_done_iff, @Part.exists_isLeft _ _ _ _ .rootOption rfl]
      simp [Part.IsLeft, hwanted, hread, hoption]

/-- Nothing is left of the component's parts, where the component's step is idle: the status asks
    for what the pass wants only. -/
theorem appChecks_of_idle (tags : ComponentNames s.router) {stamp : Nat} {shown : Text}
    (idle : (s.options.localizeLinks || s.options.addLanguageSwitcher) = true →
      ∃ text, store.read p.appFile = .ok text ∧ (markupEdit s stamp shown text).text = text ∧
        Quiet (markupEdit s stamp shown text).notes) (stamp' : Nat) :
    ∀ c ∈ Status.appChecks s stamp' p.appFile (store.read p.appFile).toOption,
      c.state ≠ .done ↔ ∃ part : Part, c.name = part.name ∧ part.IsLeft s p store := by
  intro c hc
  have done : c.state = .done := by
    cases hwanted : s.options.localizeLinks || s.options.addLanguageSwitcher with
    | false =>
      -- there is nothing to look for
      simp [Status.appChecks, Bool.or_eq_false_iff.mp hwanted] at hc
    | true =>
      obtain ⟨app, hread, hsame, hquiet⟩ := idle hwanted
      rw [hread] at hc
      exact appChecks_of_same tags hsame hquiet stamp' _ c hc
  refine iff_of_false (fun h => h done) ?_
  rcases name_of_mem_appChecks hc with hname | hname <;>
    exact fun left => (Part.exists_isLeft hname).mp left

end

/-- **A pass with nothing to do** leaves a status that has a part to do exactly where the pass does
    not want it, or writes it and takes it back. -/
theorem inspect_of_idle {s : Settings} {mode : Mode} {root : Path} {store store' : Memory}
    {p : Project} {report : Report} (names : PlainNames s.router)
    (tags : ComponentNames s.router) (project : projectAt s root store = some p)
    (paired : ∀ file ∈ [p.entryFile, p.routerFile], ∀ text ∈ store.get? file,
      Text.endsPaired text = true)
    (ran : (run s mode root : StateM Memory (Except Failure Report)) store = (.ok report, store'))
    (idle : Idle report) (stamp : Nat) :
    store' = store ∧ ∃ status,
      (Status.inspect s stamp root : StateM Memory (Except Failure Status)) store =
        (.ok status, store) ∧
      ∀ c ∈ status.checks, c.state ≠ .done ↔
        ∃ part : Part, c.name = part.name ∧ part.IsLeft s p store := by
  obtain ⟨clean, unmodified⟩ := idle
  cases Ran.of_run ran with
  | @completed a _ _ _ _ _ withExamples s₁ s₂ s₃ s₄ _ accepted declared templated entered routed
      marked =>
    obtain rfl : a.project = p := by simpa [projectAt, accepted] using project
    simp only [warnings_addTo] at clean
    obtain ⟨⟨⟨⟨⟨-, hdeclared⟩, htemplated⟩, hentered⟩, hrouted⟩, hmarked⟩ := clean
    simp only [StepResult.addTo, List.mem_append, List.mem_singleton, or_imp, forall_and,
      forall_eq, List.nil_append] at unmodified
    obtain ⟨⟨⟨⟨hdeclared', htemplated'⟩, hentered'⟩, hrouted'⟩, hmarked'⟩ := unmodified
    -- so each step finds the store as it was, and its file as it would make it
    obtain ⟨rfl, already⟩ := declared.of_idle hdeclared hdeclared'
    obtain ⟨rfl, rfl⟩ := templated.of_idle htemplated htemplated'
    obtain ⟨rfl, hentry⟩ := entered.of_idle hentered hentered'
    obtain ⟨rfl, hrouter⟩ := routed.of_idle hrouted hrouted'
    obtain ⟨rfl, happ⟩ := marked.of_idle hmarked hmarked'
    refine ⟨rfl, _, inspect_of_accept accepted stamp, fun c hc => ?_⟩
    simp only [List.cons_append, List.mem_cons, List.mem_append] at hc
    rcases hc with rfl | (hc | hc) | hc
    · refine isLeft_iff_of_done ?_ fun part => part.name_ne.1
      simp [Status.stateOf, already]
    · exact routerChecks_of_idle names (paired _ (by simp)) (hrouter rfl) c hc
    · exact entryChecks_of_idle names (paired _ (by simp)) hentry c hc
    · exact appChecks_of_idle tags happ stamp c hc

/-- The install call, as it is found once the imports are there, spans none of them. -/
def SpansNone (s : Settings) (text : Text) : Prop :=
  ∀ call ∈ findInstallCall s.router.host s.router.fromSymbol
    (importedText s (s.templates.dir.isNone && s.options.renderTemplate) text),
    spansImport call.body = false

instance (s : Settings) (text : Text) : Decidable (SpansNone s text) :=
  inferInstanceAs (Decidable (∀ call ∈ findInstallCall _ _ _, _))

/-- **No import is taken back** where names and package can be told apart in a script and the
    install call spans none: only what is not wanted is left. -/
theorem Part.IsLeft.unwanted {s : Settings} {p : Project} {store : Memory} {part : Part}
    (names : ScriptNames s.router)
    (paired : ∀ file ∈ [p.entryFile, p.routerFile], ∀ text ∈ store.get? file,
      Text.endsPaired text = true)
    (spans : ∀ text ∈ store.get? p.routerFile, SpansNone s text) (left : part.IsLeft s p store) :
    s.options.injectI18n = false ∧ (part = .i18nImport ∨ part = .rootOption) := by
  cases part with
  | routerImport =>
    obtain ⟨text, hread, -, lost⟩ := left
    have hold := Memory.get?_of_read hread
    have kept : Part.routerImport.isFound s 0 (Part.routerImport.whole s 0 text) = true :=
      hasLine_routerText names (paired _ (by simp) _ hold) (spans _ hold)
        (s.router.fromSymbol, s.router.routerImportLine) List.mem_cons_self
    rw [kept] at lost
    cases lost
  | i18nImport =>
    cases hwanted : s.options.injectI18n with
    | false => exact ⟨rfl, .inl rfl⟩
    | true =>
      simp only [Part.IsLeft, hwanted, if_true] at left
      obtain ⟨text, hread, -, lost⟩ := left
      have kept : Part.i18nImport.isFound s 0 (Part.i18nImport.whole s 0 text) = true :=
        hasLine_entryText (imports_importLine names.i18nSymbol names.package)
          (paired _ (by simp) _ (Memory.get?_of_read hread))
      rw [kept] at lost
      cases lost
  | rootOption => exact ⟨left.1, .inr rfl⟩
  | links => cases left
  | switcher => cases left

/-- An import that is taken back: the router has the name of an example file's import, before and
    after, and that import takes the line of the router's. -/
example :
    let s : Settings := { router := { fromSymbol := "translations", toSymbol := "translations" } }
    let text : Text := "import translations from '../lang/translations'\n" ++
      "import localizedURLs from '../lang/localized-urls'\nVue.use(translations, \x7b\n" ++
      "  defaultLanguage: 'en',\n  translations,\n  localizedURLs,\n\x7d)\nnew translations()\n"
    PlainNames s.router ∧ routerText s true text = text ∧ Part.routerImport.IsTakenBack s text := by
  decide +kernel

/-! ## Both ways -/

/-- **The status and a pass agree**, as far as they do.  Where a pass has nothing to do, a part is
    pending exactly if the pass does not want it, or writes it and takes it back: with names that
    can be told apart in a script, that is at most an i18n object that is not wanted.  And a part
    that is done is left alone by its edit, exactly where nothing is left of it that the status does
    not look at. -/
theorem status_agrees {s : Settings} (names : PlainNames s.router)
    (tags : ComponentNames s.router) (root : Path) (store : Memory) (stamp : Nat) :
    (∀ {mode : Mode} {p : Project} {report : Report} {store' : Memory},
      projectAt s root store = some p →
      (∀ file ∈ [p.entryFile, p.routerFile], ∀ text ∈ store.get? file,
        Text.endsPaired text = true) →
      (run s mode root : StateM Memory (Except Failure Report)) store = (.ok report, store') →
      Idle report → store' = store ∧ ∃ status,
        (Status.inspect s stamp root : StateM Memory (Except Failure Status)) store =
          (.ok status, store) ∧
        (∀ c ∈ status.checks, c.state ≠ .done ↔
          ∃ part : Part, c.name = part.name ∧ part.IsLeft s p store) ∧
        (ScriptNames s.router → (∀ text ∈ store.get? p.routerFile, SpansNone s text) →
          (s.options.injectI18n = true → status.isComplete = true) ∧
          ∀ c ∈ status.pending,
            c.name = Part.i18nImport.name ∨ c.name = Part.rootOption.name)) ∧
    (∀ {status : Status} {store' : Memory},
      (Status.inspect s stamp root : StateM Memory (Except Failure Status)) store =
        (.ok status, store') →
      ∀ c ∈ status.checks, ∀ part : Part, c.name = part.name → c.state = .done →
        ∃ text, store.read c.file = .ok text ∧ ((part = .links → ¬ mark <:+: text) →
          ∀ stamp', part.edit s stamp' text = text ↔ part.IsSettled s text)) := by
  constructor
  · intro mode p report store' project paired ran idle
    obtain ⟨hstore, status, hstatus, hleft⟩ :=
      inspect_of_idle names tags project paired ran idle stamp
    refine ⟨hstore, status, hstatus, hleft, fun apart spans => ?_⟩
    have unwanted : ∀ c ∈ status.pending, s.options.injectI18n = false ∧
        (c.name = Part.i18nImport.name ∨ c.name = Part.rootOption.name) := by
      intro c hc
      obtain ⟨hc, hpending⟩ := List.mem_filter.mp hc
      obtain ⟨part, hname, left⟩ := (hleft c hc).mp (by simpa using hpending)
      obtain ⟨off, hpart⟩ := left.unwanted apart paired spans
      exact ⟨off, hpart.imp (fun heq => by rw [hname, heq]) fun heq => by rw [hname, heq]⟩
    refine ⟨fun wanted => isComplete_of_pending (List.eq_nil_iff_forall_not_mem.mpr ?_),
      fun c hc => (unwanted c hc).2⟩
    intro c hc
    rw [wanted] at unwanted
    cases (unwanted c hc).1
  · intro status store' hstatus c hc part named done
    obtain ⟨text, hread, found⟩ := isFound_of_inspect hstatus hc named done
    exact ⟨text, hread, fun unmarked stamp' => part.edit_eq_self_iff tags found unmarked stamp'⟩

/-- The status of a small project that a pass has been over, against a second pass and against the
    edits. -/
theorem status_agrees_sample :
    let s : Settings := { options := { renderTemplate := false, addLanguageSwitcher := true } }
    let store := ((run s {} Sample.root : StateM Memory (Except Failure Report))
      (Sample.smallStore [("src/main.js", "new Vue(\x7b\n\x7d)\n"),
        ("src/router/index.js", "Vue.use(VueRouter)\nnew VueRouter()\n"),
        ("src/App.vue", "<div>\n  <router-link/>\n</div>\n")])).2
    ∃ status, (Status.inspect s 0 Sample.root : StateM Memory (Except Failure Status)) store =
        (.ok status, store) ∧ status.isComplete = true ∧
      ∀ c ∈ status.checks, ∀ part : Part, c.name = part.name →
        ∃ text, store.read c.file = .ok text ∧ ((part = .links → ¬ mark <:+: text) →
          ∀ stamp', part.edit s stamp' text = text ↔ part.IsSettled s text) := by
  intro s store
  have agrees := status_agrees (s := s) (by decide +kernel) (by decide +kernel) Sample.root store 0
  obtain ⟨report, store', hrun⟩ := run_ok s {} Sample.root store (by decide +kernel)
  have hreport : ((run s {} Sample.root : StateM Memory (Except Failure Report)) store).1 =
      .ok report := congrArg Prod.fst hrun
  have hidle : (((run s {} Sample.root : StateM Memory (Except Failure Report)) store).1.map
      fun report => (report.warnings, report.steps.map StepRecord.outcome)).toOption =
        some ([], [.unchanged, .skipped, .unchanged, .unchanged, .unchanged]) := by decide +kernel
  rw [hreport] at hidle
  obtain ⟨hclean, houtcomes⟩ := Prod.mk.inj (Option.some.inj hidle)
  have idle : Idle report := by
    refine ⟨hclean, fun record hrecord => ?_⟩
    have := List.mem_map_of_mem (f := StepRecord.outcome) hrecord
    rw [houtcomes] at this
    intro heq
    rw [heq] at this
    exact absurd this (by decide)
  obtain ⟨-, status, hstatus, -, hapart⟩ := agrees.1 (p := ⟨Sample.root, .javascript, some 2⟩)
    (by decide +kernel) (by decide +kernel) hrun idle
  have hcomplete := (hapart (by decide +kernel) (by decide +kernel)).1 rfl
  refine ⟨status, hstatus, hcomplete, fun c hc part named => ?_⟩
  have hdone := List.all_eq_true.mp hcomplete c hc
  exact agrees.2 hstatus c hc part named (by simpa using hdone)

/-- Where they do not agree.  A pass without a wish for the i18n object has nothing to do on its own
    output, and the object is pending.  A component with a stray closing link tag and a tag that
    starts with the switcher's name is done, and both edits change it. -/
theorem status_disagrees :
    let s : Settings :=
      { options := { renderTemplate := false, localizeLinks := false, injectI18n := false } }
    let store := ((run s {} Sample.root : StateM Memory (Except Failure Report))
      (Sample.smallStore [("src/main.js", "new Vue(\x7b\n\x7d)\n"),
        ("src/router/index.js", "Vue.use(VueRouter)\nnew VueRouter()\n")])).2
    let again := (run s {} Sample.root : StateM Memory (Except Failure Report)) store
    let status := (Status.inspect s 0 Sample.root : StateM Memory (Except Failure Status)) store
    let component : Text := "<div></router-link>\n<language-switcher-list/></div>\n"
    (ScriptNames s.router ∧ ComponentNames s.router ∧ ¬ mark <:+: component) ∧
      ((again.1.map fun report => (report.warnings, report.steps.map StepRecord.outcome)) =
          .ok ([], [.unchanged, .skipped, .skipped, .unchanged, .skipped]) ∧
        status.1.map (fun status => status.pending.map Check.name) =
          .ok [Part.i18nImport.name, Part.rootOption.name]) ∧
      ∀ part ∈ [Part.links, Part.switcher], part.isFound s 0 component = true ∧
        part.edit s 0 component ≠ component := by
  decide +kernel

end Pass

end RouteLocalizer
