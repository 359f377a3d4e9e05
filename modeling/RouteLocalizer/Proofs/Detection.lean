/-
  What the status FINDS in the files that the edits leave.

  A check looks for its part in its own way, not in the way of the edit that makes the part: a root
  option by its name in an object, a link by its opening tag in the masked text, a switcher by its
  bracket and name.  So each check is matched here with its edit.

  Links take the most.  The check hides the exclusion regions of the text it is given, which need
  not be the regions of the text that was edited: a switcher with the tag `span` is a region only up
  to its inner `</span>`.  What counts is that no link opens in a gap (`hasTagOutside_markupText`).

  SPECIFICATION, for an edit that gave no warning:
  (1) `entryChecks_done` — the entry file passes the checks of the import and of the option;
  (2) `routerChecks_done` — the router file passes those of its import, call and construction;
  (3) `contains_markupText` — a component that had a place for the switcher has it;
  (4) `appChecks_done` — and it passes the checks of its links and of the switcher.
-/
import RouteLocalizer.Proofs.Cleared
import RouteLocalizer.Proofs.EntryFile
import RouteLocalizer.Proofs.RouterFile
import RouteLocalizer.Proofs.Steps
import RouteLocalizer.Status.Inspect

namespace RouteLocalizer

namespace Markup

open Text

/-! ## What stands in a text -/

theorem infix_switcherSnippet (w : Wiring) (indent newline : Text) :
    '<' :: w.switcherTag <:+: switcherSnippet w indent newline := by
  rw [switcherSnippet_eq, switcherBody]
  exact ⟨newline ++ indent, switcherAttributes ++ (switcherInner w.linkTag (newline ++ indent) ++
    '<' :: ('/' :: w.switcherTag ++ ['>'])), by simp⟩

/-- What opens in a text stands in it. -/
theorem infix_of_hasOpeningTag {tag text : Text} (h : hasOpeningTag tag text = true) :
    '<' :: tag <:+: text := by
  by_contra hnone
  have hfree : openingEnd.Free tag text := fun u v huv =>
    absurd ⟨u, v, by simp [huv]⟩ hnone
  rw [hasOpeningTag_eq_false.mpr hfree] at h
  cases h

end Markup

namespace Pass

open Markup Import Script

/-! ## Notes that ask for nothing -/

/-- Notes of which none asks for attention. -/
def Quiet (notes : List Diagnostic) : Prop := ∀ d ∈ notes, d.isWarning = false

instance (notes : List Diagnostic) : Decidable (Quiet notes) :=
  inferInstanceAs (Decidable (∀ d ∈ notes, d.isWarning = false))

theorem quiet_append {notes more : List Diagnostic} :
    Quiet (notes ++ more) ↔ Quiet notes ∧ Quiet more :=
  List.forall_mem_append

/-- The condition of a warning does not hold where the notes are quiet. -/
theorem quiet_warn {condition : Bool} {message : Text} :
    Quiet (noteIf condition .warn message) ↔ condition = false := by
  cases condition <;> simp [Quiet, noteIf, Diagnostic.isWarning]

/-- A failed write is no quiet one. -/
theorem Saved.get?_of_quiet {store store' : Memory} {dryRun : Bool} {file : Path} {text : Text}
    {outcome : Outcome} {notes : List Diagnostic}
    (h : Saved store dryRun file text outcome notes store') (real : dryRun = false)
    (quiet : Quiet notes) : outcome ≠ .skipped ∧ store'.get? file = some text := by
  cases h with
  | pretended dry => rw [real] at dry; cases dry
  | written => exact ⟨by simp, Memory.get?_set_self _ _ _⟩
  | refused => exact absurd (quiet _ (List.mem_singleton_self _)) (by simp [Diagnostic.isWarning])

/-- A step that is wanted and says nothing has read its file and left what it made of it. -/
theorem Edited.of_quiet {store store' : Memory} {wanted dryRun : Bool} {file : Path}
    {remedy : Text} {edit : Text → Edit} {r : StepResult}
    (h : Edited wanted store dryRun file remedy edit r store') (on : wanted = true)
    (real : dryRun = false) (quiet : Quiet r.notes) :
    ∃ old, store.read file = .ok old ∧ store'.get? file = some (edit old).text ∧
      Quiet (edit old).notes := by
  cases h with
  | unwanted off => rw [on] at off; cases off
  | unread => exact Bool.noConfusion (quiet _ (List.mem_singleton_self _))
  | unchanged _ read same =>
    exact ⟨_, read, by rw [same, Memory.get?_of_read read], quiet⟩
  | saved _ read _ saved =>
    obtain ⟨hedit, hsave⟩ := quiet_append.mp quiet
    exact ⟨_, read, (saved.get?_of_quiet real hsave).2, hedit⟩

/-- A check is done where its part is found in the text of its file. -/
@[simp] theorem state_fileCheck {name : Text} {file : Path} {text : Text} {found : Text → Bool} :
    (Status.fileCheck name file (some text) found).state = .done ↔ found text = true := by
  cases h : found text <;> simp [Status.fileCheck, Status.stateOf, h]

variable {s : Settings} {text : Text}

/-! ## The entry file -/

/-- **An entry file that was edited without a warning** passes its checks. -/
theorem entryChecks_done {w : Wiring} {shown : Text} (h : ScriptNames w)
    (paired : Text.endsPaired text = true) (quiet : Quiet (entryEdit w shown text).notes)
    (file : Path) : ∀ c ∈ Status.entryChecks w file (some (entryText w text)), c.state = .done := by
  have hroot : findRootOptions w.host (provide w.i18nSymbol w.i18nImportLine text) ≠ none := by
    simp only [entryEdit, quiet_warn] at quiet
    simpa [Option.isSome_iff_ne_none] using quiet
  obtain ⟨object, hobject⟩ := Option.ne_none_iff_exists'.mp hroot
  obtain ⟨found, hfound, -, hnamed⟩ := findRootOptions_injectRootOption h.host.isName.isIdentifier
    h.i18nSymbol.isName.isIdentifier hobject
  have himport := hasLine_entryText (imports_importLine h.i18nSymbol h.package) paired
  have hoption : Status.hasRootOption w (entryText w text) = true := by
    rw [Status.hasRootOption, entryText, hfound]
    exact hnamed
  simpa [Status.entryChecks] using ⟨himport, hoption⟩

/-! ## The router file -/

/-- **A router file that was edited without a warning** passes its checks. -/
theorem routerChecks_done {withExamples : Bool} {shown : Text} (h : ScriptNames s.router)
    (paired : Text.endsPaired text = true)
    (spans : ∀ p, findInstallCall s.router.host s.router.fromSymbol
      (importedText s withExamples text) = some p → spansImport p.body = false)
    (quiet : Quiet (routerEdit s withExamples shown text).notes) (file : Path) :
    ∀ c ∈ Status.routerChecks s.router file (some (routerText s withExamples text)),
      c.state = .done := by
  have himport : hasLine s.router.routerImportLine (routerText s withExamples text) = true :=
    hasLine_routerText h paired spans (s.router.fromSymbol, s.router.routerImportLine)
      List.mem_cons_self
  simp only [routerEdit, quiet_append, quiet_warn, Bool.not_eq_false'] at quiet
  obtain ⟨⟨hinstalled, -⟩, hconstructed⟩ := quiet
  have hconstructed : (findConstruction s.router.toSymbol
      (routerText s withExamples text)).isSome = true := by
    simpa [Option.isSome_iff_ne_none] using hconstructed
  simpa [Status.routerChecks] using ⟨himport, hinstalled, hconstructed⟩

/-! ## The App component -/

/-- **The switcher is there** in an edited component that had a place for it. -/
theorem contains_markupText (on : s.options.addLanguageSwitcher = true) {stamp : Nat}
    (placed : (addSwitcher s.router (linksText s stamp text)).isSome = true) :
    Text.contains ('<' :: s.router.switcherTag) (markupText s stamp text) = true := by
  refine Text.contains_iff.mpr ?_
  simp only [markupText, on, if_true]
  cases hopening : hasOpeningTag s.router.switcherTag (linksText s stamp text) with
  | true =>
    rw [addSwitcher, if_pos hopening]
    exact infix_of_hasOpeningTag hopening
  | false =>
    obtain ⟨anchor, hanchor⟩ := Option.isSome_iff_exists.mp placed
    rw [hanchor]
    simp only [addSwitcher, hopening, Bool.false_eq_true, if_false] at hanchor
    obtain ⟨p, -, rfl⟩ := Option.map_eq_some_iff.mp hanchor
    exact (infix_switcherSnippet _ _ _).trans (List.infix_append _ _ _)

/-- The checks of a component are done where no link opens outside the regions and the switcher is
    there, as far as they are wanted. -/
theorem forall_appChecks {stamp : Nat} {file : Path} :
    (∀ c ∈ Status.appChecks s stamp file (some text), c.state = .done) ↔
      (s.options.localizeLinks = true →
        hasTagOutside stamp s.router.linkTag s.router.switcherTag text = false) ∧
      (s.options.addLanguageSwitcher = true →
        Text.contains ('<' :: s.router.switcherTag) text = true) := by
  rw [Status.appChecks, List.forall_mem_append]
  cases s.options.localizeLinks <;> cases s.options.addLanguageSwitcher <;> simp

/-- **A component that was edited without a warning** passes its checks. -/
theorem appChecks_done {shown : Text} (h : ComponentNames s.router) (hmark : ¬ mark <:+: text)
    {stamp : Nat} (quiet : Quiet (markupEdit s stamp shown text).notes) (stamp' : Nat)
    (file : Path) :
    ∀ c ∈ Status.appChecks s stamp' file (some (markupText s stamp text)), c.state = .done := by
  simp only [markupEdit, quiet_warn] at quiet
  refine forall_appChecks.mpr ⟨fun on => hasTagOutside_markupText h hmark on stamp stamp',
    fun on => contains_markupText on ?_⟩
  simpa [on, Option.isSome_iff_ne_none] using quiet

end Pass

end RouteLocalizer
