/-
  What the CLOCK has to do with a pass.

  Program: a pass is handed two things of the clock (`Mode`).  Its time stamp is part of the
  placeholders that exclusion regions are hidden behind while links are renamed, and its day is the
  value of two names that templates may use.  Everything else that a pass reads, it reads from the
  settings and from the store.

  Specification (`run_sameTime`): where neither is seen, a pass does the same at any time, with the
  same answer, the same store afterwards and the same log.  They are not seen where each template
  comes out the same on both days and the App component holds no mark of placeholders
  (`TimelessOn`).  The built-in templates always come out the same, unless the default language has
  a placeholder in it (`Template.examples_sameOn`).

  1. The manifest, the entry file and the router file are edited without a look at the clock, so
     these steps are the same programs at any time.
  2. Rendering looks at templates only after they are filled in (`Template.render_sameOn`).
  3. **The crux** is the component, since it is looked at last: what it holds by then is what it
     held from the start, or, if it was not there, what a template made of it
     (`unmarked_of_templated`).
-/
import RouteLocalizer.Proofs.Placeholders
import RouteLocalizer.Proofs.Places
import RouteLocalizer.Proofs.Restoring
import RouteLocalizer.Proofs.Trace

namespace RouteLocalizer

/-! ## Templates that come out the same -/

namespace Template

/-- A template that comes out the same on both days. -/
def SameOn (s : Settings) (script : Script) (day day' : Day) (t : Template) : Prop :=
  (standardValues s script day').fill t.relative = (standardValues s script day).fill t.relative ∧
    (standardValues s script day').fill t.content = (standardValues s script day).fill t.content

instance (s : Settings) (script : Script) (day day' : Day) (t : Template) :
    Decidable (t.SameOn s script day day') :=
  inferInstanceAs (Decidable (_ ∧ _))

variable {s : Settings} {script : Script} {day day' : Day}

/-- **Rendering sees the filled templates only.** -/
theorem render_sameOn {m : Type → Type} [Monad m] [Files m] (dryRun : Bool) (root : Path)
    {templates : List Template} (same : ∀ t ∈ templates, t.SameOn s script day day') :
    (render dryRun root (standardValues s script day') templates : m (Except Failure Summary)) =
      render dryRun root (standardValues s script day) templates := by
  induction templates with
  | nil => rfl
  | cons t rest ih =>
    obtain ⟨⟨hrelative, hcontent⟩, hrest⟩ := List.forall_mem_cons.mp same
    simp only [render, target, hrelative, hcontent, ih hrest]

/-- The values that templates can use, in the order of their names. -/
theorem standardValues_eq (s : Settings) (script : Script) (day : Day) :
    standardValues s script day = ([
      ("ADD_LANGUAGE_SWITCHER", ofBool s.options.addLanguageSwitcher),
      ("DATE", day.date),
      ("DEFAULT_LANGUAGE", s.i18n.defaultLanguage),
      ("LINK_TAG", s.router.localizedLinkTag),
      ("PACKAGE", s.router.package),
      ("RENDER_TEMPLATE", ofBool s.options.renderTemplate),
      ("REWRITE_ROUTER_LINK", ofBool s.options.localizeLinks),
      ("ROUTER_SYMBOL", s.router.toSymbol),
      ("SCRIPT_EXT", script.extension),
      ("SWITCHER_TAG", s.router.switcherTag),
      ("YEAR", day.year)] : List (Text × Text)) := by
  cbv

/-- The day is the value of two names. -/
theorem lookup_standardValues {name : Text} (hyear : name ≠ "YEAR".toList)
    (hdate : name ≠ "DATE".toList) (s : Settings) (script : Script) (day day' : Day) :
    (standardValues s script day').lookup name = (standardValues s script day).lookup name := by
  simp only [standardValues_eq, List.lookup_cons, beq_false_of_ne hyear, beq_false_of_ne hdate]

/-- **A text that does not name the day** is filled in with the same values on any day, as long as
    these values are literal text. -/
theorem fill_sameOn {pieces : List Piece} (legal : ∀ p ∈ pieces, p.IsLegal)
    (values : ∀ day, ∀ v ∈ standardValues s script day, .placeholder v.1 ∈ pieces → IsLiteral v.2)
    (hyear : .placeholder "YEAR" ∉ pieces) (hdate : .placeholder "DATE" ∉ pieces) :
    (standardValues s script day').fill (spellPieces pieces) =
      (standardValues s script day).fill (spellPieces pieces) := by
  have names : ∀ day, ∀ v ∈ standardValues s script day, IsBraceless v.1 := by
    intro day
    rw [standardValues_eq]
    simp only [List.forall_mem_cons, List.not_mem_nil, false_implies, implies_true, and_true]
    decide
  rw [Variables.fill_pieces (names day') (values day') legal,
    Variables.fill_pieces (names day) (values day) legal]
  refine List.flatMap_congr fun p hp => ?_
  cases p with
  | literal text => rfl
  | placeholder name =>
    have hy : name ≠ "YEAR".toList := fun heq => hyear (heq ▸ hp)
    have hd : name ≠ "DATE".toList := fun heq => hdate (heq ▸ hp)
    rw [Piece.filled, Piece.filled, lookup_standardValues hy hd s script day day']

/-- A text in pieces, around the first placeholder of a name. -/
def piecesAround (name text : Text) : List Piece :=
  match Text.findFirst (Variables.placeholder name) text with
  | some p => [.literal p.before, .placeholder name, .literal p.after]
  | none => [.literal text]

theorem spellPieces_piecesAround (name text : Text) :
    spellPieces (piecesAround name text) = text := by
  unfold piecesAround
  split
  · rename_i p hp
    obtain ⟨htext, -, -⟩ := Text.findFirst_eq_some hp
    simpa [spellPieces, Piece.spell] using htext.symm
  · simp [spellPieces, Piece.spell]

theorem eq_of_mem_piecesAround {name other text : Text}
    (h : .placeholder other ∈ piecesAround name text) : other = name := by
  unfold piecesAround at h
  split at h
  · simpa using h
  · simp at h

/-- **The built-in templates do not show the day**: they name the default language and the kind of
    script, once each, and nothing else. -/
theorem examples_sameOn (language : IsLiteral s.i18n.defaultLanguage) :
    ∀ t ∈ examples, t.SameOn s script day day' := by
  have hlegal : ∀ t ∈ examples, (∀ p ∈ piecesAround "SCRIPT_EXT" t.relative, p.IsLegal) ∧
      ∀ p ∈ piecesAround "DEFAULT_LANGUAGE" t.content, p.IsLegal := by decide +kernel
  have hvalue : ∀ {name : Text}, name = "SCRIPT_EXT".toList ∨ name = "DEFAULT_LANGUAGE".toList →
      ∀ text day, ∀ v ∈ standardValues s script day, .placeholder v.1 ∈ piecesAround name text →
        IsLiteral v.2 := by
    rintro name hname text day ⟨other, value⟩ hv hmem
    obtain rfl : other = name := eq_of_mem_piecesAround hmem
    have extension : IsLiteral script.extension := by cases script <;> decide
    simp only [standardValues_eq, List.mem_cons, Prod.mk.injEq, List.not_mem_nil, or_false] at hv
    rcases hv with ⟨rfl, rfl⟩ | ⟨rfl, rfl⟩ | ⟨rfl, rfl⟩ | ⟨rfl, rfl⟩ | ⟨rfl, rfl⟩ | ⟨rfl, rfl⟩ |
        ⟨rfl, rfl⟩ | ⟨rfl, rfl⟩ | ⟨rfl, rfl⟩ | ⟨rfl, rfl⟩ | ⟨rfl, rfl⟩ <;>
      first | exact language | exact extension | exact absurd hname (by decide)
  have hday : ∀ {name other : Text} (text : Text), other ≠ name →
      .placeholder other ∉ piecesAround name text :=
    fun text hne hmem => hne (eq_of_mem_piecesAround hmem)
  intro t ht
  obtain ⟨hlegal, hlegal'⟩ := hlegal t ht
  constructor
  · rw [← spellPieces_piecesAround "SCRIPT_EXT" t.relative]
    exact fill_sameOn hlegal (hvalue (.inl rfl) _) (hday _ (by decide)) (hday _ (by decide))
  · rw [← spellPieces_piecesAround "DEFAULT_LANGUAGE" t.content]
    exact fill_sameOn hlegal' (hvalue (.inr rfl) _) (hday _ (by decide)) (hday _ (by decide))

end Template

namespace Pass

open Markup

/-! ## What has to hold -/

/-- A project in which a pass sees neither the time stamp nor the day: the templates come out the
    same, and the mark of placeholders stands neither in the App component nor in a template for
    it. -/
structure TimelessOn (s : Settings) (day day' : Day) (p : Project) (store : Memory) : Prop where
  templates : s.options.renderTemplate = true → ∀ templates ∈ (sourcesIn s store).toOption,
    ∀ t ∈ templates, t.SameOn s p.script day day'
  tags : s.options.localizeLinks = true →
    IsTag s.router.linkTag ∧ IsTag s.router.localizedLinkTag ∧ IsTag s.router.switcherTag
  component : s.options.localizeLinks = true → ∀ text ∈ store.get? p.appFile, ¬ mark <:+: text
  /-- A template may make the component where there is none. -/
  rendered : s.options.localizeLinks = true → ∀ templates ∈ (sourcesIn s store).toOption,
    ∀ t ∈ templates,
      (Template.target p.root (Template.standardValues s p.script day) t).same p.appFile = true →
      ¬ mark <:+: (Template.standardValues s p.script day).fill t.content

instance (s : Settings) (day day' : Day) (p : Project) (store : Memory) :
    Decidable (TimelessOn s day day' p store) :=
  decidable_of_iff (_ ∧ _ ∧ _ ∧ _)
    ⟨fun ⟨templates, tags, component, rendered⟩ => ⟨templates, tags, component, rendered⟩,
      fun h => ⟨h.templates, h.tags, h.component, h.rendered⟩⟩

/-- The project at a root, if it is accepted, is such a project. -/
def Timeless (s : Settings) (day day' : Day) (root : Path) (store : Memory) : Prop :=
  ∀ p ∈ projectAt s root store, TimelessOn s day day' p store

instance (s : Settings) (day day' : Day) (root : Path) (store : Memory) :
    Decidable (Timeless s day day' root store) :=
  inferInstanceAs (Decidable (∀ p ∈ projectAt s root store, _))

/-- **With the built-in templates** all that is left to ask is that the component holds no mark. -/
theorem timelessOn_of_builtIn {s : Settings} {day day' : Day} {p : Project} {store : Memory}
    (builtIn : s.templates.dir = none) (language : IsLiteral s.i18n.defaultLanguage)
    (tags : IsTag s.router.linkTag ∧ IsTag s.router.localizedLinkTag ∧ IsTag s.router.switcherTag)
    (component : ∀ text ∈ store.get? p.appFile, ¬ mark <:+: text) :
    TimelessOn s day day' p store := by
  have hsources : ∀ templates ∈ (sourcesIn s store).toOption, templates = Template.examples := by
    intro templates h
    simpa [sourcesIn, builtIn, Except.toOption, eq_comm] using h
  refine ⟨fun _ templates h => ?_, fun _ => tags, fun _ => component, fun _ templates h t ht => ?_⟩
  · rw [hsources templates h]
    exact Template.examples_sameOn language
  · rw [hsources templates h] at ht
    have apart := (Template.examples_apart s day p).edited t ht p.appFile (by
      simp [Project.editedFiles])
    simp [apart]

variable {s : Settings} {dryRun : Bool} {stamp stamp' : Nat} {day day' : Day} {p : Project}
  {store : Memory}

/-! ## The steps that see the clock -/

/-- **The templates step** does the same on both days. -/
theorem templatesStep_sameTime (same : s.options.renderTemplate = true →
      ∀ templates ∈ (sourcesIn s store).toOption, ∀ t ∈ templates, t.SameOn s p.script day day') :
    (templatesStep s ⟨dryRun, stamp', day'⟩ p : StateM Memory (StepResult × Bool)) store =
      (templatesStep s ⟨dryRun, stamp, day⟩ p : StateM Memory (StepResult × Bool)) store := by
  cases hon : s.options.renderTemplate with
  | false => simp [templatesStep, hon]
  | true =>
    cases hsources : sourcesIn s store with
    | error failure => simp [templatesStep, hon, source_eq, hsources]
    | ok templates =>
      have hrender := Template.render_sameOn (m := StateM Memory) dryRun p.root
        (same hon templates (by simp [hsources, Except.toOption]))
      simp [templatesStep, hon, source_eq, hsources, hrender]

/-- **What the component holds when its step comes** has no mark: it was there from the start, or a
    template made it. -/
theorem unmarked_of_templated {mode : Mode} {store₁ store₂ : Memory} {r : StepResult}
    {withExamples : Bool} (timeless : TimelessOn s mode.day day' p store)
    (on : s.options.localizeLinks = true) (outside : store₁.outside = store.outside)
    (before : store₁.get? p.appFile = store.get? p.appFile)
    (templated : Templated s mode p store₁ r withExamples store₂) :
    ∀ text ∈ store₂.get? p.appFile, ¬ mark <:+: text := by
  intro text htext
  cases hold : store₁.get? p.appFile with
  | some old =>
    obtain rfl := Option.some.inj ((templated.get?_of_present hold).symm.trans htext)
    exact timeless.component on _ (before.symm.trans hold)
  | none =>
    obtain ⟨templates, sources, t, ht, htarget, rfl⟩ := templated.get?_of_absent hold htext
    rw [sourcesIn_congr s outside] at sources
    exact timeless.rendered on templates (by simp [sources, Except.toOption]) t ht htarget

/-- Editing a file looks at the edit of the text that is there only. -/
theorem editFile_congr {file : Path} {remedy : Text} {edit edit' : Text → Edit}
    (same : ∀ text, store.read file = .ok text → edit' text = edit text) :
    (editFile dryRun file remedy edit' : StateM Memory StepResult) store =
      (editFile dryRun file remedy edit : StateM Memory StepResult) store := by
  cases hread : store.read file with
  | error fault => simp [editFile, hread]
  | ok text => simp [editFile, hread, same text hread]

/-- **The component's step** does the same at both time stamps. -/
theorem markupStep_sameTime
    (tags : s.options.localizeLinks = true →
      IsTag s.router.linkTag ∧ IsTag s.router.localizedLinkTag ∧ IsTag s.router.switcherTag)
    (unmarked : s.options.localizeLinks = true → ∀ text ∈ store.get? p.appFile, ¬ mark <:+: text) :
    (markupStep s ⟨dryRun, stamp', day'⟩ p : StateM Memory StepResult) store =
      (markupStep s ⟨dryRun, stamp, day⟩ p : StateM Memory StepResult) store := by
  unfold markupStep
  split
  · rfl
  refine editFile_congr fun text hread => ?_
  have hlinks : linksText s stamp' text = linksText s stamp text := by
    unfold linksText
    split
    · rename_i on
      obtain ⟨hlink, hlocalized, hswitcher⟩ := tags on
      have hmark := unmarked on text (Memory.get?_of_read hread)
      rw [renameOutside_eq hlink hlocalized hswitcher stamp' hmark,
        renameOutside_eq hlink hlocalized hswitcher stamp hmark]
    · rfl
  simp only [markupEdit, markupText, hlinks]

/-! ## The whole pass -/

/-- **A pass at another time does the same**, where it sees neither the time stamp nor the day. -/
theorem run_sameTime {root : Path} (timeless : Timeless s day day' root store) :
    (run s ⟨dryRun, stamp', day'⟩ root : StateM Memory (Except Failure Report)) store =
      (run s ⟨dryRun, stamp, day⟩ root : StateM Memory (Except Failure Report)) store := by
  cases haccept : accept s root (store.read (Project.manifestAt root)) with
  | error failure => simp [run, preconditions, haccept]
  | ok a =>
    have timeless : TimelessOn s day day' a.project store :=
      timeless _ (by simp [projectAt, haccept])
    -- the trace at the one time, step by step that at the other
    obtain ⟨manifest, store₁, hmanifest, declared⟩ :=
      manifestStep_declared s ⟨dryRun, stamp, day⟩ a store (checkSections_of_accept haccept)
    obtain ⟨templates, withExamples, store₂, htemplates, templated⟩ :=
      templatesStep_templated s ⟨dryRun, stamp, day⟩ a.project store₁
    obtain ⟨entry, store₃, hentry, entered⟩ :=
      entryStep_edited s ⟨dryRun, stamp, day⟩ a.project store₂
    obtain ⟨router, store₄, hrouter, routed⟩ :=
      routerStep_edited s ⟨dryRun, stamp, day⟩ a.project withExamples store₃
    obtain ⟨-, -, hma, -, hea, hra⟩ := a.project.filesApart
    have outside : store₁.outside = store.outside := declared.isLater.outside
    have hmanifest' : (manifestStep s ⟨dryRun, stamp', day'⟩ a :
        StateM Memory (Except Failure StepResult)) store = (.ok manifest, store₁) := hmanifest
    have htemplates' : (templatesStep s ⟨dryRun, stamp', day'⟩ a.project :
        StateM Memory (StepResult × Bool)) store₁ = ((templates, withExamples), store₂) := by
      refine (templatesStep_sameTime fun on => ?_).trans htemplates
      rw [sourcesIn_congr s outside]
      exact timeless.templates on
    have hentry' : (entryStep s ⟨dryRun, stamp', day'⟩ a.project :
        StateM Memory StepResult) store₂ = (entry, store₃) := hentry
    have hrouter' : (routerStep s ⟨dryRun, stamp', day'⟩ a.project withExamples :
        StateM Memory StepResult) store₃ = (router, store₄) := hrouter
    have hmarkup : (markupStep s ⟨dryRun, stamp', day'⟩ a.project :
        StateM Memory StepResult) store₄ =
        (markupStep s ⟨dryRun, stamp, day⟩ a.project : StateM Memory StepResult) store₄ := by
      refine markupStep_sameTime timeless.tags fun on => ?_
      rw [routed.get?_of_ne hra, entered.get?_of_ne hea]
      exact unmarked_of_templated timeless on outside (declared.get?_of_ne hma) templated
    simp only [run, preconditions, steps, Memory.bind_apply, Memory.pure_apply, Memory.read_apply,
      haccept, hmanifest, hmanifest', htemplates, htemplates', hentry, hentry', hrouter, hrouter',
      hmarkup]

end Pass

end RouteLocalizer
