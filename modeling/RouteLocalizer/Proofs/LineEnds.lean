/-
  LINE ENDS are kept: an edit of a uniform text leaves a uniform text with the same line end.

  PROGRAM: the four rewriters — `provide`, `swapRouter`, `injectRootOption`, `addSwitcher` — write
  text of their own into a script or a component, each with the line end that it looks up in the
  text (`lineEnding`).
  SPECIFICATION (`edits_keep_lineEnds`): for a text with one kind of line end,
  (1) the last three leave a text with that line end;
  (2) `provide` does unless it loses the line end of the text, and then it does not
      (`uniform_provide_iff`).

  What an edit writes has the line end of the text, since that was looked up in the text.  And it
  cuts where a word starts or ends, behind a sign, or where a line starts or ends, so never within
  a pair.

  There is one exception.  An import that is moved to a line of its own gets the line end of the
  text that is left when it was cut out, and the only pair of a text can go with it
  (`LosesEnding`).
-/
import RouteLocalizer.Proofs.Component
import RouteLocalizer.Proofs.EntryFile
import RouteLocalizer.Proofs.RouterFile
import RouteLocalizer.Proofs.Uniform

namespace RouteLocalizer

/-! ## The line end of a text -/

namespace Import

open Text

variable {text : Text}

/-- What is looked up is one of the two line ends. -/
theorem isEnding_of_lineEnding {newline : Text} (h : lineEnding text = newline) :
    IsEnding newline := h ▸ lineEnding_cases text

/-- Without carriage returns it is the line feed, ... -/
theorem lineEnding_of_not_mem (h : '\r' ∉ text) : lineEnding text = ['\n'] := by
  have hnone : contains ['\r', '\n'] text = false := by
    induction text with
    | nil => rfl
    | cons c cs ih =>
      obtain ⟨hc, hcs⟩ := not_or.mp (fun hor => h (List.mem_cons.mpr hor))
      simp [contains, List.isPrefixOf, hc, ih hcs]
  simp [lineEnding, hnone]

/-- ... and with one, in a paired text, it is the pair. -/
theorem lineEnding_of_mem (paired : endsPaired text = true) (h : '\r' ∈ text) :
    lineEnding text = ['\r', '\n'] := by
  have hpair : contains ['\r', '\n'] text = true := by
    induction text with
    | nil => cases h
    | cons c cs ih =>
      simp only [endsPaired, Bool.and_eq_true, Bool.or_eq_true, bne_iff_ne, ne_eq,
        beq_iff_eq] at paired
      rw [contains, Bool.or_eq_true]
      by_cases hc : c = '\r'
      · obtain ⟨rest, rfl⟩ := List.head?_eq_some_iff.mp (paired.1.resolve_left (not_not.mpr hc))
        exact .inl (by simp [hc, List.isPrefixOf])
      · exact .inr (ih paired.2 ((List.mem_cons.mp h).resolve_left (Ne.symm hc)))
  simp [lineEnding, hpair]

/-- Pairs that are not there to be found are not there at all. -/
theorem oneLine_of_lineEnding (h : Uniform ['\r', '\n'] text) (hending : lineEnding text = ['\n']) :
    OneLine text := by
  have hnone : contains ['\r', '\n'] text = false := by
    unfold lineEnding at hending
    split at hending
    · cases hending
    · rename_i hnone
      simpa using hnone
  clear hending
  induction h with
  | nil => simp [OneLine]
  | @char c rest plain later ih =>
    have hrest : contains ['\r', '\n'] rest = false := by
      simp only [contains, Bool.or_eq_false_iff] at hnone
      exact hnone.2
    simpa [OneLine, plain] using ih hrest
  | ending => simp [contains] at hnone

/-! ## Providing an import -/

/-- A line that is inserted gets the line end that the text has. -/
theorem uniform_insertBehindImports {newline line : Text} (hnewline : lineEnding text = newline)
    (h : Uniform newline text) (hline : OneLine line) :
    Uniform newline (insertBehindImports line text) := by
  have hline : Uniform newline line := uniform_of_oneLine hline
  unfold insertBehindImports
  rw [hnewline]
  split
  · rename_i p hp
    have hcut := lastImport_cut hp
    rw [hcut.whole] at h
    have := h.insert (isEnding_of_lineEnding hnewline) (apart_of_getLast? hcut.front _)
      ((uniform_newline _).append hline)
    simpa [Passage.insertBehind] using this
  · exact (hline.append (uniform_newline _)).append h

/-- A text without line ends gets a line feed, and that one has no carriage return. -/
theorem not_uniform_insertBehindImports {line : Text} (h : OneLine text) (hline : OneLine line) :
    ¬ Uniform ['\r', '\n'] (insertBehindImports line text) := by
  have hending := lineEnding_of_not_mem h.not_mem_carriageReturn
  have hchars : '\n' ∈ insertBehindImports line text ∧ '\r' ∉ insertBehindImports line text := by
    have htext := h.not_mem_carriageReturn
    have hnew := hline.not_mem_carriageReturn
    unfold insertBehindImports
    rw [hending]
    split
    · rename_i p hp
      rw [(lastImport_cut hp).whole] at htext
      simp only [List.mem_append, not_or] at htext
      simp [Passage.insertBehind, htext, hnew]
    · simp [htext, hnew]
  intro huniform
  have := oneLine_of_lineEnding huniform (lineEnding_of_not_mem hchars.2)
  exact absurd (this _ hchars.1) (by decide)

/-- Neither cut around a whole line runs through a pair. -/
theorem WholeLine.apart {p : Passage} (h : WholeLine text p) :
    Apart p.before (p.body ++ p.after) ∧ Apart (p.before ++ p.body) p.after := by
  refine ⟨apart_of_atLineStart h.starts _, ?_⟩
  rcases List.eq_nil_or_concat p.body with hnil | ⟨body, c, hbody⟩
  · rw [hnil, List.append_nil]
    exact apart_of_atLineStart h.starts _
  · refine apart_of_getLast? ?_ _
    rw [hbody, List.concat_eq_append, ← List.append_assoc, List.getLast?_concat]
    rintro ⟨⟩
    exact absurd (h.plain '\r' (by simp [hbody])) (by decide)

/-- A whole line gives way to another one. -/
theorem WholeLine.uniform_replaceWith {newline new : Text} {p : Passage} (whole : WholeLine text p)
    (hnewline : IsEnding newline) (h : Uniform newline text) (hnew : OneLine new) :
    Uniform newline (p.replaceWith new) := by
  rw [whole.whole] at h
  rw [Passage.replaceWith, List.append_assoc]
  exact h.splice hnewline whole.apart.1 whole.apart.2 (uniform_of_oneLine hnew)

/-- Dropping the line end behind a line leaves no half of a pair. -/
theorem uniform_dropLineEnd {newline : Text} (hnewline : IsEnding newline)
    (hend : AtLineEnd text) (h : Uniform newline text) : Uniform newline (dropLineEnd text) := by
  rcases hend with rfl | ⟨rest, rfl | rfl⟩
  · exact .nil
  · exact (h.split (a := ['\n']) hnewline (apart_of_getLast? (by simp) _)).2
  · exact (h.split (a := ['\r', '\n']) hnewline (apart_of_getLast? (by simp) _)).2

/-- **Cutting a binding out** leaves line ends as they are. -/
theorem uniform_exciseBinding {newline symbol : Text} {p b : Passage}
    (hnewline : IsEnding newline) (h : Uniform newline text) (whole : WholeLine text p)
    (bound : bindingOnLine symbol p.body = some b) : Uniform newline (exciseBinding p b) := by
  unfold exciseBinding
  split
  · rename_i rest hrest
    exact whole.uniform_replaceWith hnewline h fun c hc =>
      whole.plain c (bindingOnLine_subset bound (lineWithout_subset hrest hc))
  · -- the line goes away as a whole, so both cuts are at the ends of a line
    rw [whole.whole] at h
    obtain ⟨hbefore, h⟩ := h.split hnewline whole.apart.1
    have hafter := h.split hnewline (apart_of_getLast? (fun hr => ?_) _)
    · exact hbefore.append (uniform_dropLineEnd hnewline whole.ends hafter.2)
    · exact absurd (whole.plain _ (List.mem_of_getLast? hr)) (by decide)

/-- The text with the symbol cut out of a line that binds it among others. -/
def withoutBinding (symbol text : Text) : Text :=
  match find symbol text with
  | some (.grouped old binding) => exciseBinding old binding
  | _ => text

/-- So what is left when a symbol's binding was cut out is uniform. -/
theorem uniform_withoutBinding {newline : Text} (hnewline : IsEnding newline)
    (h : Uniform newline text) (symbol : Text) : Uniform newline (withoutBinding symbol text) := by
  unfold withoutBinding
  split
  · rename_i hfind
    obtain ⟨whole, bound⟩ := find_grouped (h.endsPaired hnewline) hfind
    exact uniform_exciseBinding hnewline h whole bound
  · exact h

/-- The symbol is cut out of the text, and with it goes the last pair that told what ends its
    lines. -/
def LosesEnding (symbol line text : Text) : Prop :=
  hasLine line text = false ∧ lineEnding (withoutBinding symbol text) ≠ lineEnding text

instance (symbol line text : Text) : Decidable (LosesEnding symbol line text) :=
  inferInstanceAs (Decidable (_ ∧ _))

/-- **Providing an import keeps the line ends uniform**, unless the only pair is lost. -/
theorem uniform_provide_iff {newline symbol line : Text} (hsymbol : OneLine symbol)
    (hline : OneLine line) (hnewline : lineEnding text = newline) (h : Uniform newline text) :
    Uniform newline (provide symbol line text) ↔ ¬ LosesEnding symbol line text := by
  have hending := isEnding_of_lineEnding hnewline
  have hout := provide_provides hsymbol (h.endsPaired hending) line
  generalize provide symbol line text = out at hout ⊢
  cases hout with
  | present found => simp [LosesEnding, found, h]
  | replaced _ found _ whole =>
    have := whole.uniform_replaceWith hending h hline
    simp [LosesEnding, withoutBinding, found, this]
  | added _ found =>
    have := uniform_insertBehindImports hnewline h hline
    simp [LosesEnding, withoutBinding, found, this]
  | @moved old binding missing found whole bound =>
    have hexcised := uniform_exciseBinding hending h whole bound
    have hloses : LosesEnding symbol line text ↔
        lineEnding (exciseBinding old binding) ≠ newline := by
      simp [LosesEnding, withoutBinding, found, missing, hnewline]
    rw [hloses, not_not]
    refine ⟨fun huniform => ?_, fun hsame => uniform_insertBehindImports hsame hexcised hline⟩
    by_contra hother
    -- line feeds stay line feeds, and a text of pairs that has lost its pairs is one line
    rcases hending with rfl | rfl
    · exact hother (lineEnding_of_not_mem (uniform_lineFeed_iff.mp hexcised))
    · have hfeed := (lineEnding_cases (exciseBinding old binding)).resolve_right hother
      exact not_uniform_insertBehindImports (oneLine_of_lineEnding hexcised hfeed) hline huniform

/-- A text without pairs has none to lose. -/
theorem not_losesEnding (h : '\r' ∉ text) (symbol line : Text) :
    ¬ LosesEnding symbol line text := by
  have hcut := uniform_withoutBinding (.inl rfl) (uniform_lineFeed_iff.mpr h) symbol
  rintro ⟨-, hother⟩
  rw [lineEnding_of_not_mem h, lineEnding_of_not_mem (uniform_lineFeed_iff.mp hcut)] at hother
  exact hother rfl

end Import

namespace Script

open Text Import

variable {w : Wiring} {args : InstallArgs} {host option symbol newline text : Text}

/-! ## Swapping the router -/

/-- The values that are passed to the localized router. -/
def InstallArgs.values (args : InstallArgs) : List Text :=
  args.defaultLanguage.toList ++ args.messages.toList ++ args.localizedUrls.toList

/-- The lines of the object that is written into an install call are lines. -/
theorem oneLine_entries (hargs : ∀ value ∈ args.values, OneLine value) :
    ∀ entry ∈ args.entries, OneLine entry := by
  have hproperty : ∀ {key value : Text}, OneLine key → OneLine value →
      OneLine (InstallArgs.property key value) := by
    intro key value hkey hvalue
    unfold InstallArgs.property
    split
    · exact hkey
    · exact (hkey.append (by decide)).append hvalue
  intro entry hentry
  simp only [InstallArgs.entries, List.mem_append, Option.mem_toList, Option.map_eq_some_iff]
    at hentry
  rcases hentry with (⟨value, hvalue, rfl⟩ | ⟨value, hvalue, rfl⟩) | ⟨value, hvalue, rfl⟩ <;>
    have hvalue := hargs value (by simp [InstallArgs.values, hvalue])
  · exact ((show OneLine _ by decide).append hvalue).append (by decide)
  · exact hproperty (by decide) hvalue
  · exact hproperty (by decide) hvalue

/-- The install call has the line ends that it is given. -/
theorem uniform_installText (hhost : OneLine w.host) (hto : OneLine w.toSymbol)
    (hargs : ∀ value ∈ args.values, OneLine value) :
    Uniform newline (installText w args newline) := by
  have hhead : Uniform newline (w.host ++ ".use(" ++ w.toSymbol) :=
    uniform_of_oneLine ((hhost.append (by decide)).append hto)
  have hline : ∀ entry ∈ args.entries, Uniform newline (InstallArgs.entryLine newline entry) := by
    intro entry hentry
    have hentry : OneLine ("  " ++ entry ++ ",") :=
      ((show OneLine _ by decide).append (oneLine_entries hargs entry hentry)).append (by decide)
    exact (uniform_of_oneLine hentry).append (uniform_newline newline)
  have hrender : Uniform newline (args.render newline) :=
    ((Uniform.char (by decide) (uniform_newline newline)).append (uniform_flatMap hline)).append
      (uniform_of_oneLine (by decide))
  unfold installText
  split
  · exact hhead.append (uniform_of_oneLine (by decide))
  · exact ((hhead.append (uniform_of_oneLine (by decide))).append hrender).append
      (uniform_of_oneLine (by decide))

/-- An install call starts where a word starts or ends, and ends behind a parenthesis. -/
theorem apart_of_findInstallCall {p : Passage} (h : findInstallCall host symbol text = some p) :
    text = p.before ++ (p.body ++ p.after) ∧ Apart p.before (p.body ++ p.after) ∧
      Apart (p.before ++ p.body) p.after := by
  obtain ⟨hwhole, hfits, -⟩ := Shape.firstFrom_eq_some (installCall_reads host symbol) h
  obtain ⟨gap₁, gap₂, gap₃, inner, hcall, -, -, -, -, hboundary, -⟩ := installCall_eq_some hfits
  refine ⟨hwhole, apart_of_isBoundary hboundary, apart_of_getLast? ?_ _⟩
  have hbody : p.body = ((host ++ (gap₁ ++ ('.' :: (gap₂ ++ ['u', 's', 'e'])))) ++
      '(' :: (gap₃ ++ (symbol ++ inner))) ++ [')'] :=
    (List.append_left_inj p.after).mp (by simpa using hcall)
  rw [hbody, ← List.append_assoc, List.getLast?_concat]
  decide

/-- A construction starts and ends where a word starts or ends. -/
theorem apart_of_findConstruction {p : Passage} (h : findConstruction symbol text = some p) :
    text = p.before ++ (p.body ++ p.after) ∧ Apart p.before (p.body ++ p.after) ∧
      Apart (p.before ++ p.body) p.after := by
  obtain ⟨hwhole, hfits, -⟩ := Shape.firstFrom_eq_some (construction_reads symbol) h
  unfold construction at hfits
  obtain ⟨hleft, hfits⟩ := Shape.boundary_eq_some.mp hfits
  obtain ⟨_, hnew, hfits⟩ := Shape.literal_eq_some.mp hfits
  obtain ⟨gap, _, hgap, -, -, hfits⟩ := Shape.runOne_eq_some hfits
  obtain ⟨_, hname, hfits⟩ := Shape.literal_eq_some.mp hfits
  obtain ⟨hright, hfits⟩ := Shape.boundary_eq_some.mp hfits
  obtain rfl := Shape.finish_eq_some.mp hfits
  subst hgap hname
  have hbody : p.body = ['n', 'e', 'w'] ++ (gap ++ symbol) :=
    (List.append_left_inj p.after).mp (by simpa using hnew)
  refine ⟨hwhole, apart_of_isBoundary hleft, apart_of_isBoundary ?_⟩
  rw [hbody, Shape.behind_append, Shape.behind_append, Shape.behind_append]
  exact hright

/-- Either half of swapping the router keeps line ends: the install call, ... -/
theorem uniform_swapInstallCall (hhost : OneLine w.host) (hto : OneLine w.toSymbol)
    (hargs : ∀ value ∈ args.values, OneLine value) (hnewline : lineEnding text = newline)
    (h : Uniform newline text) : Uniform newline (swapInstallCall w args text) := by
  unfold swapInstallCall
  rw [hnewline]
  split
  · rename_i p hp
    obtain ⟨hwhole, hstarts, hends⟩ := apart_of_findInstallCall hp
    rw [hwhole] at h
    rw [Passage.replaceWith, List.append_assoc]
    exact h.splice (isEnding_of_lineEnding hnewline) hstarts hends
      (uniform_installText hhost hto hargs)
  · exact h

/-- ... and the construction. -/
theorem uniform_swapConstruction (hnewline : IsEnding newline) (hto : OneLine w.toSymbol)
    (h : Uniform newline text) : Uniform newline (swapConstruction w text) := by
  unfold swapConstruction
  split
  · rename_i p hp
    obtain ⟨hwhole, hstarts, hends⟩ := apart_of_findConstruction hp
    rw [hwhole] at h
    rw [Passage.replaceWith, List.append_assoc]
    exact h.splice hnewline hstarts hends
      (uniform_of_oneLine ((show OneLine _ by decide).append hto))
  · exact h

/-- **Swapping the router** keeps the line ends uniform. -/
theorem uniform_swapRouter (hhost : OneLine w.host) (hto : OneLine w.toSymbol)
    (hargs : ∀ value ∈ args.values, OneLine value) (hnewline : lineEnding text = newline)
    (h : Uniform newline text) : Uniform newline (swapRouter w args text) :=
  uniform_swapConstruction (isEnding_of_lineEnding hnewline) hto
    (uniform_swapInstallCall hhost hto hargs hnewline h)

/-! ## Giving the root instance an option -/

/-- What is written for a root option, whatever follows it. -/
theorem uniform_optionText {rest : Text} (hoption : OneLine option) :
    Uniform newline (optionText newline option rest) := by
  have hcomma : OneLine (option ++ [',']) := hoption.append (by decide)
  unfold optionText
  split
  · rename_i below hbelow
    rw [List.append_assoc]
    refine .append (.append (uniform_newline newline) (uniform_of_oneLine ?_))
      (uniform_of_oneLine hcomma)
    split
    · decide
    · exact oneLine_of_indented fun c hc => List.mem_takeWhile_imp hc
  · rw [List.append_assoc]
    exact uniform_of_oneLine ((show OneLine _ by decide).append hcomma)

/-- **Injecting an option** keeps the line ends uniform. -/
theorem uniform_injectRootOption (hoption : OneLine option) (hnewline : lineEnding text = newline)
    (h : Uniform newline text) : Uniform newline (injectRootOption host option text) := by
  cases hfind : findRootOptions host text with
  | none => rwa [injectRootOption_of_none hfind]
  | some object =>
    obtain ⟨inner, hinner, hcall, -⟩ := findRootOptions_eq hfind
    rw [injectRootOption_of_found hfind hinner]
    split
    · exact h
    · have hapart : Apart (object.before ++ ['\x7b']) (inner ++ object.after) := by
        refine apart_of_getLast? ?_ _
        rw [List.getLast?_concat]
        decide
      rw [hcall.whole, List.append_cons] at h
      rw [hnewline, List.append_cons]
      exact h.insert (isEnding_of_lineEnding hnewline) hapart (uniform_optionText hoption)

end Script

namespace Markup

open Text Import

variable {w : Wiring} {newline text : Text}

/-! ## Adding the language switcher -/

/-- The lines of the switcher are lines, if the names of its tags are. -/
theorem oneLine_switcherLines (hlink : OneLine w.linkTag) (htag : OneLine w.switcherTag) :
    ∀ line ∈ switcherLines w, OneLine line := by
  have hconstant : ∀ part ∈ ["<".toList, " v-slot=\"\x7b links \x7d\">".toList, "  <".toList,
      " :to=\"link.url\" v-for=\"link in links\" :key=\"link.langIndex\">".toList,
      "    <span>\x7b\x7b link.langName \x7d\x7d</span>".toList, "  </".toList, ">".toList,
      "</".toList], OneLine part := by
    decide +kernel
  simp only [List.forall_mem_cons] at hconstant
  obtain ⟨h₁, h₂, h₃, h₄, h₅, h₆, h₇, h₈, -⟩ := hconstant
  intro line hline
  simp only [switcherLines, List.mem_cons, List.not_mem_nil, or_false] at hline
  rcases hline with rfl | rfl | rfl | rfl | rfl
  · exact (h₁.append htag).append h₂
  · exact (h₃.append hlink).append h₄
  · exact h₅
  · exact (h₆.append hlink).append h₇
  · exact (h₈.append htag).append h₇

/-- **Adding the switcher** keeps the line ends uniform. -/
theorem uniform_addSwitcher (hlink : OneLine w.linkTag) (htag : OneLine w.switcherTag)
    (hnewline : lineEnding text = newline) (h : Uniform newline text) :
    ∀ out ∈ addSwitcher w text, Uniform newline out := by
  intro out hout
  have hsame : (addSwitcher w text).getD text = out := by rw [hout, Option.getD_some]
  rcases addSwitcher_cases w text with heq | ⟨-, a, indent, b, hsplit, ha, hindent, hadded⟩
  · rwa [← hsame, heq]
  · rw [hsplit] at h
    rw [← hsame, hadded, hnewline]
    refine h.insert (isEnding_of_lineEnding hnewline) (apart_of_getLast? (by simp [ha]) b) ?_
    refine uniform_flatMap fun line hline => ?_
    exact ((uniform_newline newline).append
      (uniform_of_oneLine (oneLine_of_indented hindent))).append
        (uniform_of_oneLine (oneLine_switcherLines hlink htag line hline))

end Markup

namespace Pass

open Text Import Script Markup

/-- **No edit mixes line ends.**  What the edits leave of a text with pairs alone has pairs alone,
    where an import that moves does not take the only pair with it; and what they leave of a text
    without a carriage return has none. -/
theorem edits_keep_lineEnds {symbol line host option text : Text} {w : Wiring} {args : InstallArgs}
    (hsymbol : OneLine symbol) (hline : OneLine line) (hoption : OneLine option)
    (hwiring : ∀ name ∈ [w.host, w.toSymbol, w.linkTag, w.switcherTag], OneLine name)
    (hargs : ∀ value ∈ args.values, OneLine value) :
    (contains ['\r', '\n'] text = true → Uniform ['\r', '\n'] text →
      (Uniform ['\r', '\n'] (provide symbol line text) ↔ ¬ LosesEnding symbol line text) ∧
      Uniform ['\r', '\n'] (swapRouter w args text) ∧
      Uniform ['\r', '\n'] (injectRootOption host option text) ∧
      ∀ out ∈ addSwitcher w text, Uniform ['\r', '\n'] out) ∧
    ('\r' ∉ text →
      '\r' ∉ provide symbol line text ∧ '\r' ∉ swapRouter w args text ∧
      '\r' ∉ injectRootOption host option text ∧ ∀ out ∈ addSwitcher w text, '\r' ∉ out) := by
  simp only [List.forall_mem_cons] at hwiring
  obtain ⟨hhost, hto, hlink, htag, -⟩ := hwiring
  constructor
  · intro hfound huniform
    have hnewline : lineEnding text = ['\r', '\n'] := by simp [lineEnding, hfound]
    exact ⟨uniform_provide_iff hsymbol hline hnewline huniform,
      uniform_swapRouter hhost hto hargs hnewline huniform,
      uniform_injectRootOption hoption hnewline huniform,
      uniform_addSwitcher hlink htag hnewline huniform⟩
  · intro hnone
    have hnewline := lineEnding_of_not_mem hnone
    have huniform := uniform_lineFeed_iff.mpr hnone
    simp only [← uniform_lineFeed_iff]
    exact ⟨(uniform_provide_iff hsymbol hline hnewline huniform).mpr (not_losesEnding hnone _ _),
      uniform_swapRouter hhost hto hargs hnewline huniform,
      uniform_injectRootOption hoption hnewline huniform,
      uniform_addSwitcher hlink htag hnewline huniform⟩

/-- A binding moves from a line that keeps another one, and the pairs stay. -/
theorem edits_keep_lineEnds_sample :
    let text : Text := "import \x7b A, S \x7d from 'm'\r\nVue.use(VueRouter)\r\n"
    let args : InstallArgs := { messages := some "translations" }
    let line : Text := "import \x7b S \x7d from 'n'"
    Uniform ['\r', '\n'] (provide "S" line text) ∧
      Uniform ['\r', '\n'] (swapRouter {} args text) := by
  intro text args line
  obtain ⟨pairs, -⟩ := @edits_keep_lineEnds "S" line "Vue" "i18n" text {} args (by decide)
    (by decide +kernel) (by decide) (by decide +kernel) (by decide +kernel)
  obtain ⟨provided, swapped, -⟩ := pairs (by decide +kernel) (by decide +kernel)
  exact ⟨provided.mpr (by decide +kernel), swapped⟩

/-- A line that binds nothing else goes away with the only pair, and the new import ends with a line
    feed. -/
theorem provide_losesPair :
    let text : Text := "import \x7b S, \x7d from 'm'\r\nfoo"
    let line : Text := "import \x7b S \x7d from 'n'"
    contains ['\r', '\n'] text = true ∧ Uniform ['\r', '\n'] text ∧ OneLine "S".toList ∧
      OneLine line ∧ provide "S" line text = "import \x7b S \x7d from 'n'\nfoo" ∧
      ¬ Uniform ['\r', '\n'] (provide "S" line text) := by
  decide +kernel

end Pass

end RouteLocalizer
