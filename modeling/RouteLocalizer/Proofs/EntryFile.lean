/-
  The ENTRY FILE is finished after one edit: its import line stays where the option is put into the
  root instance, and a second edit finds both and changes nothing.

  The option is written right behind the brace of the root call.  An import line that stood in front
  of that place or behind it stands there still, since none runs over the brace.

  SPECIFICATION, for names that settings may hold and paired line ends:
  (1) `hasLine_injectRootOption` — putting the option in keeps every import line;
  (2) `hasLine_entryText` — so the import of the option's object is there after the edit;
  (3) `entryText_entryText` — and the edit is idempotent.
-/
import RouteLocalizer.Pass.Edit
import RouteLocalizer.Proofs.RootOption

namespace RouteLocalizer

namespace Script

open Text Import

variable {host option text : Text}

/-! ## Import lines beside the root call -/

/-- What stands in front of a text's end without one of its characters stands behind that. -/
theorem subset_of_suffix {front a gap : Text} {c : Char} (h : front <:+ a ++ c :: gap)
    (hc : c ∉ front) : front ⊆ gap := by
  obtain ⟨u, hu⟩ := h
  rcases List.append_eq_append_iff.mp hu with ⟨w, -, hw⟩ | ⟨w, -, hw⟩
  · rw [hw] at hc
    exact absurd (by simp) hc
  · cases w with
    | nil => exact absurd (by simp [← show _ = front from hw]) hc
    | cons d w =>
      rw [List.cons_append, List.cons.injEq] at hw
      exact hw.2 ▸ List.subset_append_right w front

/-- No import line runs over the brace behind an opening parenthesis. -/
theorem not_hasLine_call {symbol package wanted a gap front tail : Text}
    (h : Imports symbol package wanted) (hgap : ∀ c ∈ gap, isBlank c = true)
    (hfront : front <:+ a ++ '(' :: gap) (hplain : '\n' ∉ front) (htail : '\n' ∉ tail) :
    ¬ hasLine wanted (front ++ (['\x7b'] ++ tail)) = true := by
  rw [hasLine_of_not_mem h.canonical_ne_nil (by simp [hplain, htail])]
  intro heq
  have spells := h.spells heq
  by_cases hopen : '(' ∈ front
  · exact spells.not_mem_parentheses h.symbol h.package (.inl rfl) (by simp [hopen])
  · obtain ⟨rest, hrest, -⟩ := spells.trimStart_eq
    rw [trimStart, List.dropWhile_append_of_pos fun c hc =>
      hgap c (subset_of_suffix hfront hopen hc)] at hrest
    have hbrace : ('\x7b' :: tail).dropWhile isBlank = '\x7b' :: tail :=
      List.dropWhile_cons_of_neg (by decide)
    rw [List.singleton_append, hbrace] at hrest
    exact absurd (congrArg List.head? hrest) (by simp [keyword])

/-- **Putting the option in keeps the import lines.** -/
theorem hasLine_injectRootOption {symbol package wanted : Text} (h : Imports symbol package wanted)
    (hline : hasLine wanted text = true) :
    hasLine wanted (injectRootOption host option text) = true := by
  cases hfind : findRootOptions host text with
  | none => rwa [injectRootOption_of_none hfind]
  | some object =>
    obtain ⟨inner, hinner, hcall, -⟩ := findRootOptions_eq hfind
    rcases injectRootOption_cases hfind hinner with ⟨-, heq⟩ | ⟨gap, -, heq⟩
    · rwa [heq]
    obtain ⟨before, call, hfront, htext, ⟨gap₁, gap₂, gap₃, rfl, -, -, -, hblank⟩, -⟩ := hcall
    have hbefore : object.before =
        (before ++ (['n', 'e', 'w'] ++ (gap₁ ++ (host ++ gap₂)))) ++ '(' :: gap₃ := by
      simp [hfront]
    rw [htext, ← List.singleton_append, hbefore] at hline
    rw [heq, ← List.singleton_append, ← List.append_assoc ['\x7b'], hbefore]
    exact hasLine_replaced h.canonical_ne_nil hline fun front tail hfront _ hplain htail =>
      not_hasLine_call h hblank hfront hplain htail

end Script

namespace Pass

open Import

variable {w : Wiring} {text : Text}

/-- The import is there after the edit. -/
theorem hasLine_entryText (h : Imports w.i18nSymbol w.package w.i18nImportLine)
    (paired : Text.endsPaired text = true) :
    hasLine w.i18nImportLine (entryText w text) = true :=
  Script.hasLine_injectRootOption h
    (hasLine_provide h.symbol.oneLine h.canonical_ne_nil h.newline_not_mem paired)

/-- **The entry file is finished after one edit.** -/
theorem entryText_entryText (h : Imports w.i18nSymbol w.package w.i18nImportLine)
    (hhost : IsSymbol w.host) (paired : Text.endsPaired text = true) :
    entryText w (entryText w text) = entryText w text := by
  conv => lhs; rw [entryText, provide_of_hasLine (hasLine_entryText h paired)]
  exact Script.injectRootOption_injectRootOption hhost.isName.isIdentifier
    h.symbol.isName.isIdentifier _

end Pass

end RouteLocalizer
