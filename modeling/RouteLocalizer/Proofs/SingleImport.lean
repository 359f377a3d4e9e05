/-
  An import that a text does not have yet is there ONCE after it has been provided.

  The lines of the result are counted.  One is the line that is written, whether it takes the place
  of an import or stands on its own behind the imports (`lineCount_insertBehindImports`).  The lines
  around it are as before, and none of them was the import.  So the one thing that is left to look
  at is the line that the symbol is cut out of, and it counts if what is left of it is the import
  itself: then the text has the import twice, and else it has it once.

  SPECIFICATION (`lineCount_provide_import`): for a text with paired line ends that does not have
  the import yet,
  (1) its line is there once afterwards;
  (2) it is there twice exactly if the symbol shared its line with that very import
      (`SharesLine`).
-/
import RouteLocalizer.Proofs.RouterFile

namespace RouteLocalizer.Import

open Text

variable {symbol line text : Text}

/-- What is left of the line that binds the symbol among others when the symbol is cut out. -/
def cutLine (symbol text : Text) : Option Text :=
  match find symbol text with
  | some (.grouped _ binding) => lineWithout binding
  | _ => none

/-- What is left of a line is one line. -/
theorem newline_not_mem_cutLine (paired : endsPaired text = true) {rest : Text}
    (h : cutLine symbol text = some rest) : '\n' ∉ rest := by
  unfold cutLine at h
  split at h
  · rename_i hfind
    obtain ⟨hwhole, hbound⟩ := find_grouped paired hfind
    exact fun hmem =>
      hwhole.newline_not_mem (bindingOnLine_subset hbound (lineWithout_subset h hmem))
  · cases h

/-- **The lines of a text with a provided import**: one that is written, and one more if the cut
    leaves a line of the import. -/
theorem lineCount_provide (hsymbol : ∀ c ∈ symbol, isLineEnd c = false)
    (hline : canonical line ≠ []) (plain : '\n' ∉ line) (paired : endsPaired text = true)
    (missing : hasLine line text = false) :
    lineCount line (provide symbol line text) =
      1 + (cutLine symbol text).elim 0 (lineCount line) := by
  have hself : lineCount line line = 1 := by rw [lineCount_of_not_mem hline plain, if_pos rfl]
  have hzero : lineCount line text = 0 := lineCount_eq_zero.mpr missing
  have hout := provide_provides hsymbol paired line
  generalize provide symbol line text = out at hout ⊢
  cases hout with
  | present found => cases missing.symm.trans found
  | replaced _ found _ whole =>
    rw [whole.lineCount_eq hline] at hzero
    rw [whole.lineCount_replaceWith hline, hself]
    simp only [cutLine, found, Option.elim_none]
    omega
  | @moved old binding _ found whole bound =>
    rw [whole.lineCount_eq hline] at hzero
    rw [lineCount_insertBehindImports hline (exciseBinding_keeps whole bound paired).1, hself,
      whole.lineCount_exciseBinding hline]
    simp only [cutLine, found]
    omega
  | added _ found =>
    rw [lineCount_insertBehindImports hline paired, hself, hzero]
    simp only [cutLine, found, Option.elim_none]

/-- The symbol stands among others on a line that is the given import without it. -/
def SharesLine (symbol line text : Text) : Prop :=
  ∃ rest ∈ cutLine symbol text, canonical rest = canonical line

instance (symbol line text : Text) : Decidable (SharesLine symbol line text) :=
  inferInstanceAs (Decidable (∃ rest ∈ cutLine symbol text, _))

theorem lineCount_cutLine (hline : canonical line ≠ []) (paired : endsPaired text = true) :
    (cutLine symbol text).elim 0 (lineCount line) =
      if SharesLine symbol line text then 1 else 0 := by
  cases hcut : cutLine symbol text with
  | none => simp [SharesLine, hcut]
  | some rest =>
    rw [Option.elim_some, lineCount_of_not_mem hline (newline_not_mem_cutLine paired hcut)]
    simp [SharesLine, hcut]

/-- A line that imports one name from one module is not empty. -/
theorem ImportForm.canonical_line_ne_nil (name module : Text) (form : ImportForm) :
    canonical (form.line name module) ≠ [] := by
  obtain ⟨opening, closing, hline, hopening, hgap, -⟩ := form.line_eq name module
  intro hnil
  have hruns := runsOf_canonical (form.line name module)
  rw [hnil, hline, runsOf_append (.inl hgap), hopening] at hruns
  cases hruns

theorem ImportForm.newline_not_mem_line {name module : Text} (hname : '\n' ∉ name)
    (hmodule : '\n' ∉ module) (form : ImportForm) : '\n' ∉ form.line name module := by
  obtain ⟨opening, closing, hline, -, -, -, -, -, hplain⟩ := form.line_eq name module
  have hgap : '\n' ∉ opening ++ closing := fun hmem => absurd (hplain _ hmem) (by decide)
  rw [hline]
  simp only [List.mem_append, not_or] at hgap ⊢
  simp [hgap, hname, hmodule]

/-- **A provided import is there once**, unless the symbol shared its line with that very import:
    then it is there twice. -/
theorem lineCount_provide_import {name module : Text} (form : ImportForm)
    (hsymbol : ∀ c ∈ symbol, isLineEnd c = false) (hname : '\n' ∉ name) (hmodule : '\n' ∉ module)
    (paired : endsPaired text = true) (missing : hasLine (form.line name module) text = false) :
    lineCount (form.line name module) (provide symbol (form.line name module) text) =
      if SharesLine symbol (form.line name module) text then 2 else 1 := by
  have hline := form.canonical_line_ne_nil name module
  have plain := form.newline_not_mem_line hname hmodule
  rw [lineCount_provide hsymbol hline plain paired missing, lineCount_cutLine hline paired]
  split <;> rfl

/-- A line that imports the name beside the symbol, but from another module. -/
theorem lineCount_provide_import_sample :
    let text : Text := "import \x7b T, S \x7d from 'q'\r\nimport X from 'p'\r\nT(S)"
    let line := ImportForm.braced.line "T" "p"
    lineCount line (provide "S" line text) = 1 ∧
      (provide "S" line text : Text) = "import \x7b T \x7d from 'q'\r\nimport X from 'p'\r\n" ++
        "import \x7b T \x7d from 'p'\r\nT(S)" := by
  intro text line
  have missing : hasLine line text = false := by decide +kernel
  have hcount : lineCount line (provide "S" line text) =
      if SharesLine "S" line text then 2 else 1 :=
    lineCount_provide_import .braced (by decide) (by decide) (by decide) (by decide +kernel) missing
  rw [if_neg (by decide +kernel)] at hcount
  exact ⟨hcount, by decide +kernel⟩

/-- **The import is there twice** when the symbol is cut out of a line that binds the name as well,
    from the same module. -/
theorem lineCount_provide_twice :
    let text : Text := "import \x7b T, S \x7d from 'p'\n"
    let line := ImportForm.braced.line "T" "p"
    hasLine line text = false ∧ SharesLine "S" line text ∧
      (provide "S" line text : Text) =
        "import \x7b T \x7d from 'p'\nimport \x7b T \x7d from 'p'\n" ∧
      lineCount line (provide "S" line text) = 2 := by
  decide +kernel

end RouteLocalizer.Import
