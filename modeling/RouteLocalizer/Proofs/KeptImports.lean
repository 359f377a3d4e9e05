/-
  Imports that are provided one after another DO NOT UNDO each other.

  What providing an import takes away is a line that imports its name alone, or one binding of its
  name among others.  A line that imports another name is neither, in whatever way it is spelled:
  its four runs of ink name that one name and no second one.  Everything else that is written
  stands on lines of its own.  So a chain of imports of different names ends with all of them there,
  and the three of the router file are such a chain.

  SPECIFICATION (`imports_kept`):
  (1) a line that imports one name is still there when another name was provided, whatever line is
      written for that one;
  (2) so the three imports of a router file, provided one after another, are there in the end.
-/
import RouteLocalizer.Proofs.RouterFile

namespace RouteLocalizer

namespace Pass

open Text Import

/-- Names that a chain of imports in the router file can be told by. -/
structure RouterImportNames (w : Wiring) : Prop where
  fromSymbol : IsName w.fromSymbol
  toSymbol : IsName w.toSymbol
  package : IsModule w.package
  apart : w.toSymbol ∉ exampleSymbols

instance (w : Wiring) : Decidable (RouterImportNames w) :=
  decidable_of_iff (IsName w.fromSymbol ∧ IsName w.toSymbol ∧ IsModule w.package ∧
      ∀ name ∈ exampleSymbols, w.toSymbol ≠ name)
    ⟨fun ⟨fromSymbol, toSymbol, package, apart⟩ =>
      ⟨fromSymbol, toSymbol, package, fun h => apart _ h rfl⟩,
      fun h => ⟨h.fromSymbol, h.toSymbol, h.package, fun _ hname heq => h.apart (heq ▸ hname)⟩⟩

/-- **The imports of the router file are all there** when the last of them has been provided. -/
theorem hasLine_importExamples {w : Wiring} {text : Text} (h : RouterImportNames w)
    (paired : endsPaired text = true) :
    let chained := importExamples (provide w.fromSymbol w.routerImportLine text)
    hasLine w.routerImportLine chained = true ∧
      ∀ i ∈ Template.routerImports, hasLine i.2 chained = true := by
  have himport : ImportsName w.toSymbol w.package w.routerImportLine :=
    importsName_line h.toSymbol h.package .braced
  have hplain : ∀ c ∈ w.routerImportLine, isLineEnd c = false :=
    ImportForm.line_plain h.toSymbol h.package .braced
  have examples := routerImports_provided
  -- the first import is there, and the lines of the others import other names
  have paired' := endsPaired_provide h.fromSymbol.oneLine hplain paired
  have hfirst := hasLine_provide h.fromSymbol.oneLine himport.canonical_ne_nil
    (fun hmem => absurd (hplain _ hmem) (by decide)) paired
  have hothers : ∀ j ∈ Template.routerImports, IsName j.1 ∧ j.1 ≠ w.toSymbol := fun j hj =>
    ⟨(examples.searched j hj).isName,
      fun heq => h.apart (heq ▸ List.mem_map_of_mem (f := Prod.fst) hj)⟩
  have hkept := hasLine_provideAll_other himport hothers examples.plain paired' hfirst
  exact ⟨hkept, hasLine_provideAll examples paired'⟩

/-- **Chained imports do not undo each other**: providing a name keeps the line that imports another
    one, whatever line is written, and so the three imports of the router file are there in the
    end. -/
theorem imports_kept :
    (∀ {kept searched module line text : Text} (form : ImportForm), IsName kept →
        IsName searched → kept ≠ searched → IsModule module → endsPaired text = true →
        hasLine (form.line kept module) text = true →
          hasLine (form.line kept module) (provide searched line text) = true) ∧
      ∀ {w : Wiring} {text : Text}, RouterImportNames w → endsPaired text = true →
        let chained := importExamples (provide w.fromSymbol w.routerImportLine text)
        hasLine w.routerImportLine chained = true ∧
          ∀ i ∈ Template.routerImports, hasLine i.2 chained = true := by
  refine ⟨fun form hkept hsearched hne hmodule paired hline => ?_, hasLine_importExamples⟩
  exact hasLine_provide_other hsearched (importsName_line hkept hmodule form) (Ne.symm hne) paired
    hline

/-- A line that goes away right in front of another spelling of the kept one, and a router file
    whose localized router has the name of a keyword. -/
theorem imports_kept_sample :
    let text : Text := "import B, \x7b\x7d from 'q'\r\n  import \x7bA\x7d  from \"p\";;\r\nB.use(A)"
    let w : Wiring := { toSymbol := "new", package := "@lang(router)" }
    let file : Text := "import VueRouter, \x7b translations \x7d from 'vue-router'\n"
    let chained := importExamples (provide w.fromSymbol w.routerImportLine file)
    hasLine (ImportForm.braced.line "A" "p")
        (provide "B" "import \x7b B \x7d from 'n'" text) = true ∧
      hasLine w.routerImportLine chained = true ∧
        ∀ i ∈ Template.routerImports, hasLine i.2 chained = true := by
  intro text w file
  exact ⟨imports_kept.1 .braced (by decide) (by decide) (by decide) (by decide +kernel)
    (by decide +kernel) (by decide +kernel),
    imports_kept.2 (w := w) (by decide +kernel) (by decide +kernel)⟩

end Pass

end RouteLocalizer
