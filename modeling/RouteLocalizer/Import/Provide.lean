/-
  Making a given line THE IMPORT that provides a symbol.

  `provide` first looks whether the line is already there: spacing, the kind of quote and a
  semicolon at the end do not matter (`hasLine`).  Otherwise a line that imports the symbol alone
  is replaced, a binding among others is cut out of its line (`exciseBinding`) and the new line
  goes behind the last import, and a text that does not import the symbol gets the new line there
  as well.
-/
import RouteLocalizer.Import.Binding

namespace RouteLocalizer.Import

open Text

/-! ## Spellings of one line -/

/-- Characters that need no space beside them. -/
def isTight (c : Char) : Bool := c == '\x7b' || c == '\x7d' || c == ','

/-- Drops the spaces beside braces and commas. -/
def tighten (last : Option Char) : Text → Text
  | [] => []
  | c :: cs =>
    if c == ' ' && (last.any isTight || cs.head?.any isTight) then tighten last cs
    else c :: tighten (some c) cs

/-- The one form of all spellings of an import line: trimmed, without semicolons at the end, with
    single spaces and none beside braces and commas, and with single quotes. -/
def canonical (line : Text) : Text :=
  let collapsed := joinWith [' '] (words (dropEndWhile (· == ';') (trim line)))
  tighten none (collapsed.map fun c => if c = '"' then '\'' else c)

/-- Whether some line of the text is a spelling of the given import line. -/
def hasLine (line text : Text) : Bool :=
  (lines text).any fun l => canonical l == canonical line

/-! ## Cutting a binding out -/

/-- A brace list without bindings, with the comma in front of it. -/
def emptyList : Shape :=
  Shape.run isIndent <| Shape.optional ',' <| Shape.run isIndent <| Shape.literal ['\x7b'] <|
    Shape.run isIndent <| Shape.literal ['\x7d'] Shape.finish

/-- The start of an import line without bindings. -/
def emptyClause : Shape :=
  Shape.textStart <| Shape.run isIndent <| Shape.literal keyword <| Shape.run isIndent <|
    Shape.literal fromWord <| Shape.boundary Shape.finish

/-- The line that is left when a binding is cut out, or nothing when no binding is left. -/
def lineWithout (binding : Passage) : Option Text :=
  let cut := binding.replaceWith []
  let line := match Shape.firstOf emptyList cut with
    | some p => p.replaceWith []
    | none => cut
  if Shape.occursIn emptyClause line then none else some line

/-- The text without the line end it starts with. -/
def dropLineEnd : Text → Text
  | '\r' :: '\n' :: rest => rest
  | '\n' :: rest => rest
  | text => text

/-- Cuts a binding out of its line.  A line without bindings goes together with its line end. -/
def exciseBinding (line binding : Passage) : Text :=
  match lineWithout binding with
  | some rest => line.replaceWith rest
  | none => line.before ++ dropLineEnd line.after

/-! ## The import itself -/

/-- Makes `line` the import that provides `symbol`. -/
def provide (symbol line text : Text) : Text :=
  if hasLine line text then text
  else match find symbol text with
    | some (.standalone old) => old.replaceWith line
    | some (.grouped old binding) => insertBehindImports line (exciseBinding old binding)
    | none => insertBehindImports line text

end RouteLocalizer.Import
