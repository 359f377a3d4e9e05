/-
  A binding that MOVES to a line of its own, and what becomes of the text around it.

  A line that binds a symbol among others is edited in place, and the line that is written stands
  behind it.  Two things have to be known of the rest of the text.  No other line is found, neither
  one that imports the symbol alone nor one that binds it: where a line is found its clause has the
  symbol (`clauseMentions`), and two whole lines of a text are the same or apart
  (`WholeLine.eq_or_mem`).  And the new line is not written into the one that was cut: the last one
  of the imports is that line or stands behind it, and that line leaves no brace open
  (`lastImport_behind`).

  The crux is the line itself, which is `importText_cut`.
-/
import RouteLocalizer.Proofs.LineEnds
import RouteLocalizer.Proofs.OwnLine
import RouteLocalizer.Proofs.Remainder

namespace RouteLocalizer.Import

open Text

/-! ## Lines whose clause has a symbol -/

/-- Whether the clause of an import line has a symbol as an identifier. -/
def clauseMentions (symbol line : Text) : Bool :=
  (clauseOf line).any fun clause => hasIdentifier symbol clause.body

theorem clauseMentions_of_bindingOnLine {symbol line : Text} {b : Passage}
    (h : bindingOnLine symbol line = some b) : clauseMentions symbol line = true := by
  unfold bindingOnLine at h
  split at h
  · rename_i clause hclause
    obtain ⟨site, hsite, -⟩ := Option.map_eq_some_iff.mp h
    rw [clauseMentions, hclause, Option.any_some, hasIdentifier]
    cases hsites : identifierSites symbol clause.body with
    | nil => simp [bindingInClause, hsites, firstBinding] at hsite
    | cons => rfl
  · cases h

/-- A symbol between blanks and braces is a clause. -/
theorem isClauseText_alone {symbol gap₁ gap₂ : Text} (hsymbol : IsPlainName symbol)
    (hne₁ : gap₁ ≠ []) (hne₂ : gap₂ ≠ []) (hgap₁ : ∀ c ∈ gap₁, isBesideAlone c = true)
    (hgap₂ : ∀ c ∈ gap₂, isBesideAlone c = true) : IsClauseText (gap₁ ++ (symbol ++ gap₂)) := by
  have hword : ∀ c, isBesideAlone c = true → isWordChar c = false := fun c hc =>
    (gapFacts (isBesideAlone_gap hc).1).word
  have hplain : ∀ c, isBesideAlone c = true → ¬ isQuoteMark c ∧ isLineEnd c = false := fun c hc =>
    ⟨not_or.mpr (gapFacts (isBesideAlone_gap hc).1).quote, (isBesideAlone_gap hc).2⟩
  constructor
  case starts =>
    obtain ⟨c, gap₁, rfl⟩ := List.exists_cons_of_ne_nil hne₁
    simpa using hword c (hgap₁ c (by simp))
  case ends =>
    obtain ⟨back, c, rfl⟩ := exists_concat hne₂
    exact ⟨gap₁ ++ (symbol ++ back), c, by simp, hword c (hgap₂ c (by simp))⟩
  case plain =>
    simp only [List.forall_mem_append]
    exact ⟨fun c hc => hplain c (hgap₁ c hc),
      fun c hc => ⟨hsymbol.isName.noQuote c hc, hsymbol.isName.oneLine c hc⟩,
      fun c hc => hplain c (hgap₂ c hc)⟩
  case noFrom =>
    rw [runsOf_gap fun c hc => hword c (hgap₁ c hc),
      runsOf_gap_behind fun c hc => hword c (hgap₂ c hc),
      runsOf_word hsymbol.isName.nonempty hsymbol.isName.word]
    simpa using Ne.symm hsymbol.ne_from

/-- A line that imports a symbol alone has a clause with the symbol, and without a comma. -/
theorem standalone_clause {symbol text : Text} {p : Passage} (hsymbol : IsPlainName symbol)
    (h : findStandalone symbol text = some (.standalone p)) :
    clauseMentions symbol p.body = true ∧ ∀ clause, clauseOf p.body = some clause →
      ',' ∉ clause.body := by
  obtain ⟨indent, gap₁, gap₂, rest, hbody, hne₁, hne₂, hindent, hopen, hclose, hrest⟩ :=
    standalone_body h
  obtain ⟨hgap₁, hgap₂⟩ := List.forall_mem_append.mp (isBesideAlone_of_gaps hopen hclose)
  have hline : p.body = importText indent (gap₁ ++ (symbol ++ gap₂)) rest := by
    simp [hbody, importText]
  have hclause :=
    clauseOf_importText hindent (isClauseText_alone hsymbol hne₁ hne₂ hgap₁ hgap₂) hrest
  rw [← hline] at hclause
  constructor
  · rw [clauseMentions, hclause, Option.any_some]
    obtain ⟨front, c, rfl⟩ := exists_concat hne₁
    have hgap : ∀ c, isBesideAlone c = true → isIdentifierChar c = false := fun c hc =>
      (gapFacts (isBesideAlone_gap hc).1).identifier
    obtain ⟨d, back, rfl⟩ := List.exists_cons_of_ne_nil hne₂
    have hfound := hasIdentifier_between (u := front) hsymbol.isName.isIdentifier
      (hgap c (hgap₁ c (by simp)))
      (show (d :: back).head?.any isIdentifierChar = false from hgap d (hgap₂ d (by simp)))
    simpa using hfound
  · intro clause heq
    obtain rfl := Option.some.inj (hclause.symm.trans heq)
    have hcomma : isBesideAlone ',' = false := by decide
    have hgap : ∀ gap : Text, (∀ c ∈ gap, isBesideAlone c = true) → ',' ∉ gap :=
      fun gap hgap h => by
        rw [hgap _ h] at hcomma
        cases hcomma
    simp [hgap gap₁ hgap₁, hgap gap₂ hgap₂, hsymbol.isName.not_mem_signs ',' (by decide)]

/-! ## Lines with a carriage return behind them -/

theorem fromShape_carriageReturn (last : Option Char) (text : Text) :
    (fromShape last (text ++ ['\r'])).isSome = (fromShape last text).isSome := by
  rw [Bool.eq_iff_iff, fromShape_isSome, fromShape_isSome]
  refine and_congr_right fun _ => ⟨?_, ?_⟩
  · rintro ⟨rest, htext, hrest⟩
    obtain ⟨z, rfl, rfl⟩ := exists_of_cut (show '\r' ∉ fromWord by decide) htext
    exact ⟨z, rfl, any_head?_of_isPrefix (List.prefix_append z _) hrest⟩
  · rintro ⟨rest, rfl, hrest⟩
    refine ⟨rest ++ ['\r'], by simp, ?_⟩
    cases rest with
    | nil => exact show isWordChar '\r' = false by decide
    | cons c rest => exact hrest

theorem splitClause_carriageReturn {last : Option Char} {text clause rest : Text}
    (h : splitClause last text = some (clause, rest)) :
    splitClause last (text ++ ['\r']) = some (clause, rest ++ ['\r']) := by
  induction text generalizing last clause with
  | nil => cases h
  | cons c cs ih =>
    have hfrom := fromShape_carriageReturn last (c :: cs)
    rw [List.cons_append] at hfrom ⊢
    simp only [splitClause, hfrom] at h ⊢
    split at h
    · cases h
      simp [*]
    · split at h
      · cases h
      · obtain ⟨⟨clause', rest'⟩, hsplit, heq⟩ := Option.map_eq_some_iff.mp h
        cases heq
        simp [*, ih hsplit]

/-- A carriage return at the end of a line takes nothing from its clause. -/
theorem clauseMentions_carriageReturn {symbol line : Text} (h : clauseMentions symbol line = true) :
    clauseMentions symbol (line ++ ['\r']) = true := by
  obtain ⟨clause, hclause, hfound⟩ := (Option.any_eq_true _ _).mp h
  obtain ⟨indent, hbefore, hindent, hline, hboundary, hsplit⟩ := clauseOf_eq_some hclause
  have hlonger : clause.body ++ (clause.after ++ ['\r']) =
      clause.body ++ clause.after ++ ['\r'] := by
    simp
  have hhead : isBoundary (some 't') (clause.body ++ (clause.after ++ ['\r'])) = true := by
    cases hrest : clause.body ++ clause.after with
    | nil =>
      rw [hrest] at hsplit
      cases hsplit
    | cons c rest =>
      rw [hlonger, hrest]
      rwa [hrest] at hboundary
  have hsplit' := splitClause_carriageReturn hsplit
  rw [← hlonger] at hsplit'
  have := clauseOf_append hindent hhead hsplit'
  have hwhole : line ++ ['\r'] =
      indent ++ (keyword ++ (clause.body ++ (clause.after ++ ['\r']))) := by
    rw [hline, hbefore]
    simp
  rw [clauseMentions, hwhole, this, Option.any_some]
  exact hfound

/-! ## Two whole lines of a text -/

/-- **Two whole lines of a text** are the same, or one stands in front of the other or behind it. -/
theorem WholeLine.eq_or_mem {text : Text} {p q : Passage} (hp : WholeLine text p)
    (hq : WholeLine text q) (hne : q.body ≠ []) :
    q = p ∨ ∃ other ∈ lines p.before ++ lines p.after,
      other = q.body ∨ other = q.body ++ ['\r'] := by
  obtain ⟨before, body, after⟩ := p
  obtain ⟨before', body', after'⟩ := q
  have htext : before' ++ (body' ++ after') = before ++ (body ++ after) :=
    hq.whole.symm.trans hp.whole
  rcases List.append_eq_append_iff.mp htext with ⟨z, hz, hrest⟩ | ⟨z, hz, hrest⟩
  · -- the other line starts first, so it ends in front of the line feed that this one starts behind
    by_cases hnil : z = []
    · exact .inl (hq.eq_of_before hp (by simp [hz, hnil]))
    · obtain ⟨front, rfl⟩ := atLineStart_append (hz ▸ hp.starts) hnil
      obtain ⟨more, rfl, hafter⟩ := exists_of_cut hq.newline_not_mem (by simpa using hrest.symm)
      have hbehind : AtLineEnd (more ++ ['\n']) := atLineEnd_left (hafter ▸ hq.ends)
      obtain ⟨other, hother, heq⟩ :=
        mem_lines_between hq.starts hbehind hq.newline_not_mem fun h => absurd h hne
      exact .inr ⟨other, List.mem_append_left _ (by simpa [hz] using hother), heq⟩
  · -- it starts behind this line, and so behind its line end
    by_cases hnil : z = []
    · exact .inl (hq.eq_of_before hp (by simp [hz, hnil]))
    · obtain ⟨front, rfl⟩ := atLineStart_append (hz ▸ hq.starts) hnil
      obtain ⟨more, rfl, hafter⟩ := exists_of_cut hp.newline_not_mem (by simpa using hrest.symm)
      have hfront : AtLineStart (more ++ ['\n']) := .inr ⟨more, rfl⟩
      obtain ⟨other, hother, heq⟩ :=
        mem_lines_between hfront hq.ends hq.newline_not_mem fun h => absurd h hne
      exact .inr ⟨other, List.mem_append_right _ (by simpa [hafter] using hother), heq⟩

/-! ## The line that is found -/

/-- A line that binds a symbol among others is found, or one in front of it. -/
theorem findGrouped_ne_none {symbol text : Text} {p b : Passage} (h : WholeLine text p)
    (hb : bindingOnLine symbol p.body = some b) : findGrouped symbol text ≠ none := by
  unfold findGrouped
  split
  · rename_i q hq
    obtain ⟨-, hfits, -⟩ := Shape.firstFrom_eq_some (groupedLine_reads symbol) hq
    have hgrouped := (Shape.lineStart_eq_some.mp hfits).2
    split at hgrouped
    · rename_i hbound
      have hsplit := List.takeWhile_append_dropWhile (p := (!isLineEnd ·)) (l := q.body ++ q.after)
      rw [Option.some.inj hgrouped] at hsplit
      rw [List.append_cancel_right hsplit] at hbound
      obtain ⟨b', hb'⟩ := Option.isSome_iff_exists.mp hbound
      simp [hb']
    · cases hgrouped
  · rename_i hnone
    have hfits := Shape.firstFrom_eq_none hnone p.before (p.body ++ p.after) h.whole
    simp [groupedLine, Shape.lineStart, Shape.behind, isLineStart_of_atLineStart h.starts,
      h.takeWhile_eq, hb]
      at hfits

/-- **The one line whose clause has a symbol** is the line that is found. -/
theorem find_of_only {symbol text : Text} {p b clause : Passage} (hsymbol : IsPlainName symbol)
    (paired : endsPaired text = true) (whole : WholeLine text p)
    (hclause : clauseOf p.body = some clause) (comma : ',' ∈ clause.body)
    (hb : bindingOnLine symbol p.body = some b)
    (only : ∀ other ∈ lines p.before ++ lines p.after, clauseMentions symbol other = false) :
    find symbol text = some (.grouped p b) := by
  -- whatever line is found has the symbol in its clause, and that is this line
  have hone : ∀ q, WholeLine text q → clauseMentions symbol q.body = true → q = p := by
    intro q hq hmentions
    have hne : q.body ≠ [] := fun hnil => by
      rw [hnil] at hmentions
      cases hmentions
    refine (whole.eq_or_mem hq hne).resolve_right ?_
    rintro ⟨other, hother, heq | heq⟩
    · have := only other hother
      rw [heq, hmentions] at this
      cases this
    · have := only other hother
      rw [heq, clauseMentions_carriageReturn hmentions] at this
      cases this
  cases hfind : find symbol text with
  | none => exact absurd (Option.or_eq_none_iff.mp hfind).2 (findGrouped_ne_none whole hb)
  | some site =>
    cases site with
    | standalone q =>
      obtain ⟨halone, hwhole⟩ := find_standalone hsymbol.isName.oneLine paired hfind
      obtain ⟨hmentions, hcomma⟩ := standalone_clause hsymbol halone
      obtain rfl := hone q hwhole hmentions
      exact absurd comma (hcomma clause hclause)
    | grouped q b' =>
      obtain ⟨hwhole, hbound⟩ := find_grouped paired hfind
      obtain rfl := hone q hwhole (clauseMentions_of_bindingOnLine hbound)
      rw [Option.some.inj (hbound.symm.trans hb)]

/-! ## The place behind the imports -/

/-- What an import line is: an indent, the keyword and one of the signs behind it, where a line
    starts.  It takes all of the line. -/
theorem importLine_eq_some_iff {last : Option Char} {text rest : Text} :
    importLine last text = some rest ↔ isLineStart last text = true ∧
      ∃ indent c more, text = indent ++ (keyword ++ c :: more) ∧ Blanks indent ∧
        opensBindings c = true ∧ more.dropWhile (!isLineEnd ·) = rest := by
  rw [importLine, Shape.lineStart_eq_some]
  refine and_congr_right fun _ => ⟨fun h => ?_, ?_⟩
  · obtain ⟨indent, _, rfl, hindent, hliteral⟩ := Shape.run_eq_some h
    obtain ⟨_, rfl, hone⟩ := Shape.literal_eq_some.mp hliteral
    obtain ⟨c, more, rfl, hc, hrest⟩ := Shape.one_eq_some.mp hone
    exact ⟨indent, c, more, rfl, hindent, hc, (Shape.lineRest_eq_some.mp hrest).symm⟩
  · rintro ⟨indent, c, more, rfl, hindent, hc, rfl⟩
    rw [run_indent_keyword hindent]
    exact Shape.one_eq_some.mpr ⟨c, more, rfl, hc, rfl⟩

/-- What reads like the start of an import ends before the line does. -/
theorem oneLine_importStart {indent : Text} {c : Char} (hindent : Blanks indent)
    (hc : opensBindings c = true) : OneLine (indent ++ (keyword ++ [c])) := by
  have hkeyword : OneLine keyword := by decide
  have hopens : isLineEnd c = false := by
    have : c = ' ' ∨ c = '\t' ∨ c = '\x7b' ∨ c = '*' ∨ c = '\'' ∨ c = '"' := by
      simpa [opensBindings, isIndent, or_assoc] using hc
    rcases this with rfl | rfl | rfl | rfl | rfl | rfl <;> decide
  intro d hd
  simp only [List.mem_append, List.mem_singleton] at hd
  rcases hd with hd | hd | rfl
  · have : d = ' ' ∨ d = '\t' := by simpa [isIndent] using hindent d hd
    rcases this with rfl | rfl <;> decide
  · exact hkeyword d hd
  · exact hopens

/-- An import line that is found is a whole line. -/
theorem wholeLine_of_importLine {text : Text} {p : Passage} (paired : endsPaired text = true)
    (whole : text = p.before ++ (p.body ++ p.after))
    (fits : importLine (Shape.behind none p.before) (p.body ++ p.after) = some p.after) :
    WholeLine text p := by
  obtain ⟨hstart, indent, c, rest, hparts, hindent, hc, hrest⟩ := importLine_eq_some_iff.mp fits
  exact (wholeLine_of_find _ rest paired whole hstart (by simpa using hparts)
    (oneLine_importStart hindent hc) hrest.symm).1

/-- A brace list goes on behind its line. -/
theorem throughBraceList_eq (line : Passage) : (throughBraceList line).before = line.before ∧
    ∃ more, (throughBraceList line).body = line.body ++ more ∧
      line.after = more ++ (throughBraceList line).after := by
  unfold throughBraceList
  split
  · split
    · rename_i list rest hbrace
      refine ⟨rfl, list ++ rest.takeWhile (!isLineEnd ·), by simp, ?_⟩
      rw [List.append_assoc, List.takeWhile_append_dropWhile]
      exact (throughBrace_eq_some hbrace).1
    · exact ⟨rfl, [], by simp, rfl⟩
  · exact ⟨rfl, [], by simp, rfl⟩

theorem throughBraceList_of_closed {line : Passage} (h : '\x7b' ∈ line.body → '\x7d' ∈ line.body) :
    throughBraceList line = line := by
  have hclosed : (line.body.elem '\x7b' && !line.body.elem '\x7d') = false := by
    simpa using h
  simp only [throughBraceList, hclosed, Bool.false_eq_true, if_false]

/-- **The last import of a text** is an import line that is there, or stands behind it. -/
theorem WholeLine.lastImport_behind {text rest : Text} {p : Passage} (h : WholeLine text p)
    (paired : endsPaired text = true)
    (fits : importLine (Shape.behind none p.before) (p.body ++ p.after) = some rest)
    (braces : '\x7b' ∈ p.body → '\x7d' ∈ p.body) :
    ∃ q between, lastImport text = some q ∧ q.before ++ q.body = p.before ++ (p.body ++ between) ∧
      p.after = between ++ q.after := by
  obtain ⟨line, hline⟩ := Option.isSome_iff_exists.mp (Shape.lastFrom_isSome fits)
  have hlast : Shape.lastOf importLine text = some (line.behind p.before) := by
    rw [h.whole]
    exact Shape.lastFrom_append hline
  have himport : lastImport text = some (throughBraceList (line.behind p.before)) := by
    rw [lastImport, hlast, Option.map_some]
  obtain ⟨htext, hfits⟩ := Shape.lastFrom_eq_some importLine_reads hlast
  have hwhole := wholeLine_of_importLine paired htext hfits
  rw [himport]
  by_cases hnil : line.before = []
  · -- it is the line itself, which leaves no brace open
    rw [hwhole.eq_of_before h (by simp [Passage.behind, hnil]), throughBraceList_of_closed braces]
    exact ⟨p, [], rfl, by simp, rfl⟩
  · -- it is a line further on, whatever its brace list goes on over
    obtain ⟨hbefore, ext, hbody, hafter⟩ := throughBraceList_eq (line.behind p.before)
    obtain ⟨front, hfront⟩ := atLineStart_append hwhole.starts hnil
    have hrest : p.body ++ p.after = front ++ '\n' :: (line.body ++ line.after) := by
      have := (Shape.lastFrom_eq_some importLine_reads hline).1
      simpa [hfront] using this
    obtain ⟨more, rfl, hmore⟩ := exists_of_cut h.newline_not_mem hrest.symm
    refine ⟨_, more ++ '\n' :: (line.body ++ ext), rfl, ?_, ?_⟩
    · rw [hbefore, hbody]
      simp [Passage.behind, hfront]
    · have hafter : line.after = ext ++ (throughBraceList (line.behind p.before)).after := hafter
      rw [hmore, hafter]
      simp

/-- An import line fits where a line starts. -/
theorem importLine_fits {c : Clause} {last : Option Char} {indent clause rest after : Text}
    (hindent : Blanks indent) (spells : SpellsClause c clause)
    (hstart : isLineStart last (importText indent clause rest ++ after) = true) :
    ∃ behind, importLine last (importText indent clause rest ++ after) = some behind := by
  obtain ⟨d, more, rfl, hd⟩ := spells.opens
  refine ⟨_, importLine_eq_some_iff.mpr
    ⟨hstart, indent, d, more ++ (fromWord ++ rest) ++ after, ?_, hindent, hd, rfl⟩⟩
  simp [importText]

/-- **An import line that is there stands in front of a new one**, with all that follows it up to
    the end of the last import. -/
theorem insertBehindImports_importText {c : Clause} {text before indent clause rest after : Text}
    (hindent : Blanks indent) (spells : SpellsClause c clause)
    (names : ∀ name ∈ c.names, IsName name) (hbrace : '\x7b' ∉ rest)
    (whole : WholeLine text ⟨before, importText indent clause rest, after⟩)
    (paired : endsPaired text = true) (line : Text) :
    ∃ between behind, after = between ++ behind ∧ AtLineEnd behind ∧
      insertBehindImports line text = before ++ (importText indent clause rest ++ (between ++
        (lineEnding text ++ (line ++ behind)))) := by
  have hstart : isLineStart (Shape.behind none before) (importText indent clause rest ++ after) =
      true := by
    simpa [Shape.behind] using isLineStart_of_atLineStart whole.starts _
  obtain ⟨_, hfits⟩ := importLine_fits hindent spells hstart
  have hclosed : '\x7b' ∈ importText indent clause rest →
      '\x7d' ∈ importText indent clause rest := by
    intro hopen
    have hclose := spells.closes names ((openBrace_mem_importText hindent hbrace).mp hopen)
    simp [importText, hclose]
  obtain ⟨q, between, hlast, hfront, hafter⟩ := whole.lastImport_behind paired hfits hclosed
  refine ⟨between, q.after, hafter, (lastImport_cut hlast).atLineEnd paired, ?_⟩
  have hinsert : q.insertBehind (lineEnding text ++ line) =
      (q.before ++ q.body) ++ (lineEnding text ++ (line ++ q.after)) := by
    simp [Passage.insertBehind]
  simp only [insertBehindImports, hlast, hinsert, hfront, List.append_assoc]

/-! ## The line end of the text -/

/-- What a line is replaced with does not matter to the line end of the text. -/
theorem WholeLine.lineEnding_eq {text text' before body body' after : Text}
    (h : WholeLine text ⟨before, body, after⟩) (h' : WholeLine text' ⟨before, body', after⟩)
    (paired : endsPaired text = true) (paired' : endsPaired text' = true) :
    lineEnding text = lineEnding text' := by
  have hmem : ∀ {text body : Text}, WholeLine text ⟨before, body, after⟩ →
      ('\r' ∈ text ↔ '\r' ∈ before ∨ '\r' ∈ after) := by
    intro text body h
    have hbody : '\r' ∉ body := fun hr => absurd (h.plain _ hr) (by decide)
    rw [h.whole]
    simp [hbody]
  by_cases hr : '\r' ∈ text
  · rw [lineEnding_of_mem paired hr,
      lineEnding_of_mem paired' ((hmem h').mpr ((hmem h).mp hr))]
  · rw [lineEnding_of_not_mem hr,
      lineEnding_of_not_mem fun hr' => hr ((hmem h).mpr ((hmem h').mp hr'))]

/-! ## A binding that moves -/

/-- **Providing an import that is one binding among others** cuts that binding out and nothing else,
    if no other line has the symbol in its clause.

    The line keeps its indentation, the other bindings in their order and with their new names, and
    all that stands from the word `from` on; where no list is left, its braces are gone.  The new
    line stands on a line of its own behind it.  Where no binding is left, and only a comma stood
    beside the symbol, the line is gone together with its line end. -/
theorem provide_excises {c : Clause} {symbol newLine text before indent clause rest after : Text}
    (spells : SpellsClause c clause) (names : ∀ name ∈ c.names, IsPlainName name)
    (once : c.names.count symbol = 1) (binds : c.Binds symbol)
    (among : c.without symbol ≠ ⟨none, []⟩ ∨ ',' ∈ clause) (hindent : Blanks indent)
    (hrest : rest.head?.any isWordChar = false) (hbrace : '\x7b' ∉ rest)
    (whole : WholeLine text ⟨before, importText indent clause rest, after⟩)
    (paired : endsPaired text = true)
    (only : ∀ other ∈ lines before ++ lines after, clauseMentions symbol other = false)
    (missing : hasLine newLine text = false) :
    (c.without symbol = ⟨none, []⟩ ∧
      provide symbol newLine text = insertBehindImports newLine (before ++ dropLineEnd after)) ∨
    ∃ clause' between behind, SpellsClause (c.without symbol) clause' ∧
      ((c.without symbol).named = [] → '\x7b' ∉ clause') ∧
      after = between ++ behind ∧ AtLineEnd behind ∧
      provide symbol newLine text = before ++ (importText indent clause' rest ++ (between ++
        (lineEnding text ++ (newLine ++ behind)))) := by
  have hsymbol : IsPlainName symbol := names symbol (List.count_pos_iff.mp (by omega))
  have grouped : ',' ∈ clause := among.elim (spells.comma_of_others binds) id
  obtain ⟨b, hb, hleft⟩ := importText_cut hindent spells names once binds grouped hrest hbrace
  have hclause := clauseOf_importText hindent (spells.isClauseText names) hrest
  have hprovide : provide symbol newLine text = insertBehindImports newLine
      (exciseBinding ⟨before, importText indent clause rest, after⟩ b) := by
    simp only [provide, missing, Bool.false_eq_true, if_false,
      find_of_only hsymbol paired whole hclause grouped hb only]
  rw [hprovide, exciseBinding]
  rcases hleft with ⟨hnone, hgone⟩ | ⟨clause', hline, hspells, hbraces⟩
  · rw [hgone]
    exact .inl ⟨hnone, rfl⟩
  · rw [hline]
    -- the line that is left is a whole line of the text that is left
    have hplain : ∀ d ∈ importText indent clause' rest, isLineEnd d = false := fun d hd =>
      whole.plain d (bindingOnLine_subset hb (lineWithout_subset hline hd))
    have hwhole : WholeLine (Passage.replaceWith ⟨before, importText indent clause rest, after⟩
        (importText indent clause' rest)) ⟨before, importText indent clause' rest, after⟩ :=
      ⟨by simp [Passage.replaceWith], whole.starts, hplain, whole.ends⟩
    have hpaired := whole.endsPaired_replaceWith paired (endsPaired_of_noLineEnd hplain)
    have hnames : ∀ name ∈ (c.without symbol).names, IsName name := fun name hname =>
      (names name (c.names_without symbol hname)).isName
    obtain ⟨between, behind, hafter, hends, hinsert⟩ :=
      insertBehindImports_importText hindent hspells hnames hbrace hwhole hpaired newLine
    rw [whole.lineEnding_eq hwhole paired hpaired]
    exact .inr ⟨clause', between, behind, hspells, hbraces, hafter, hends, hinsert⟩

/-- A binding between a renamed one and another. -/
theorem provide_excises_sample :
    let text : Text := "import Vue, \x7b A as B, S, C \x7d from 'm';\r\nfoo(S)\r\n"
    let line : Text := "import \x7b S \x7d from 'n';"
    provide "S" line text =
        "import Vue, \x7b A as B, C \x7d from 'm';\r\nimport \x7b S \x7d from 'n';\r\nfoo(S)\r\n" ∧
      ∃ clause' between behind,
        SpellsClause ⟨some "Vue", [⟨"A", some "B"⟩, ⟨"C", none⟩]⟩ clause' ∧
          provide "S" line text =
            importText [] clause' " 'm';" ++ (between ++ (['\r', '\n'] ++ (line ++ behind))) := by
  intro text line
  let c : Clause := ⟨some "Vue", [⟨"A", some "B"⟩, ⟨"S", none⟩, ⟨"C", none⟩]⟩
  have hspace : Blanks [' '] := by decide
  have hnil : Blanks [] := by decide
  have hclause : " Vue, \x7b A as B, S, C \x7d ".toList = [' '] ++ ("Vue".toList ++ ([] ++ ',' ::
      ([' '] ++ braced (([' '] ++ (['A'] ++ ([' '] ++ (asWord ++ ([' '] ++ (['B'] ++ [])))))) ++
        ',' :: (([' '] ++ (['S'] ++ [])) ++ ',' :: ([' '] ++ (['C'] ++ [' '])))) [' ']))) := by
    decide +kernel
  have spells : SpellsClause c " Vue, \x7b A as B, S, C \x7d " := hclause ▸
    .both hspace (by decide) hnil hspace
      (.cons (.renamed hspace hspace (by decide) hspace (by decide) hnil)
        (.cons (.plain hspace hnil) (.last (.plain hspace hspace)))) hspace (by decide)
  have whole : WholeLine text ⟨[], importText []
      " Vue, \x7b A as B, S, C \x7d " " 'm';", "\r\nfoo(S)\r\n"⟩ :=
    ⟨by decide +kernel, .inl rfl, by decide +kernel, .inr ⟨"foo(S)\r\n", .inr (by decide +kernel)⟩⟩
  refine ⟨by decide +kernel, ?_⟩
  rcases provide_excises spells (by decide +kernel) (by decide +kernel)
    (show c.Binds "S" by decide +kernel) (.inl (by decide +kernel)) hnil (by decide +kernel)
    (by decide +kernel) whole (by decide +kernel) (by decide +kernel)
    (show hasLine line text = false by decide +kernel) with
    ⟨hnone, -⟩ | ⟨clause', between, behind, hspells, -, -, -, hprovide⟩
  · exact absurd hnone (by decide +kernel)
  · have hleft : c.without "S" = ⟨some "Vue", [⟨"A", some "B"⟩, ⟨"C", none⟩]⟩ := by decide +kernel
    have hending : lineEnding text = ['\r', '\n'] := by decide +kernel
    rw [hleft] at hspells
    rw [hending] at hprovide
    exact ⟨clause', between, behind, hspells, hprovide⟩

example : provide "S" "import S from 'n'" "import \x7b S, \x7d from 'm';\nfoo()" =
    "import S from 'n'\nfoo()".toList := by
  decide +kernel

end RouteLocalizer.Import
