/-
  THE SPANS of a binding among others are exact, and cutting at them is safe.

  Program: `findGrouped` answers a line of the text and, as a passage of that line, the binding to
  be cut out; `exciseBinding` cuts it out.  Both are reported as pairs of byte offsets.

  Specification, in two parts:

  1. By characters (`IsImportClause`, `IsBinding`): the line is a whole line; its clause runs from
     the keyword to the first word `from`; the binding is a part of the clause, the symbol by itself
     with at most one comma beside it and blanks.
  2. By bytes (`exciseAt`): the same cut, made by somebody who knows the four offsets only.  A text
     is cut at an offset if a character ends there, a difference of offsets is formed if it is not
     negative, and otherwise there is NO answer.  So an answer says that nothing of this went wrong.

  The crux of the second part is that the offsets count from two different starts, from the text and
  from the line.  The passages carry what stands in front of either (`Passage.inBody`), so the
  difference of the offsets is the size of a text, whatever its characters are.
-/
import RouteLocalizer.Proofs.IntactLine
import RouteLocalizer.Proofs.KeptLines

namespace RouteLocalizer

/-! ## Cutting at byte offsets -/

namespace Text

variable {text front part rest : Text} {offset : Nat}

/-- Cuts a text at a byte offset, if one of its characters ends there. -/
def cutAt : Text → Nat → Option (Text × Text)
  | text, 0 => some ([], text)
  | [], _ + 1 => none
  | c :: cs, offset + 1 =>
    if c.utf8Size ≤ offset + 1 then
      (cutAt cs (offset + 1 - c.utf8Size)).map fun (front, rest) => (c :: front, rest)
    else none

theorem cutAt_zero (text : Text) : cutAt text 0 = some ([], text) := by
  cases text <;> rfl

/-- **A text can be cut** where one of its characters ends. -/
theorem cutAt_append (front rest : Text) :
    cutAt (front ++ rest) front.byteSize = some (front, rest) := by
  induction front with
  | nil => exact cutAt_zero rest
  | cons c front ih =>
    have hpos := c.utf8Size_pos
    obtain ⟨offset, hoffset⟩ : ∃ offset, c.utf8Size + byteSize front = offset + 1 :=
      Nat.exists_eq_add_one.mpr (by omega)
    rw [byteSize_cons, hoffset, List.cons_append, cutAt, if_pos (by omega), ← hoffset,
      Nat.add_sub_cancel_left, ih]
    rfl

/-- It can be cut nowhere else. -/
theorem eq_of_cutAt (h : cutAt text offset = some (front, rest)) :
    text = front ++ rest ∧ front.byteSize = offset := by
  -- on the text; each character takes its size from the offset
  induction text generalizing offset front with
  | nil =>
    cases offset with
    | zero =>
      cases h
      exact ⟨rfl, rfl⟩
    | succ offset => cases h
  | cons c cs ih =>
    cases offset with
    | zero =>
      cases h
      exact ⟨rfl, rfl⟩
    | succ offset =>
      rw [cutAt] at h
      split at h
      · rename_i hle
        obtain ⟨⟨front', rest'⟩, hcut, heq⟩ := Option.map_eq_some_iff.mp h
        cases heq
        obtain ⟨rfl, hsize⟩ := ih hcut
        refine ⟨rfl, ?_⟩
        rw [byteSize_cons]
        omega
      · cases h

/-- The difference of two offsets, if it is not negative. -/
def difference (m n : Nat) : Option Nat := if n ≤ m then some (m - n) else none

/-- The part of a text between two byte offsets. -/
def slice (text : Text) (span : Nat × Nat) : Option Text := do
  let (_, behind) ← cutAt text span.1
  let (part, _) ← cutAt behind (← difference span.2 span.1)
  return part

/-- The text with something else between two byte offsets. -/
def spliceAt (text : Text) (span : Nat × Nat) (new : Text) : Option Text := do
  let front ← slice text (0, span.1)
  let behind ← slice text (span.2, text.byteSize)
  return front ++ new ++ behind

theorem difference_add (m n : Nat) : difference (m + n) m = some n := by
  rw [difference, if_pos (Nat.le_add_right m n), Nat.add_sub_cancel_left]

/-- What is dropped in front of a text has the difference of the sizes. -/
theorem difference_append (front rest : Text) :
    difference (front ++ rest).byteSize rest.byteSize = some front.byteSize := by
  rw [byteSize_append, Nat.add_comm, difference_add]

/-- The offsets of a passage are those of its body. -/
theorem slice_body (p : Passage) : slice p.whole p.span = some p.body := by
  have hwhole : p.whole = p.before ++ (p.body ++ p.after) := by
    rw [Passage.whole, List.append_assoc]
  simp only [slice, Passage.span, hwhole, cutAt_append, difference_add, Option.bind_eq_bind,
    Option.bind_some]
  rfl

theorem slice_before (p : Passage) : slice p.whole (0, p.span.1) = some p.before := by
  have := slice_body ⟨[], p.before, p.body ++ p.after⟩
  simp only [Passage.whole, Passage.span, byteSize_nil, Nat.zero_add, List.nil_append] at this
  rwa [← List.append_assoc] at this

theorem slice_after (p : Passage) :
    slice p.whole (p.span.2, p.whole.byteSize) = some p.after := by
  have := slice_body ⟨p.before ++ p.body, p.after, []⟩
  simp only [Passage.whole, Passage.span, List.append_nil] at this
  rwa [← byteSize_append, byteSize_append p.before] at this

theorem spliceAt_span (p : Passage) (new : Text) :
    spliceAt p.whole p.span new = some (p.replaceWith new) := by
  simp only [spliceAt, slice_before, slice_after, Option.bind_eq_bind, Option.bind_some]
  rfl

/-- **A part is answered** exactly where both offsets are ends of characters, in this order. -/
theorem slice_eq_some_iff {span : Nat × Nat} :
    slice text span = some part ↔
      ∃ p : Passage, p.whole = text ∧ p.span = span ∧ p.body = part := by
  constructor
  · intro h
    obtain ⟨⟨front, behind⟩, hfront, h⟩ := Option.bind_eq_some_iff.mp h
    obtain ⟨size, hsize, h⟩ := Option.bind_eq_some_iff.mp h
    obtain ⟨⟨part', rest⟩, hpart, h⟩ := Option.bind_eq_some_iff.mp h
    cases h
    obtain ⟨rfl, hstart⟩ := eq_of_cutAt hfront
    obtain ⟨rfl, hstop⟩ := eq_of_cutAt hpart
    refine ⟨⟨front, part, rest⟩, by simp [Passage.whole], ?_, rfl⟩
    unfold difference at hsize
    split at hsize
    · cases hsize
      refine Prod.ext hstart ?_
      show front.byteSize + part.byteSize = span.2
      omega
    · cases hsize
  · rintro ⟨p, rfl, rfl, rfl⟩
    exact slice_body p

end Text

namespace Import

open Text

/-! ## The cut by offsets -/

/-- How many bytes the line end takes that a text starts with. -/
def lineEndSize : Text → Nat
  | '\r' :: '\n' :: _ => 2
  | '\n' :: _ => 1
  | _ => 0

/-- Cuts a binding out of its line, given by the offsets of both in the text. -/
def exciseAt (text : Text) (line binding : Nat × Nat) : Option Text := do
  let lineText ← slice text line
  let start ← difference binding.1 line.1
  let stop ← difference binding.2 line.1
  let front ← slice lineText (0, start)
  let back ← slice lineText (stop, lineText.byteSize)
  match lineWithout ⟨front, [], back⟩ with
  | some rewritten => spliceAt text line rewritten
  | none =>
    let behind ← slice text (line.2, text.byteSize)
    spliceAt text (line.1, line.2 + lineEndSize behind) []

theorem exists_lineEnd (text : Text) :
    ∃ ending : Text, text = ending ++ dropLineEnd text ∧ ending.byteSize = lineEndSize text := by
  unfold dropLineEnd
  split
  · exact ⟨['\r', '\n'], rfl, show byteSize ['\r', '\n'] = 2 by decide⟩
  · exact ⟨['\n'], rfl, show byteSize ['\n'] = 1 by decide⟩
  · rename_i noPair noFeed
    refine ⟨[], rfl, ?_⟩
    unfold lineEndSize
    split
    · exact absurd rfl (noPair _)
    · exact absurd rfl (noFeed _)
    · rfl

/-- **The cut by offsets is the cut of the passages.** -/
theorem exciseAt_span (line binding : Passage) (inside : binding.whole = line.body) :
    exciseAt line.whole line.span (line.inBody binding).span =
      some (exciseBinding line binding) := by
  have hstart : difference (line.inBody binding).span.1 line.span.1 = some binding.span.1 := by
    simp only [Passage.span, Passage.inBody, byteSize_append, difference_add]
  have hstop : difference (line.inBody binding).span.2 line.span.1 = some binding.span.2 := by
    simp only [Passage.span, Passage.inBody, byteSize_append, Nat.add_assoc, difference_add]
  have hfront := slice_before binding
  have hback := slice_after binding
  rw [inside] at hfront hback
  have hsame : lineWithout ⟨binding.before, [], binding.after⟩ = lineWithout binding := rfl
  simp only [exciseAt, slice_body line, hstart, hstop, hfront, hback, hsame, Option.bind_eq_bind,
    Option.bind_some, exciseBinding]
  cases lineWithout binding with
  | some rest => exact spliceAt_span line rest
  | none =>
    -- the line goes together with its line end
    obtain ⟨ending, hending, hsize⟩ := exists_lineEnd line.after
    have hcut := spliceAt_span ⟨line.before, line.body ++ ending, dropLineEnd line.after⟩ []
    have hwhole : line.before ++ (line.body ++ ending) ++ dropLineEnd line.after = line.whole := by
      rw [Passage.whole, List.append_assoc, List.append_assoc, List.append_assoc, ← hending]
    simp only [slice_after line, Option.bind_some]
    simpa [Passage.whole, Passage.span, Passage.replaceWith, hwhole, hsize, Nat.add_assoc]
      using hcut

/-! ## The binding by offsets -/

/-- Where the binding around a site of the symbol starts and ends in a clause, counted from the
    offsets of the site and the sizes of what is left when blanks are dropped. -/
def locateAt (clause : Text) (site : Nat × Nat) : Option (Nat × Nat) := do
  let before := trimEnd (← slice clause (0, site.1))
  let behind ← slice clause (site.2, clause.byteSize)
  let after := trimStart behind
  if endsWith [' ', 'a', 's'] before || List.isPrefixOf ['a', 's', ' '] after then none
  else if List.isPrefixOf [','] after then
    let comma := site.2 + (← difference behind.byteSize after.byteSize)
    let rest ← slice clause (comma + 1, clause.byteSize)
    let trailing ← difference rest.byteSize (byteSize (rest.dropWhile isIndent))
    return (site.1, comma + 1 + trailing)
  else if endsWith [','] before then return (← difference before.byteSize 1, site.2)
  else if endsWith ['\x7b'] before && after.head? == some '\x7d' then return site
  else none

/-- Behind a site the comma is reached over the blanks in front of it. -/
theorem locateAt_behind {site : Passage} {rest : Text}
    (named : ¬ (endsWith [' ', 'a', 's'] (trimEnd site.before) ||
      List.isPrefixOf ['a', 's', ' '] (trimStart site.after)) = true)
    (hafter : trimStart site.after = ',' :: rest) :
    locateAt site.whole site.span =
      some (Passage.span ⟨site.before, site.body ++ upTo site.after (trimStart site.after) ++
        [','] ++ rest.takeWhile isIndent, rest.dropWhile isIndent⟩) := by
  have hcomma : byteSize [','] = 1 := by decide
  have hstarts : List.isPrefixOf [','] (',' :: rest) = true := rfl
  obtain ⟨gap, hsplit⟩ : ∃ gap, site.after = gap ++ ',' :: rest :=
    ⟨site.after.takeWhile isBlank, by rw [← hafter]; exact List.takeWhile_append_dropWhile.symm⟩
  have hgap : upTo site.after (',' :: rest) = gap := by rw [hsplit, upTo_append]
  have hdiff : difference site.after.byteSize (byteSize (',' :: rest)) = some gap.byteSize := by
    rw [hsplit]
    exact difference_append _ _
  have hrest : slice site.whole (site.span.2 + gap.byteSize + 1, site.whole.byteSize) =
      some rest := by
    have := slice_after ⟨site.before, site.body ++ gap ++ [','], rest⟩
    simpa [Passage.whole, Passage.span, hsplit, hcomma, Nat.add_assoc] using this
  have htrail : difference (byteSize rest) (byteSize (rest.dropWhile isIndent)) =
      some (byteSize (rest.takeWhile isIndent)) := by
    have := difference_append (rest.takeWhile isIndent) (rest.dropWhile isIndent)
    rwa [List.takeWhile_append_dropWhile] at this
  simp only [locateAt, slice_before, slice_after, Option.bind_eq_bind, Option.bind_some]
  rw [if_neg named, hafter, if_pos hstarts]
  simp only [hdiff, hrest, htrail, hgap, Option.bind_some]
  simp only [Passage.span, byteSize_append, hcomma, Nat.add_assoc]
  rfl

/-- In front of a site the comma is the last character but for blanks. -/
theorem span_front {site : Passage} (hends : endsWith [','] (trimEnd site.before) = true) :
    ((difference (trimEnd site.before).byteSize 1).bind fun start => some (start, site.span.2)) =
      some (Passage.span ⟨(trimEnd site.before).dropLast,
        [','] ++ site.before.drop (trimEnd site.before).length ++ site.body, site.after⟩) := by
  have hcomma : byteSize [','] = 1 := by decide
  obtain ⟨front, gap, hfront, htrim, -⟩ := split_at_comma hends
  have hdrop : site.before.drop (trimEnd site.before).length = gap := by
    rw [htrim, hfront, List.append_cons front ',' gap, List.drop_left]
  have hdiff : difference (trimEnd site.before).byteSize 1 = some front.byteSize := by
    rw [htrim, ← hcomma]
    exact difference_append _ _
  have hsize : site.before.byteSize = front.byteSize + (1 + byteSize gap) := by
    rw [hfront, byteSize_append, byteSize_cons]
    rfl
  rw [hdiff, hdrop, htrim, List.dropLast_concat]
  simp only [Passage.span, byteSize_append, hcomma, hsize, Nat.add_assoc]
  rfl

/-- **The offsets that are counted** are those of the passage. -/
theorem locateAt_span {site p : Passage} (h : siteKind site = .binding p) :
    locateAt site.whole site.span = some p.span := by
  unfold siteKind at h
  simp only at h
  split at h
  · cases h
  rename_i named
  split at h
  · rename_i rest hafter
    cases h
    exact locateAt_behind named hafter
  · rename_i hnoComma
    have hstarts : ¬ List.isPrefixOf [','] (trimStart site.after) = true := by
      rw [List.isPrefixOf_iff_prefix]
      rintro ⟨rest, hrest⟩
      exact hnoComma rest hrest.symm
    simp only [locateAt, slice_before, slice_after, Option.bind_eq_bind, Option.bind_some]
    rw [if_neg named, if_neg hstarts]
    split at h
    · rename_i hends
      cases h
      rw [if_pos hends]
      exact span_front hends
    · rename_i hends
      rw [if_neg hends]
      split at h
      · rename_i hbraces
        cases h
        rw [if_pos hbraces]
        rfl
      · cases h

/-! ## The clause and the binding by their characters -/

/-- A text that starts with the word `from`, behind a character. -/
def StartsFrom (last : Option Char) (text : Text) : Prop :=
  last.any isWordChar = false ∧
    ∃ rest, text = fromWord ++ rest ∧ rest.head?.any isWordChar = false

/-- The clause of a line: what stands between the keyword and the first word `from`. -/
structure IsImportClause (line : Text) (clause : Passage) : Prop where
  whole : clause.whole = line
  keyword : ∃ indent, clause.before = indent ++ keyword ∧ ∀ c ∈ indent, isIndent c = true
  ends : StartsFrom (Shape.behind (some 't') clause.body) clause.after
  first : ∀ u c v, clause.body = u ++ c :: v →
    ¬ StartsFrom (Shape.behind (some 't') u) (c :: v ++ clause.after)

/-- A passage of a clause that is a symbol by itself, with no more than one comma and blanks. -/
structure IsBinding (symbol : Text) (p : Passage) : Prop where
  parts : ∃ left right, p.body = left ++ (symbol ++ right) ∧
    (p.before ++ left).getLast?.any isIdentifierChar = false ∧
    (right ++ p.after).head?.any isIdentifierChar = false ∧
    (∀ c ∈ left ++ right, isBlank c = true ∨ c = ',') ∧ (left ++ right).count ',' ≤ 1

variable {symbol line text : Text}

theorem isImportClause_of_clauseOf {clause : Passage} (h : clauseOf line = some clause) :
    IsImportClause line clause := by
  obtain ⟨indent, hbefore, hindent, hline, -, hsplit⟩ := clauseOf_eq_some h
  obtain ⟨-, hends, hearlier⟩ := splitClause_eq_some hsplit
  constructor
  · rw [hline, Passage.whole, List.append_assoc]
  · exact ⟨indent, hbefore, hindent⟩
  · exact fromShape_isSome.mp hends
  · intro u c v huv hfrom
    have hsome := fromShape_isSome.mpr hfrom
    rw [hearlier u c v huv] at hsome
    cases hsome

/-- Blanks hold no comma. -/
theorem count_comma_of_blank {gap : Text} (h : ∀ c ∈ gap, isBlank c = true) :
    gap.count ',' = 0 :=
  List.count_eq_zero.mpr fun hmem => absurd (h _ hmem) (by decide)

theorem isBinding_of_siteKind {site p : Passage} (h : siteKind site = .binding p)
    (bounded : isBounded site.before.getLast? site.after.head? = true) :
    IsBinding site.body p := by
  obtain ⟨hleft, hright⟩ : site.before.getLast?.any isIdentifierChar = false ∧
      site.after.head?.any isIdentifierChar = false := by
    simpa [isBounded] using bounded
  rcases siteKind_cases h with ⟨gap, trail, rest, hafter, hgap, htrail, rfl⟩ |
    ⟨front, gap, hbefore, hgap, rfl⟩ | rfl
  · -- the comma behind the symbol
    have htrail' : ∀ c ∈ trail, isBlank c = true := fun c hc => isBlank_of_isIndent (htrail c hc)
    refine ⟨[], gap ++ ',' :: trail, rfl, by simpa using hleft, ?_, ?_, ?_⟩
    · rw [hafter] at hright
      simpa using hright
    · intro c hc
      rw [List.nil_append, List.mem_append, List.mem_cons] at hc
      rcases hc with hc | rfl | hc
      · exact .inl (hgap c hc)
      · exact .inr rfl
      · exact .inl (htrail' c hc)
    · simp only [List.nil_append, List.count_append, List.count_cons_self,
        count_comma_of_blank hgap, count_comma_of_blank htrail']
      omega
  · -- the comma in front of it
    refine ⟨',' :: gap, [], by simp, ?_, by simpa using hright, ?_, ?_⟩
    · rw [hbefore] at hleft
      exact hleft
    · intro c hc
      rw [List.append_nil, List.mem_cons] at hc
      rcases hc with rfl | hc
      · exact .inr rfl
      · exact .inl (hgap c hc)
    · simp only [List.append_nil, List.count_cons_self, count_comma_of_blank hgap]
      omega
  · exact ⟨[], [], by simp, by simpa using hleft, by simpa using hright, by simp, by simp⟩

/-- The binding of a clause is found around a site of the symbol, and counted from there. -/
theorem isBinding_of_bindingInClause {clause : Text} {p : Passage}
    (h : bindingInClause symbol clause = some p) : p.whole = clause ∧ IsBinding symbol p ∧
      ∃ site ∈ identifierSites symbol clause, locateAt clause site.span = some p.span := by
  refine ⟨(bindingInClause_eq_some h).1, ?_⟩
  unfold bindingInClause at h
  split at h
  · cases h
  · obtain ⟨site, hsite, hkind⟩ := firstBinding_eq_some h
    obtain ⟨hwhole, hname, hbounded⟩ := identifierSites_eq hsite
    have hclause : site.whole = clause := by rw [Passage.whole, List.append_assoc, hwhole]
    constructor
    · rw [← hname]
      exact isBinding_of_siteKind hkind hbounded
    · refine ⟨site, hsite, ?_⟩
      rw [← hclause]
      exact locateAt_span hkind

/-! ## Grouped spans -/

/-- **Grouped spans are exact and safe to cut.**  The line is a whole line of the text.  The binding
    is a part of its clause, the symbol by itself with at most one comma and blanks, and its offsets
    are those counted in the clause, moved by where the clause starts.  All offsets are in order,
    inside of the text and ends of characters.  The cut by offsets meets no obstacle, and it is the
    cut of the passages. -/
theorem findGrouped_spans {line binding : Passage} (nonempty : symbol ≠ [])
    (found : findGrouped symbol text = some (.grouped line binding)) :
    (line.whole = text ∧ IsLine line.before line.body line.after) ∧
      (∃ clause p, IsImportClause line.body clause ∧ p.whole = clause.body ∧
        IsBinding symbol p ∧ binding = clause.inBody p ∧
        (∃ site ∈ identifierSites symbol clause.body,
          locateAt clause.body site.span = some p.span) ∧
        (line.inBody binding).span = (line.span.1 + clause.span.1 + p.span.1,
          line.span.1 + clause.span.1 + p.span.2) ∧
        (line.inBody binding).span.2 ≤ line.span.1 + clause.span.2) ∧
      (line.span.1 ≤ (line.inBody binding).span.1 ∧
        (line.inBody binding).span.1 < (line.inBody binding).span.2 ∧
        (line.inBody binding).span.2 ≤ line.span.2 ∧ line.span.2 ≤ text.byteSize) ∧
      slice text line.span = some line.body ∧
      slice text (line.inBody binding).span = some binding.body ∧
      exciseAt text line.span (line.inBody binding).span = some (exciseBinding line binding) := by
  obtain ⟨htext, hline, -⟩ := findGrouped_line found
  obtain ⟨clause, p, hclause, hp, rfl⟩ := bindingOnLine_eq_some (findGrouped_eq_some found)
  obtain ⟨hwhole, hbinding, hlocated⟩ := isBinding_of_bindingInClause hp
  have hclause := isImportClause_of_clauseOf hclause
  have hlineWhole : line.whole = text := by rw [htext, Passage.whole, List.append_assoc]
  have hinside : (clause.inBody p).whole = line.body := by
    rw [Passage.whole_inBody clause p hwhole, hclause.whole]
  have hinside' : (line.inBody (clause.inBody p)).whole = text := by
    rw [Passage.whole_inBody line _ hinside, hlineWhole]
  have hsize : 0 < p.body.byteSize := by
    obtain ⟨left, right, hparts, -⟩ := hbinding.parts
    refine byteSize_pos fun hnil => nonempty ?_
    rw [hnil] at hparts
    exact (List.append_eq_nil_iff.mp (List.append_eq_nil_iff.mp hparts.symm).2).1
  -- the sizes of the parts, for the order of the offsets
  have hlineSize := congrArg byteSize hinside
  have htextSize := congrArg byteSize hlineWhole
  have hclauseSize := congrArg byteSize hwhole
  simp only [Passage.whole, Passage.inBody, byteSize_append] at hlineSize htextSize hclauseSize
  refine ⟨⟨hlineWhole, hline⟩, ⟨clause, p, hclause, hwhole, hbinding, rfl, hlocated, ?_, ?_⟩, ?_,
    slice_eq_some_iff.mpr ⟨line, hlineWhole, rfl, rfl⟩,
    slice_eq_some_iff.mpr ⟨_, hinside', rfl, rfl⟩, ?_⟩
  · simp only [Passage.span, Passage.inBody, byteSize_append, Nat.add_assoc]
  · simp only [Passage.span, Passage.inBody, byteSize_append]
    omega
  · simp only [Passage.span, Passage.inBody, byteSize_append]
    omega
  · rw [← hlineWhole]
    exact exciseAt_span line _ hinside

/-- White space of three bytes between the symbol and its comma, and longer characters around. -/
theorem findGrouped_spans_sample :
    let text : Text := "// é\nimport Ä ,\u00a0S\u3000, \x7b B \x7d from 'm' // 😀\r\nS()"
    let line : Passage :=
      ⟨"// é\n", "import Ä ,\u00a0S\u3000, \x7b B \x7d from 'm' // 😀", "\r\nS()"⟩
    let binding : Passage := ⟨"import Ä ,\u00a0", "S\u3000, ", "\x7b B \x7d from 'm' // 😀"⟩
    (("S" : Text) ≠ [] ∧ findGrouped "S" text = some (.grouped line binding)) ∧
      (line.inBody binding).span = (19, 25) ∧
      exciseAt text line.span (19, 25) = some (exciseBinding line binding) := by
  intro text line binding
  have found : findGrouped "S" text = some (.grouped line binding) := by decide +kernel
  have hspan : (line.inBody binding).span = (19, 25) := by decide +kernel
  refine ⟨⟨by decide, found⟩, hspan, ?_⟩
  rw [← hspan]
  exact (findGrouped_spans (by decide) found).2.2.2.2.2

end Import

end RouteLocalizer
