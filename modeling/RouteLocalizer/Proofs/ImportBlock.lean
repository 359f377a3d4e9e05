/-
  Where a new line goes in a text that starts with a BLOCK OF IMPORTS: right behind the last one.

  The text is looked at as its lines here, each with the line feed that ends it.

  1. The search sees a line start where one of the lines does, and nowhere else (`AreLines.cut`).
     So it finds the last line that reads like the start of an import, and it does not matter what
     stands in front of that line (`lastOf_importLine`).
  2. A line that leaves a brace list open goes on to the first closing brace, and from there to the
     end of that line (`throughBraceList_lines`).

  The search does not know when it is inside a brace list.  A line of the list that reads like the
  start of an import is an import to it, and if that is the line with the closing brace, the answer
  is this line alone.  The new line goes to the same place then.
-/
import RouteLocalizer.Proofs.LineEnds
import RouteLocalizer.Proofs.MovedBinding

namespace RouteLocalizer.Import

open Text

/-! ## A text as its lines -/

/-- A line with what ends it. -/
structure Line where
  text : Text
  ending : Text
deriving DecidableEq, Repr

/-- The lines, one behind the other. -/
def spellLines (ls : List Line) : Text := ls.flatMap fun l => l.text ++ l.ending

/-- Lines that are ended one by one, each by a line feed or a pair, but maybe the last one. -/
inductive AreLines : List Line → Prop where
  | nil : AreLines []
  | last {text : Text} (plain : OneLine text) : AreLines [⟨text, []⟩]
  | cons {l : Line} {ls : List Line} (plain : OneLine l.text) (ended : IsEnding l.ending)
      (later : AreLines ls) : AreLines (l :: ls)

variable {l : Line} {ls a b front init behind : List Line} {last : Option Char} {rest : Text}

@[simp] theorem spellLines_nil : spellLines [] = [] := rfl

@[simp] theorem spellLines_cons (l : Line) (ls : List Line) :
    spellLines (l :: ls) = l.text ++ (l.ending ++ spellLines ls) := by
  simp [spellLines]

@[simp] theorem spellLines_append (a b : List Line) :
    spellLines (a ++ b) = spellLines a ++ spellLines b :=
  List.flatMap_append

/-- What stands in front of the line feed of an ending is no line feed. -/
theorem exists_of_isEnding {ending : Text} (h : IsEnding ending) :
    ∃ e : Text, ending = e ++ ['\n'] ∧ '\n' ∉ e := by
  rcases h with rfl | rfl
  · exact ⟨[], rfl, by simp⟩
  · exact ⟨['\r'], rfl, by decide⟩

/-- A line has no line feed in it. -/
theorem newline_not_mem_of_oneLine {text : Text} (h : OneLine text) : '\n' ∉ text :=
  fun hmem => absurd (h _ hmem) (by decide)

namespace AreLines

/-- The lines of a text are lines. -/
theorem plain (h : AreLines ls) (hl : l ∈ ls) : OneLine l.text := by
  induction h with
  | nil => cases hl
  | last plain =>
    obtain rfl := List.mem_singleton.mp hl
    exact plain
  | cons plain _ _ ih =>
    rcases List.mem_cons.mp hl with rfl | hl
    · exact plain
    · exact ih hl

/-- The lines further on. -/
theorem right (h : AreLines (a ++ b)) : AreLines b := by
  induction a with
  | nil => exact h
  | cons l a ih =>
    rw [List.cons_append] at h
    generalize a ++ b = ls at h ih
    cases h with
    | last => exact ih .nil
    | cons _ _ later => exact ih later

/-- Lines in front of others are all ended. -/
theorem ended (h : AreLines (a ++ b)) (hb : b ≠ []) (hl : l ∈ a) : IsEnding l.ending := by
  induction a with
  | nil => cases hl
  | cons m a ih =>
    rw [List.cons_append] at h
    have hne : a ++ b ≠ [] := List.append_ne_nil_of_right_ne_nil a hb
    generalize a ++ b = ls at h hne ih
    cases h with
    | last => exact absurd rfl hne
    | cons _ ended later =>
      rcases List.mem_cons.mp hl with rfl | hl
      · exact ended
      · exact ih later hl

/-- Behind a line its end stands, or nothing. -/
theorem ends (h : AreLines (l :: ls)) :
    ∀ c ∈ (l.ending ++ spellLines ls).head?, isLineEnd c = true := by
  cases h with
  | last => simp
  | cons _ ended _ => rcases ended with hending | hending <;> simp [hending] <;> decide

/-- Behind some of the lines a line starts, if there is another one. -/
theorem atLineStart (h : AreLines (a ++ b)) (hb : b ≠ []) : AtLineStart (spellLines a) := by
  rcases List.eq_nil_or_concat' a with rfl | ⟨a, l, rfl⟩
  · exact .inl rfl
  · obtain ⟨e, hending, -⟩ := exists_of_isEnding (h.ended hb (l := l) (by simp))
    exact .inr ⟨spellLines a ++ (l.text ++ e), by simp [hending]⟩

/-- The text of lines is paired. -/
theorem paired (h : AreLines ls) : endsPaired (spellLines ls) = true := by
  induction h with
  | nil => rfl
  | last plain => simpa using endsPaired_of_noLineEnd plain
  | @cons l ls plain ended _ ih =>
    have hending : endsPaired l.ending = true := by
      rcases ended with hending | hending <;> rw [hending] <;> rfl
    rw [spellLines_cons]
    exact endsPaired_append (endsPaired_of_noLineEnd plain) (endsPaired_append hending ih)

/-- **Where a line of the text starts, one of the lines does.** -/
theorem cut (h : AreLines ls) {u v : Text} (htext : spellLines ls = u ++ v) (hu : AtLineStart u) :
    ∃ a b, ls = a ++ b ∧ u = spellLines a ∧ v = spellLines b := by
  induction h generalizing u with
  | nil =>
    obtain ⟨rfl, rfl⟩ := List.append_eq_nil_iff.mp htext.symm
    exact ⟨[], [], rfl, rfl, rfl⟩
  | @last text plain =>
    rcases hu with rfl | ⟨front, rfl⟩
    · exact ⟨[], _, rfl, rfl, htext.symm⟩
    · refine absurd ?_ (newline_not_mem_of_oneLine plain)
      have htext : text = front ++ '\n' :: v := by simpa using htext
      simp [htext]
  | @cons l ls plain ended _ ih =>
    rcases hu with rfl | ⟨front, rfl⟩
    · exact ⟨[], _, rfl, rfl, htext.symm⟩
    · obtain ⟨e, hending, he⟩ := exists_of_isEnding ended
      have hline : '\n' ∉ l.text ++ e := by
        simp [newline_not_mem_of_oneLine plain, he]
      have htext : (l.text ++ e) ++ '\n' :: spellLines ls = front ++ '\n' :: v := by
        simpa [hending] using htext
      obtain ⟨more, rfl, hmore⟩ := exists_of_cut hline htext.symm
      cases more with
      | nil =>
        obtain rfl : spellLines ls = v := by simpa using hmore
        exact ⟨[l], ls, rfl, by simp [hending], rfl⟩
      | cons c more =>
        obtain ⟨rfl, hrest⟩ := List.cons.inj hmore
        have hlater : spellLines ls = (more ++ ['\n']) ++ v := by simpa using hrest
        obtain ⟨a, b, rfl, ha, rfl⟩ := ih hlater (.inr ⟨more, rfl⟩)
        exact ⟨l :: a, b, rfl, by simp [hending, ← ha], rfl⟩

end AreLines

/-! ## The line that the search finds -/

/-- Whether a line reads like the start of an import declaration. -/
def Line.startsImport (l : Line) : Bool := (importLine none l.text).isSome

theorem dropWhile_line {line : Text} (plain : OneLine line)
    (hrest : ∀ c ∈ rest.head?, isLineEnd c = true) :
    (line ++ rest).dropWhile (!isLineEnd ·) = rest :=
  dropWhile_of_end (fun c hc => by simp [plain c hc]) (any_not_head? hrest)

theorem takeWhile_line {line : Text} (plain : OneLine line)
    (hrest : ∀ c ∈ rest.head?, isLineEnd c = true) :
    (line ++ rest).takeWhile (!isLineEnd ·) = line :=
  takeWhile_of_end (fun c hc => by simp [plain c hc]) (any_not_head? hrest)

/-- The search reads a line as if it stood alone. -/
theorem importLine_line {line : Text} (plain : OneLine line)
    (hrest : ∀ c ∈ rest.head?, isLineEnd c = true)
    (hstart : isLineStart last (line ++ rest) = true) :
    importLine last (line ++ rest) = if (importLine none line).isSome then some rest else none := by
  split
  · rename_i halone
    obtain ⟨_, halone⟩ := Option.isSome_iff_exists.mp halone
    obtain ⟨-, indent, c, more, rfl, hindent, hc, -⟩ := importLine_eq_some_iff.mp halone
    have hmore : OneLine more := fun d hd => plain d (by simp [hd])
    exact importLine_eq_some_iff.mpr
      ⟨hstart, indent, c, more ++ rest, by simp, hindent, hc, dropWhile_line hmore hrest⟩
  · rename_i halone
    refine Option.eq_none_iff_forall_ne_some.mpr fun left hleft => halone ?_
    obtain ⟨-, indent, c, more, htext, hindent, hc, -⟩ := importLine_eq_some_iff.mp hleft
    have htext : line ++ rest = (indent ++ (keyword ++ [c])) ++ more := by simpa using htext
    have hfront := oneLine_importStart hindent hc
    -- the line cannot end before the start of the import does
    obtain ⟨more', rfl, -⟩ :=
      exists_of_end (fun d hd => by simp [hfront d hd]) (any_not_head? hrest) htext
    rw [Option.isSome_iff_exists]
    exact ⟨_, importLine_eq_some_iff.mpr ⟨rfl, indent, c, more', by simp, hindent, hc, rfl⟩⟩

/-- **The search fits a line that reads like the start of an import**, and takes it whole. -/
theorem AreLines.importLine_eq (h : AreLines (l :: ls))
    (hstart : isLineStart last (spellLines (l :: ls)) = true) :
    importLine last (spellLines (l :: ls)) =
      if l.startsImport then some (l.ending ++ spellLines ls) else none := by
  rw [spellLines_cons] at hstart ⊢
  exact importLine_line (h.plain List.mem_cons_self) h.ends hstart

/-- **The search finds the last line that starts an import**, whatever stands in front of it. -/
theorem AreLines.lastOf_importLine (h : AreLines (front ++ l :: behind))
    (hl : l.startsImport = true) (hbehind : ∀ m ∈ behind, m.startsImport = false) :
    Shape.lastOf importLine (spellLines (front ++ l :: behind)) =
      some ⟨spellLines front, l.text, l.ending ++ spellLines behind⟩ := by
  have hlines : AreLines (l :: behind) := h.right
  have hfits : importLine (Shape.behind none (spellLines front)) (spellLines (l :: behind)) =
      some (l.ending ++ spellLines behind) := by
    rw [hlines.importLine_eq, if_pos hl]
    have := isLineStart_of_atLineStart (h.atLineStart (by simp)) (spellLines (l :: behind))
    simpa [Shape.behind] using this
  -- there is a find from this line on
  obtain ⟨p, hp⟩ := Option.isSome_iff_exists.mp (Shape.lastFrom_isSome hfits)
  obtain ⟨htext, hpfits⟩ := Shape.lastFrom_eq_some importLine_reads hp
  obtain ⟨hstart, indent, c, more, hbody, -⟩ := importLine_eq_some_iff.mp hpfits
  -- and it starts where one of the lines does
  have hu : AtLineStart p.before := by
    rcases List.eq_nil_or_concat' p.before with hnil | ⟨u, c, hu⟩
    · exact .inl hnil
    · refine atLineStart_of_isLineStart (htext ▸ hlines.paired) ?_
      simpa [hu, Shape.behind] using hstart
  obtain ⟨passed, found, hcut, hbefore, hfound⟩ := hlines.cut htext hu
  cases found with
  | nil => simp [hfound, keyword] at hbody
  | cons m later =>
    have hlater : AreLines (m :: later) := (hcut ▸ hlines).right
    rw [hfound] at hpfits hstart
    rw [hlater.importLine_eq hstart] at hpfits
    split at hpfits
    · rename_i hm
      have hafter := Option.some.inj hpfits
      cases passed with
      | nil =>
        obtain ⟨rfl, rfl⟩ : l = m ∧ behind = later := by simpa using hcut
        have hline : p.body = l.text := by
          rw [← hafter, spellLines_cons] at hfound
          exact List.append_cancel_right hfound
        have hfind : p = ⟨[], l.text, l.ending ++ spellLines behind⟩ := by
          rw [← hline, hafter]
          cases p
          simpa using hbefore
        rw [Shape.lastOf, spellLines_append, Shape.lastFrom_append hp, hfind]
        simp [Passage.behind]
      | cons d passed =>
        have hmem : m ∈ behind := by
          obtain ⟨-, rfl⟩ := List.cons.inj hcut
          simp
        rw [hbehind m hmem] at hm
        cases hm
    · cases hpfits

/-! ## The lines that it goes on over -/

/-- An import statement, as the lines in front of its last one and the last one.  It stands on one
    line, or its first line opens a brace list and the last one is the first with a closing brace;
    and no line between the two reads like the start of an import. -/
inductive IsStatement : List Line → Line → Prop where
  | single {last : Line} (starts : last.startsImport = true)
      (closed : '\x7b' ∈ last.text → '\x7d' ∈ last.text) : IsStatement [] last
  | block {first last : Line} {inner : List Line} (starts : first.startsImport = true)
      (opens : '\x7b' ∈ first.text) (inside : ∀ l ∈ first :: inner, '\x7d' ∉ l.text)
      (plain : ∀ l ∈ inner, l.startsImport = false) (closes : '\x7d' ∈ last.text) :
      IsStatement (first :: inner) last

/-- A list of names is read to its first closing brace. -/
theorem throughBrace_append {front : Text} (h : '\x7d' ∉ front) (rest : Text) :
    throughBrace (front ++ '\x7d' :: rest) = some (front ++ ['\x7d'], rest) := by
  induction front with
  | nil => rfl
  | cons c front ih =>
    have hc : c ≠ '\x7d' := fun heq => h (by simp [heq])
    simp [throughBrace, hc, ih fun hmem => h (by simp [hmem])]

/-- No line end is a brace, so the lines have one if one of them has. -/
theorem AreLines.brace_not_mem (h : AreLines (a ++ b)) (hb : b ≠ [])
    (ha : ∀ l ∈ a, '\x7d' ∉ l.text) : '\x7d' ∉ spellLines a := by
  simp only [spellLines, List.mem_flatMap, List.mem_append, not_exists, not_and, not_or]
  intro l hl
  refine ⟨ha l hl, ?_⟩
  rcases h.ended hb hl with hending | hending <;> rw [hending] <;> decide

/-- **An open brace list takes the lines up to the closing brace in**, and the rest of its line. -/
theorem AreLines.throughBraceList_eq {first last : Line} {inner : List Line} {before : Text}
    (h : AreLines (first :: (inner ++ last :: behind))) (opens : '\x7b' ∈ first.text)
    (inside : ∀ l ∈ first :: inner, '\x7d' ∉ l.text) (closes : '\x7d' ∈ last.text) :
    throughBraceList ⟨before, first.text, first.ending ++ spellLines (inner ++ last :: behind)⟩ =
      ⟨before, spellLines (first :: inner) ++ last.text, last.ending ++ spellLines behind⟩ := by
  have hopen : (first.text.elem '\x7b' && !first.text.elem '\x7d') = true := by
    simpa [opens] using inside first (by simp)
  obtain ⟨front, tail, hlast, hfront⟩ := List.eq_append_cons_of_mem closes
  have hnone : '\x7d' ∉ first.ending ++ (spellLines inner ++ front) := by
    have hlines := AreLines.brace_not_mem (a := first :: inner) h (by simp) inside
    simp only [spellLines_cons, List.mem_append, not_or] at hlines
    simp [hlines, hfront]
  have hlater : AreLines (last :: behind) := AreLines.right (a := first :: inner) h
  have htail : OneLine tail := fun c hc =>
    hlater.plain List.mem_cons_self c (by simp [hlast, hc])
  have hafter : first.ending ++ spellLines (inner ++ last :: behind) =
      (first.ending ++ (spellLines inner ++ front)) ++
        '\x7d' :: (tail ++ (last.ending ++ spellLines behind)) := by
    simp [hlast]
  simp only [throughBraceList, hopen, if_true, hafter, throughBrace_append hnone,
    takeWhile_line htail hlater.ends, dropWhile_line htail hlater.ends]
  simp [hlast]

/-- An import line that leaves no brace list open is the answer. -/
theorem AreLines.lastImport_line (h : AreLines (front ++ l :: behind))
    (starts : l.startsImport = true) (closed : '\x7b' ∈ l.text → '\x7d' ∈ l.text)
    (hbehind : ∀ m ∈ behind, m.startsImport = false) :
    lastImport (spellLines (front ++ l :: behind)) =
      some ⟨spellLines front, l.text, l.ending ++ spellLines behind⟩ := by
  rw [lastImport, h.lastOf_importLine starts hbehind, Option.map_some,
    throughBraceList_of_closed closed]

theorem IsStatement.lastImport_eq {last : Line} (statement : IsStatement init last)
    (h : AreLines (front ++ (init ++ last :: behind)))
    (hbehind : ∀ l ∈ behind, l.startsImport = false) :
    lastImport (spellLines (front ++ (init ++ last :: behind))) = some
      (if init ≠ [] ∧ last.startsImport = true then
        ⟨spellLines (front ++ init), last.text, last.ending ++ spellLines behind⟩
      else ⟨spellLines front, spellLines init ++ last.text, last.ending ++ spellLines behind⟩) := by
  cases statement with
  | single starts closed =>
    rw [List.nil_append, AreLines.lastImport_line h starts closed hbehind]
    simp
  | @block first _ inner starts opens inside plain closes =>
    cases hlast : last.startsImport with
    | true =>
      rw [← List.append_assoc] at h ⊢
      rw [h.lastImport_line hlast (fun _ => closes) hbehind]
      simp
    | false =>
      have hlater : ∀ l ∈ inner ++ last :: behind, l.startsImport = false := by
        simp only [List.forall_mem_append, List.forall_mem_cons]
        exact ⟨plain, hlast, hbehind⟩
      rw [List.cons_append] at h ⊢
      rw [lastImport, h.lastOf_importLine starts hlater, Option.map_some,
        h.right.throughBraceList_eq opens inside closes]
      simp

/-- **The last import of a text is its last import statement**, from the start of its first line to
    the end of its last line.  Any lines may stand in front of the statement, and none of those
    behind it reads like the start of an import.  If the statement goes on over several lines and
    the last of them reads like the start of an import as well, the answer is that line alone.
    Either way a line that is put behind the imports goes behind the statement. -/
theorem lastImport_statement {last : Line} (h : AreLines (front ++ (init ++ last :: behind)))
    (statement : IsStatement init last) (hbehind : ∀ l ∈ behind, l.startsImport = false) :
    let text := spellLines (front ++ (init ++ last :: behind))
    lastImport text = some
        (if init ≠ [] ∧ last.startsImport = true then
          ⟨spellLines (front ++ init), last.text, last.ending ++ spellLines behind⟩
        else ⟨spellLines front, spellLines init ++ last.text, last.ending ++ spellLines behind⟩) ∧
      ∀ line, insertBehindImports line text = spellLines front ++ (spellLines init ++ last.text) ++
        (lineEnding text ++ line) ++ (last.ending ++ spellLines behind) := by
  intro text
  have himport := statement.lastImport_eq h hbehind
  refine ⟨himport, fun line => ?_⟩
  simp only [insertBehindImports, text, himport]
  split <;> simp [Passage.insertBehind]

/-- Two statements with a comment between them, in a text of pairs that does not end its last
    line. -/
theorem lastImport_statement_sample :
    let front : List Line := [⟨"import A from 'a'", ['\r', '\n']⟩, ⟨"// more", ['\r', '\n']⟩]
    let init : List Line := [⟨"import \x7b", ['\r', '\n']⟩, ⟨"  B,", ['\r', '\n']⟩]
    let last : Line := ⟨"\x7d from 'b';", ['\r', '\n']⟩
    let text := spellLines (front ++ (init ++ [last, ⟨"import(A)", []⟩]))
    lastImport text = some ⟨spellLines front, spellLines init ++ last.text, "\r\nimport(A)"⟩ ∧
      insertBehindImports "import C from 'c'" text = "import A from 'a'\r\n// more\r\n" ++
        "import \x7b\r\n  B,\r\n\x7d from 'b';\r\nimport C from 'c'\r\nimport(A)" := by
  intro front init last text
  have hpair : IsEnding ['\r', '\n'] := .inr rfl
  have h : AreLines (front ++ (init ++ [last, ⟨"import(A)", []⟩])) :=
    .cons (by decide) hpair <| .cons (by decide) hpair <| .cons (by decide) hpair <|
      .cons (by decide) hpair <| .cons (by decide) hpair <| .last (by decide)
  have statement : IsStatement init last :=
    .block (by decide +kernel) (by decide) (by decide +kernel) (by decide +kernel)
      (by decide +kernel)
  obtain ⟨himport, hinsert⟩ := lastImport_statement h statement (by decide +kernel)
  refine ⟨?_, (hinsert _).trans (by decide +kernel)⟩
  rw [if_neg (by decide +kernel)] at himport
  exact himport.trans (by decide +kernel)

/-- **The line with the closing brace is taken for an import of its own** when it reads like one,
    and what is answered is not the whole statement. -/
theorem lastImport_statement_cut :
    let first : Line := ⟨"import \x7b", ['\n']⟩
    let last : Line := ⟨"import x \x7d from 'y'", ['\n']⟩
    AreLines [first, last] ∧ IsStatement [first] last ∧
      lastImport (spellLines [first, last]) = some ⟨"import \x7b\n", last.text, ['\n']⟩ := by
  intro first last
  have hfeed : IsEnding ['\n'] := .inl rfl
  refine ⟨.cons (by decide) hfeed <| .cons (by decide) hfeed .nil, ?_, by decide⟩
  exact .block (by decide) (by decide) (by decide) (by decide) (by decide)

end RouteLocalizer.Import
