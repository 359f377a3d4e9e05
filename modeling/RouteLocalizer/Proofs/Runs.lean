/-
  The RUNS of a character class in a text: the longest stretches of its characters, left to right.

  A text is its runs with gaps between them, and what a formatter does to a line happens in the
  gaps: as long as gaps stay gaps the runs stay what they are.  Two texts can be appended run by
  run unless a run goes across the seam (`runsOf_append`), and everything else about them follows
  from that.

  SPECIFICATION:
  (1) `runsOf` — by recursion on the text: a character of the class extends the run behind it or
      opens one;
  (2) `runsOf_append`, `runsOf_gap`, `runsOf_word` — the runs of a text from those of its parts;
  (3) `runsOf_trim`, `runsOf_dropEndWhile`, `runsOf_map` — what formatting leaves of them;
  (4) `eq_of_runsOf_cons` — and back: the text in front of a run, the run, and what follows.

  Where a class ends a text can be cut in one way only.  That says which of two cuts of one text
  stands in front of the other (`word_unique`, `rest_unique`, `exists_of_end`).
-/
import Mathlib.Data.List.TakeWhile
import RouteLocalizer.Text.CharClass

namespace RouteLocalizer.Text

/-- A text that is not empty ends with a character. -/
theorem exists_concat {text : Text} (h : text ≠ []) : ∃ front c, text = front ++ [c] :=
  ⟨text.dropLast, text.getLast h, (List.dropLast_concat_getLast h).symm⟩

/-- Puts a character in front of the runs behind it, into the first one when it touches it. -/
def extendRuns : (touches : Bool) → Char → List Text → List Text
  | true, c, r :: rs => (c :: r) :: rs
  | _, c, rs => [c] :: rs

/-- The runs of a class in a text. -/
def runsOf (p : Char → Bool) : Text → List Text
  | [] => []
  | c :: cs => if p c then extendRuns (cs.head?.any p) c (runsOf p cs) else runsOf p cs

variable {p : Char → Bool}

/-- A character outside of the class is passed over. -/
theorem runsOf_gap_cons {c : Char} (h : p c = false) (text : Text) :
    runsOf p (c :: text) = runsOf p text := by
  simp [runsOf, h]

/-- A character of the class joins the run behind it, if there is one right behind it. -/
theorem runsOf_cons {c : Char} (h : p c = true) (text : Text) :
    runsOf p (c :: text) = extendRuns (text.head?.any p) c (runsOf p text) := by
  simp [runsOf, h]

theorem extendRuns_false (c : Char) (runs : List Text) :
    extendRuns false c runs = [c] :: runs := rfl

theorem extendRuns_ne_nil (touches : Bool) (c : Char) (runs : List Text) :
    extendRuns touches c runs ≠ [] := by
  cases touches <;> cases runs <;> simp [extendRuns]

theorem extendRuns_append {touches : Bool} {runs : List Text} (h : touches = true → runs ≠ [])
    (c : Char) (more : List Text) :
    extendRuns touches c (runs ++ more) = extendRuns touches c runs ++ more := by
  cases touches with
  | false => rfl
  | true =>
    cases runs with
    | nil => exact absurd rfl (h rfl)
    | cons r rs => rfl

/-- A text has no runs when it is one gap. -/
theorem runsOf_eq_nil {text : Text} : runsOf p text = [] ↔ ∀ c ∈ text, p c = false := by
  induction text with
  | nil => simp [runsOf]
  | cons c cs ih =>
    by_cases h : p c = true
    · simp [runsOf_cons h, extendRuns_ne_nil, h]
    · rw [runsOf_gap_cons (by simpa using h), ih]
      simp [h]

theorem runsOf_ne_nil {text : Text} (h : text.head?.any p = true) : runsOf p text ≠ [] := by
  cases text with
  | nil => cases h
  | cons c cs =>
    intro hnil
    have := runsOf_eq_nil.mp hnil c (by simp)
    simp [this] at h

/-- **Gaps in front count for nothing**, ... -/
theorem runsOf_gap {gap : Text} (h : ∀ c ∈ gap, p c = false) (text : Text) :
    runsOf p (gap ++ text) = runsOf p text := by
  induction gap with
  | nil => rfl
  | cons c gap ih =>
    rw [List.cons_append, runsOf_gap_cons (h c (by simp)), ih fun d hd => h d (by simp [hd])]

/-- **Runs of two texts in a row**, when no run goes across the seam. -/
theorem runsOf_append {a b : Text} (h : a.getLast?.any p = false ∨ b.head?.any p = false) :
    runsOf p (a ++ b) = runsOf p a ++ runsOf p b := by
  induction a with
  | nil => rfl
  | cons c a ih =>
    by_cases hc : p c = true
    · cases a with
      | nil =>
        have hb : b.head?.any p = false := by simpa [hc] using h
        rw [List.singleton_append, runsOf_cons hc, hb, extendRuns_false, runsOf_cons hc]
        rfl
      | cons d a =>
        have ih := ih (by simpa [List.getLast?_cons] using h)
        rw [List.cons_append, runsOf_cons hc, ih, runsOf_cons hc]
        have touches : ∀ h : (d :: a).head?.any p = true, runsOf p (d :: a) ≠ [] :=
          fun h => runsOf_ne_nil h
        exact extendRuns_append touches c _
    · have hc : p c = false := by simpa using hc
      rw [List.cons_append, runsOf_gap_cons hc, runsOf_gap_cons hc, ih]
      cases a with
      | nil => simp
      | cons d a => simpa [List.getLast?_cons] using h

/-- ... and so do gaps behind. -/
theorem runsOf_gap_behind {gap : Text} (h : ∀ c ∈ gap, p c = false) (text : Text) :
    runsOf p (text ++ gap) = runsOf p text := by
  rw [runsOf_append, runsOf_eq_nil.mpr h, List.append_nil]
  right
  cases gap with
  | nil => rfl
  | cons c gap => simpa using h c (by simp)

/-- A text of the class alone is one run. -/
theorem runsOf_word {word : Text} (hne : word ≠ []) (h : ∀ c ∈ word, p c = true) :
    runsOf p word = [word] := by
  induction word with
  | nil => exact absurd rfl hne
  | cons c word ih =>
    have hc : p c = true := h c (by simp)
    cases word with
    | nil => simp [runsOf, hc, extendRuns]
    | cons d word =>
      have hd : p d = true := h d (by simp)
      rw [runsOf, ih (by simp) fun e he => h e (by simp [he])]
      simp [hc, hd, extendRuns]

/-- A word with gaps on both sides is a run of its own. -/
theorem runsOf_around {u word v : Text} (hne : word ≠ []) (h : ∀ c ∈ word, p c = true)
    (hu : u.getLast?.any p = false) (hv : v.head?.any p = false) :
    runsOf p (u ++ (word ++ v)) = runsOf p u ++ word :: runsOf p v := by
  rw [runsOf_append (.inl hu), runsOf_append (.inr hv), runsOf_word hne h]
  rfl

/-- A word at the end is the end of the last run. -/
theorem runsOf_append_word (u : Text) {word : Text} (hne : word ≠ []) (h : ∀ c ∈ word, p c = true) :
    ∃ init w, runsOf p (u ++ word) = init ++ [w ++ word] ∧ w <:+ u := by
  have hsplit : u = (u.reverse.dropWhile p).reverse ++ (u.reverse.takeWhile p).reverse := by
    rw [← List.reverse_append, List.takeWhile_append_dropWhile, List.reverse_reverse]
  refine ⟨runsOf p (u.reverse.dropWhile p).reverse, (u.reverse.takeWhile p).reverse, ?_, ?_⟩
  · conv => lhs; rw [hsplit, List.append_assoc]
    have hlast : (u.reverse.dropWhile p).reverse.getLast?.any p = false := by
      rw [List.getLast?_reverse]
      have := List.head?_dropWhile_not p u.reverse
      cases hhead : (u.reverse.dropWhile p).head? with
      | none => rfl
      | some c => simpa [hhead] using this
    have hword : ∀ c ∈ (u.reverse.takeWhile p).reverse ++ word, p c = true := by
      intro c hc
      rcases List.mem_append.mp hc with hc | hc
      · exact List.mem_takeWhile_imp (List.mem_reverse.mp hc)
      · exact h c hc
    rw [runsOf_append (.inl hlast), runsOf_word (by simp [hne]) hword]
  · conv => rhs; rw [hsplit]
    exact List.suffix_append _ _

/-- A character of the class stands in some run. -/
theorem mem_runsOf {text : Text} {c : Char} (hc : c ∈ text) (h : p c = true) :
    ∃ r ∈ runsOf p text, c ∈ r := by
  induction text with
  | nil => cases hc
  | cons d text ih =>
    by_cases hd : p d = true
    · rw [runsOf_cons hd]
      rcases List.mem_cons.mp hc with rfl | hc
      · cases text.head?.any p <;> cases runsOf p text <;> simp [extendRuns]
      · obtain ⟨r, hr, hcr⟩ := ih hc
        cases text.head?.any p with
        | false => exact ⟨r, List.mem_cons_of_mem _ hr, hcr⟩
        | true =>
          cases hruns : runsOf p text with
          | nil => rw [hruns] at hr; cases hr
          | cons r' rs =>
            rw [hruns] at hr
            rcases List.mem_cons.mp hr with rfl | hr
            · exact ⟨d :: r, by simp [extendRuns], List.mem_cons_of_mem _ hcr⟩
            · exact ⟨r, by simp [extendRuns, hr], hcr⟩
    · rw [runsOf_gap_cons (by simpa using hd)]
      rcases List.mem_cons.mp hc with rfl | hc
      · exact absurd h hd
      · exact ih hc

/-- The first run, with the gap in front of it and what stands behind it. -/
theorem eq_of_runsOf_cons {text r : Text} {rs : List Text} (h : runsOf p text = r :: rs) :
    ∃ gap rest, text = gap ++ (r ++ rest) ∧ (∀ c ∈ gap, p c = false) ∧ r ≠ [] ∧
      (∀ c ∈ r, p c = true) ∧ rest.head?.any p = false ∧ runsOf p rest = rs := by
  induction text generalizing r with
  | nil => cases h
  | cons c text ih =>
    by_cases hc : p c = true
    · rw [runsOf_cons hc] at h
      cases hnext : text.head?.any p with
      | false =>
        rw [hnext, extendRuns_false] at h
        cases h
        exact ⟨[], text, rfl, by simp, by simp, by simpa using hc, hnext, rfl⟩
      | true =>
        cases hruns : runsOf p text with
        | nil => exact absurd hruns (runsOf_ne_nil hnext)
        | cons r' rs' =>
          rw [hnext, hruns] at h
          cases h
          obtain ⟨gap, rest, htext, hgap, -, hr, hrest, hrs⟩ := ih hruns
          -- the text starts with its first run, so there is no gap in front of it
          have hnil : gap = [] := by
            cases gap with
            | nil => rfl
            | cons d gap =>
              rw [htext] at hnext
              simp [hgap d (by simp)] at hnext
          subst hnil
          refine ⟨[], rest, by simp [htext], by simp, by simp, ?_, hrest, hrs⟩
          simpa [hc] using hr
    · have hc : p c = false := by simpa using hc
      rw [runsOf_gap_cons hc] at h
      obtain ⟨gap, rest, htext, hgap, hne, hr, hrest, hrs⟩ := ih h
      refine ⟨c :: gap, rest, by simp [htext], ?_, hne, hr, hrest, hrs⟩
      simpa [hc] using hgap

/-- A run of a text, with what stands around it. -/
theorem split_of_mem_runsOf {text r : Text} (h : r ∈ runsOf p text) :
    ∃ u v, text = u ++ (r ++ v) ∧ r.head?.any p = true ∧ u.getLast?.any p = false ∧
      v.head?.any p = false := by
  generalize hruns : runsOf p text = runs at h
  induction runs generalizing text with
  | nil => cases h
  | cons r' runs ih =>
    obtain ⟨gap, rest, rfl, hgap, hne, hr', hrest, hlater⟩ := eq_of_runsOf_cons hruns
    rcases List.mem_cons.mp h with rfl | h
    · obtain ⟨c, r, rfl⟩ := List.exists_cons_of_ne_nil hne
      refine ⟨gap, rest, rfl, hr' c (by simp), ?_, hrest⟩
      cases hlast : gap.getLast? with
      | none => rfl
      | some d => simpa using hgap d (List.mem_of_getLast? hlast)
    · obtain ⟨u, v, rfl, hr, hu, hv⟩ := ih hlater h
      refine ⟨gap ++ (r' ++ u), v, by simp, hr, ?_, hv⟩
      -- the run that is asked for does not start where the first one ends
      by_cases hnil : u = []
      · obtain ⟨c, r, rfl⟩ : ∃ c r₀, r = c :: r₀ := by
          cases r with
          | nil => cases hr
          | cons c r => exact ⟨c, r, rfl⟩
        rw [hnil] at hrest
        cases hr.symm.trans hrest
      · obtain ⟨front, c, rfl⟩ := exists_concat hnil
        simpa [← List.append_assoc] using hu

/-- Characters may be exchanged, as long as the class takes the new for the old. -/
theorem runsOf_map {f : Char → Char} (h : ∀ c, p (f c) = p c) (text : Text) :
    runsOf p (text.map f) = (runsOf p text).map (List.map f) := by
  induction text with
  | nil => rfl
  | cons c text ih =>
    by_cases hc : p c = true
    · have hhead : (text.map f).head?.any p = text.head?.any p := by
        cases text <;> simp [h]
      rw [List.map_cons, runsOf_cons (by rw [h, hc]), runsOf_cons hc, ih, hhead]
      cases text.head?.any p <;> cases runsOf p text <;> rfl
    · have hc : p c = false := by simpa using hc
      rw [List.map_cons, runsOf_gap_cons (by rw [h, hc]), runsOf_gap_cons hc, ih]

/-! ## Words -/

/-- The words of a text are its runs of everything but white space. -/
theorem words_eq_runsOf (text : Text) : words text = runsOf (fun c => !isBlank c) text := by
  induction text with
  | nil => rfl
  | cons c cs ih =>
    unfold words
    by_cases hc : isBlank c = true
    · rw [runsOf_gap_cons (by simp [hc]), ih]
      simp [hc]
    · rw [runsOf_cons (by simp [hc]), ← ih]
      cases cs with
      | nil => simp [hc, words, extendRuns]
      | cons d ds =>
        by_cases hd : isBlank d = true
        · simp [hc, hd, extendRuns]
        · simp only [hc, hd, Bool.false_eq_true, if_false, List.head?_cons, Option.any_some,
            Bool.not_false]
          cases words (d :: ds) <;> rfl

/-- The runs of a smaller class are the runs of the words. -/
theorem runsOf_flatMap_words {q : Char → Bool} (hq : ∀ c, isBlank c = true → q c = false)
    (text : Text) : (words text).flatMap (runsOf q) = runsOf q text := by
  rw [words_eq_runsOf]
  generalize hruns : runsOf (fun c => !isBlank c) text = ws
  induction ws generalizing text with
  | nil =>
    rw [List.flatMap_nil, eq_comm, runsOf_eq_nil]
    intro c hc
    exact hq c (by simpa using runsOf_eq_nil.mp hruns c hc)
  | cons w ws ih =>
    obtain ⟨gap, rest, rfl, hgap, -, -, hrest, hws⟩ := eq_of_runsOf_cons hruns
    have hseam : rest.head?.any q = false := by
      cases rest with
      | nil => rfl
      | cons c rest => simpa using hq c (by simpa using hrest)
    rw [List.flatMap_cons, ih rest hws, runsOf_gap (fun c hc => hq c (by simpa using hgap c hc)),
      runsOf_append (.inr hseam)]

/-- Words joined by blanks keep their runs. -/
theorem runsOf_joinWith {q : Char → Bool} (hq : q ' ' = false) (ws : List Text) :
    runsOf q (joinWith [' '] ws) = ws.flatMap (runsOf q) := by
  match ws with
  | [] => rfl
  | [w] => simp [joinWith]
  | w :: v :: ws =>
    rw [joinWith, List.append_assoc, runsOf_append (.inr (by simp [hq])), List.singleton_append,
      runsOf_gap_cons hq, runsOf_joinWith hq (v :: ws)]
    rfl

/-! ## Trimming -/

/-- What is dropped at the end is of the class that is dropped. -/
theorem dropEndWhile_append (q : Char → Bool) (text : Text) :
    ∃ tail, text = dropEndWhile q text ++ tail ∧ ∀ c ∈ tail, q c = true := by
  refine ⟨(text.reverse.takeWhile q).reverse, ?_, fun c hc => ?_⟩
  · rw [dropEndWhile, ← List.reverse_append, List.takeWhile_append_dropWhile, List.reverse_reverse]
  · exact List.mem_takeWhile_imp (List.mem_reverse.mp hc)

/-- What is dropped at the end stands behind a character that stays. -/
theorem dropEndWhile_behind {q : Char → Bool} {text tail : Text} (htail : ∀ c ∈ tail, q c = true)
    (htext : text.getLast?.any q = false) : dropEndWhile q (text ++ tail) = text := by
  unfold dropEndWhile
  rw [List.reverse_append,
    List.dropWhile_append_of_pos fun c hc => htail c (List.mem_reverse.mp hc)]
  by_cases hnil : text = []
  · simp [hnil]
  · obtain ⟨front, c, rfl⟩ := exists_concat hnil
    have hc : q c = false := by simpa using htext
    simp [hc]

/-- Text that starts and ends with ink is left when the white space in front of it is trimmed. -/
theorem trim_of_ink {lead text : Text} (hlead : ∀ b ∈ lead, isBlank b = true)
    (first : text.head?.any isBlank = false) (last : text.getLast?.any isBlank = false) :
    trim (lead ++ text) = text := by
  have hstart : text.dropWhile isBlank = text := by
    cases text with
    | nil => rfl
    | cons d ds => simpa using first
  have hend : dropEndWhile isBlank (text ++ []) = text := dropEndWhile_behind (by simp) last
  rw [List.append_nil] at hend
  rw [trim, trimStart, trimEnd, List.dropWhile_append_of_pos hlead, hstart, hend]

/-- Dropping a gap at the end. -/
theorem runsOf_dropEndWhile {q : Char → Bool} (h : ∀ c, q c = true → p c = false) (text : Text) :
    runsOf p (dropEndWhile q text) = runsOf p text := by
  obtain ⟨tail, htext, htail⟩ := dropEndWhile_append q text
  conv => rhs; rw [htext]
  rw [runsOf_gap_behind fun c hc => h c (htail c hc)]

/-- Trimming drops gaps, if the class has no white space. -/
theorem runsOf_trim (h : ∀ c, isBlank c = true → p c = false) (text : Text) :
    runsOf p (trim text) = runsOf p text := by
  unfold trim trimEnd trimStart
  rw [runsOf_dropEndWhile h]
  conv => rhs; rw [← List.takeWhile_append_dropWhile (p := isBlank) (l := text)]
  rw [runsOf_gap fun c hc => h c (List.mem_takeWhile_imp hc)]

/-! ## Two cuts of one text -/

/-- Where a class ends, taking its characters takes the whole word, ... -/
theorem takeWhile_of_end {text rest : Text} (htext : ∀ c ∈ text, p c = true)
    (hrest : rest.head?.any p = false) : (text ++ rest).takeWhile p = text := by
  have hend : rest.takeWhile p = [] := by
    cases rest with
    | nil => rfl
    | cons c rest => exact List.takeWhile_cons_of_neg (by simpa using hrest)
  rw [List.takeWhile_append_of_pos htext, hend, List.append_nil]

/-- ... and dropping them leaves the whole rest. -/
theorem dropWhile_of_end {text rest : Text} (htext : ∀ c ∈ text, p c = true)
    (hrest : rest.head?.any p = false) : (text ++ rest).dropWhile p = rest := by
  rw [List.dropWhile_append_of_pos htext]
  cases rest with
  | nil => rfl
  | cons c rest => exact List.dropWhile_cons_of_neg (by simpa using hrest)

/-- A word ends where its characters end. -/
theorem word_unique {word word' rest rest' : Text} (h : word ++ rest = word' ++ rest')
    (hword : ∀ c ∈ word, p c = true) (hword' : ∀ c ∈ word', p c = true)
    (hrest : rest.head?.any p = false) (hrest' : rest'.head?.any p = false) : word = word' := by
  rw [← takeWhile_of_end hword hrest, h, takeWhile_of_end hword' hrest']

/-- A text starts with the characters of a class in one way only. -/
theorem rest_unique {word word' rest rest' : Text} (h : word ++ rest = word' ++ rest')
    (hword : ∀ c ∈ word, p c = true) (hword' : ∀ c ∈ word', p c = true)
    (hrest : rest.head?.any p = false) (hrest' : rest'.head?.any p = false) : rest = rest' := by
  rw [← dropWhile_of_end hword hrest, h, dropWhile_of_end hword' hrest']

/-- The characters that are not of a class end where one of them is. -/
theorem any_not_head? {text : Text} (h : ∀ c ∈ text.head?, p c = true) :
    text.head?.any (!p ·) = false := by
  cases text with
  | nil => rfl
  | cons c text => simp [h c rfl]

/-- A text that is cut off where a class ends has all that its characters make up at the start. -/
theorem exists_of_end {text front rest more : Text} (hfront : ∀ c ∈ front, p c = true)
    (hrest : rest.head?.any p = false) (h : text ++ rest = front ++ more) :
    ∃ mid, text = front ++ mid ∧ more = mid ++ rest := by
  rcases List.append_eq_append_iff.mp h with ⟨z, hz, htail⟩ | ⟨z, hz, hmore⟩
  · cases z with
    | nil => exact ⟨[], by simpa using hz.symm, by simpa using htail.symm⟩
    | cons c z =>
      have hc : p c = false := by simpa [htail] using hrest
      rw [hfront c (by simp [hz])] at hc
      cases hc
  · exact ⟨z, hz, hmore⟩

/-- A text that is cut off in front of a character has all that stands there without it. -/
theorem exists_of_cut {text front rest more : Text} {c : Char} (hc : c ∉ front)
    (h : text ++ c :: rest = front ++ more) :
    ∃ mid, text = front ++ mid ∧ more = mid ++ c :: rest := by
  refine exists_of_end (p := (· != c)) (fun d hd => ?_) (by simp) h
  simpa using fun heq : d = c => hc (heq ▸ hd)

/-! ## Endings -/

theorem any_getLast?_of_isSuffix {front before : Text} (h : front <:+ before)
    (hbefore : before.getLast?.any p = false) : front.getLast?.any p = false := by
  obtain ⟨above, rfl⟩ := h
  cases hlast : front.getLast? with
  | none => rfl
  | some c => simpa [List.getLast?_append, hlast] using hbefore

theorem any_head?_of_isPrefix {tail after : Text} (h : tail <+: after)
    (hafter : after.head?.any p = false) : tail.head?.any p = false := by
  obtain ⟨below, rfl⟩ := h
  cases tail with
  | nil => rfl
  | cons c tail => simpa using hafter

/-- What `endsWith` decides. -/
theorem endsWith_iff {ending text : Text} : endsWith ending text = true ↔ ending <:+ text := by
  rw [endsWith, List.isPrefixOf_iff_prefix, List.reverse_prefix]

end RouteLocalizer.Text
