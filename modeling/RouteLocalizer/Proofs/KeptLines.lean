/-
  A LINE in which a symbol is not found stays as it is when the symbol is provided.

  A line of a text is told here as the searches see it: a line end of any kind stands in front of it
  and behind it, or the text starts or ends there.  No pairing of line ends is asked for.

  1. Whatever is found is a line of the text, and it is found in that line by itself as well
     (`find_eq_some_line`).
  2. Two lines of one text are the same, or a line end stands between them (`IsLine.apart`).  So a
     line in which nothing is found is not the one that goes away.
  3. The new line is written in front of a line end or at the start of the text, and no such place
     is inside of a line (`IsLine.insert`).
-/
import RouteLocalizer.Proofs.MovedBinding

namespace RouteLocalizer.Import

open Text

/-! ## Lines, as the searches see them -/

/-- A line between what stands in front of it and behind it. -/
structure IsLine (front line behind : Text) : Prop where
  nonempty : line ≠ []
  plain : ∀ c ∈ line, isLineEnd c = false
  starts : ∀ c ∈ front.getLast?, isLineEnd c = true
  ends : ∀ c ∈ behind.head?, isLineEnd c = true

namespace IsLine

variable {front line behind before body after : Text}

/-- A line ends where the text goes on with a line end. -/
theorem takeWhile_eq (h : IsLine front line behind) :
    (line ++ behind).takeWhile (!isLineEnd ·) = line :=
  takeWhile_of_end (fun c hc => by simp [h.plain c hc]) (any_not_head? h.ends)

/-- Up to a line end, a text that starts with a line has the whole line. -/
theorem split (h : IsLine front line behind) {a b : Text} (htext : line ++ behind = a ++ b)
    (hne : a ≠ []) (hlast : ∀ c ∈ a.getLast?, isLineEnd c = true) :
    ∃ mid, mid ≠ [] ∧ a = line ++ mid ∧ behind = mid ++ b := by
  obtain ⟨a, c, rfl⟩ := exists_concat hne
  have hc : isLineEnd c = true := hlast c (by simp)
  rcases List.append_eq_append_iff.mp htext with ⟨mid, hmid, hbehind⟩ | ⟨z, hz, -⟩
  · refine ⟨mid, ?_, hmid, hbehind⟩
    rintro rfl
    rw [h.plain c (by rw [← List.append_nil line, ← hmid]; simp)] at hc
    cases hc
  · rw [h.plain c (by simp [hz])] at hc
    cases hc

/-- **Two lines of one text** are the same, or a line end stands between them. -/
theorem apart (h : IsLine front line behind) (h' : IsLine before body after)
    (htext : front ++ (line ++ behind) = before ++ (body ++ after)) :
    line = body ∨ ∃ mid, mid ≠ [] ∧
      ((before = front ++ (line ++ mid) ∧ behind = mid ++ (body ++ after)) ∨
        (front = before ++ (body ++ mid) ∧ after = mid ++ (line ++ behind))) := by
  have hlast : ∀ {a z : Text}, z ≠ [] → (∀ c ∈ (a ++ z).getLast?, isLineEnd c = true) →
      ∀ c ∈ z.getLast?, isLineEnd c = true := by
    intro a z hz h c hc
    exact h c (by rw [List.getLast?_append_of_ne_nil _ hz]; exact hc)
  rcases List.append_eq_append_iff.mp htext with ⟨z, rfl, hrest⟩ | ⟨z, rfl, hrest⟩
  · by_cases hz : z = []
    · rw [hz, List.nil_append] at hrest
      exact .inl (by rw [← h.takeWhile_eq, hrest, h'.takeWhile_eq])
    · obtain ⟨mid, hmid, rfl, hbehind⟩ := h.split hrest hz (hlast hz h'.starts)
      exact .inr ⟨mid, hmid, .inl ⟨rfl, hbehind⟩⟩
  · by_cases hz : z = []
    · rw [hz, List.nil_append] at hrest
      exact .inl (by rw [← h.takeWhile_eq, ← hrest, h'.takeWhile_eq])
    · obtain ⟨mid, hmid, rfl, hafter⟩ := h'.split hrest hz (hlast hz h.starts)
      exact .inr ⟨mid, hmid, .inr ⟨rfl, hafter⟩⟩

/-! ## What an edit does to another line -/

/-- What stands behind a line may go on in another way behind the line end. -/
theorem append_behind (h : IsLine front line behind) {mid rest : Text} (hmid : mid ≠ [])
    (hbehind : behind = mid ++ rest) (rest' : Text) : IsLine front line (mid ++ rest') := by
  refine ⟨h.nonempty, h.plain, h.starts, fun c hc => h.ends c ?_⟩
  obtain ⟨d, mid, rfl⟩ := List.exists_cons_of_ne_nil hmid
  simpa [hbehind] using hc

/-- What stands in front of a line may start in another way in front of the line end. -/
theorem append_front (h : IsLine front line behind) {mid rest : Text} (hmid : mid ≠ [])
    (hfront : front = rest ++ mid) (rest' : Text) : IsLine (rest' ++ mid) line behind := by
  refine ⟨h.nonempty, h.plain, fun c hc => h.starts c ?_, h.ends⟩
  rw [List.getLast?_append_of_ne_nil _ hmid] at hc
  rwa [hfront, List.getLast?_append_of_ne_nil _ hmid]

/-- Where another line is replaced, the line stays. -/
theorem replace (h : IsLine front line behind) (h' : IsLine before body after)
    (htext : front ++ (line ++ behind) = before ++ (body ++ after)) (hne : line ≠ body)
    (new : Text) : ∃ front' behind', before ++ (new ++ after) = front' ++ (line ++ behind') ∧
      IsLine front' line behind' := by
  obtain ⟨mid, hmid, ⟨rfl, hbehind⟩ | ⟨hfront, rfl⟩⟩ := (h.apart h' htext).resolve_left hne
  · exact ⟨front, mid ++ (new ++ after), by simp, h.append_behind hmid hbehind _⟩
  · exact ⟨(before ++ new) ++ mid, behind, by simp,
      h.append_front hmid (by rw [hfront, List.append_assoc]) _⟩

/-- The line end behind another line belongs to no line. -/
theorem dropLineEnd_append (h : IsLine front line behind) {mid : Text} (hmid : mid ≠ []) :
    ∃ mid', dropLineEnd (mid ++ (line ++ behind)) = mid' ++ (line ++ behind) ∧
      mid' <:+ mid := by
  obtain ⟨c, rest, hline⟩ := List.exists_cons_of_ne_nil h.nonempty
  have hc : isLineEnd c = false := h.plain c (by simp [hline])
  unfold dropLineEnd
  split
  · rename_i more hmore
    match mid, hmid with
    | [d], _ =>
      -- a line does not start with a line feed
      simp only [hline, List.cons_append, List.nil_append, List.cons.injEq] at hmore
      obtain ⟨-, rfl, -⟩ := hmore
      cases hc
    | _ :: _ :: mid, _ =>
      simp only [List.cons_append, List.cons.injEq] at hmore
      obtain ⟨rfl, rfl, hmore⟩ := hmore
      exact ⟨mid, hmore.symm, [_, _], rfl⟩
  · rename_i more hmore
    obtain ⟨d, mid, rfl⟩ := List.exists_cons_of_ne_nil hmid
    rw [List.cons_append, List.cons.injEq] at hmore
    exact ⟨mid, hmore.2.symm, [d], rfl⟩
  · exact ⟨mid, rfl, List.suffix_refl mid⟩

/-- Where another line goes away together with its line end, the line stays. -/
theorem remove (h : IsLine front line behind) (h' : IsLine before body after)
    (htext : front ++ (line ++ behind) = before ++ (body ++ after)) (hne : line ≠ body) :
    ∃ front' behind', before ++ dropLineEnd after = front' ++ (line ++ behind') ∧
      IsLine front' line behind' := by
  obtain ⟨mid, hmid, ⟨rfl, hbehind⟩ | ⟨hfront, rfl⟩⟩ := (h.apart h' htext).resolve_left hne
  · exact ⟨front, mid ++ dropLineEnd after, by simp, h.append_behind hmid hbehind _⟩
  · obtain ⟨mid', hdrop, hsuffix⟩ := h.dropLineEnd_append hmid
    refine ⟨before ++ mid', behind, by rw [hdrop, List.append_assoc], ?_⟩
    by_cases hnil : mid' = []
    · exact ⟨h.nonempty, h.plain, by simpa [hnil] using h'.starts, h.ends⟩
    · obtain ⟨gone, rfl⟩ := hsuffix
      have hgone : front = (before ++ (body ++ gone)) ++ mid' := by simp [hfront]
      exact h.append_front hnil hgone before

/-- **Where something is written in front of a line end**, the line stays. -/
theorem insert (h : IsLine front line behind) (written : Text) {a b : Text}
    (htext : front ++ (line ++ behind) = a ++ b) (hb : ∀ c ∈ b.head?, isLineEnd c = true)
    (hwritten : written ≠ []) (hhead : ∀ c ∈ written.head?, isLineEnd c = true) :
    ∃ front' behind', a ++ (written ++ b) = front' ++ (line ++ behind') ∧
      IsLine front' line behind' := by
  rcases List.append_eq_append_iff.mp htext with ⟨z, rfl, hrest⟩ | ⟨z, hfront, rfl⟩
  · rcases List.append_eq_append_iff.mp hrest with ⟨w, rfl, hbehind⟩ | ⟨w, hw, hb'⟩
    · refine ⟨front, w ++ (written ++ b), by simp, ?_⟩
      by_cases hnil : w = []
      · refine ⟨h.nonempty, h.plain, h.starts, fun c hc => hhead c ?_⟩
        obtain ⟨d, written, rfl⟩ := List.exists_cons_of_ne_nil hwritten
        simpa [hnil] using hc
      · exact h.append_behind hnil hbehind _
    · by_cases hnil : w = []
      · rw [hnil, List.append_nil] at hw
        rw [hnil, List.nil_append] at hb'
        refine ⟨front, written ++ b, by simp [hw], h.nonempty, h.plain, h.starts, fun c hc =>
          hhead c ?_⟩
        obtain ⟨d, written, rfl⟩ := List.exists_cons_of_ne_nil hwritten
        simpa using hc
      · -- the place would be inside of the line
        obtain ⟨d, w, rfl⟩ := List.exists_cons_of_ne_nil hnil
        have hd := hb d (by simp [hb'])
        rw [h.plain d (by simp [hw])] at hd
        cases hd
  · by_cases hnil : z = []
    · obtain ⟨c, rest, hline⟩ := List.exists_cons_of_ne_nil h.nonempty
      have hc := hb c (by simp [hnil, hline])
      rw [h.plain c (by simp [hline])] at hc
      cases hc
    · exact ⟨(a ++ written) ++ z, behind, by simp, h.append_front hnil hfront _⟩

end IsLine

/-! ## The line that is found -/

theorem isLineEnd_of_isLineStart {last : Option Char} {rest : Text}
    (h : isLineStart last rest = true) : ∀ c ∈ last, isLineEnd c = true := by
  rintro c rfl
  unfold isLineStart at h
  split at h <;> simp_all [isLineEnd]

/-- What is left behind a line starts with a line end. -/
theorem isLineEnd_head?_dropWhile (text : Text) :
    ∀ c ∈ (text.dropWhile (!isLineEnd ·)).head?, isLineEnd c = true := by
  intro c hc
  have := List.head?_dropWhile_not (!isLineEnd ·) text
  rw [Option.mem_def] at hc
  simpa [hc] using this

variable {symbol text : Text}

/-- A line of the parts of one that imports the symbol alone is found by itself. -/
theorem findStandalone_of_parts {indent gap₁ gap₂ rest : Text}
    (hindent : ∀ c ∈ indent, isIndent c = true) (hne₁ : gap₁ ≠ [])
    (hgap₁ : ∀ c ∈ gap₁, (isIndent c || c == '\x7b') = true) (hne₂ : gap₂ ≠ [])
    (hgap₂ : ∀ c ∈ gap₂, (isIndent c || c == '\x7d') = true)
    (hrest : rest.head?.any isWordChar = false) :
    findStandalone symbol
      (indent ++ (keyword ++ (gap₁ ++ (symbol ++ (gap₂ ++ (fromWord ++ rest)))))) ≠ none := by
  have hfits : (standaloneLine symbol none
      (indent ++ (keyword ++ (gap₁ ++ (symbol ++ (gap₂ ++ (fromWord ++ rest))))))).isSome =
        true := by
    unfold standaloneLine
    rw [Shape.lineStart, if_pos (show isLineStart none _ = true from rfl)]
    refine Shape.run_isSome hindent ?_
    rw [Shape.literal_append]
    refine Shape.runOne_isSome hne₁ hgap₁ ?_
    rw [Shape.literal_append]
    refine Shape.runOne_isSome hne₂ hgap₂ ?_
    rw [Shape.literal_append, Shape.boundary, if_pos ((isBoundary_fromWord _ _).mpr hrest)]
    rfl
  have hfound := Shape.firstFrom_isSome (u := []) hfits
  rw [Ne, findStandalone, Option.map_eq_none_iff]
  exact Option.isSome_iff_ne_none.mp hfound

/-- A find that starts where a line starts, and takes the rest of the line, is a line. -/
theorem isLine_of_find (front : Text) {more before body after : Text}
    (starts : isLineStart (Shape.behind none before) (body ++ after) = true)
    (found : body ++ after = front ++ more) (plain : ∀ c ∈ front, isLineEnd c = false)
    (hafter : after = more.dropWhile (!isLineEnd ·)) (hne : body ≠ []) :
    IsLine before body after := by
  have hbody : body = front ++ more.takeWhile (!isLineEnd ·) := by
    have hsplit : more = more.takeWhile (!isLineEnd ·) ++ after := by
      rw [hafter, List.takeWhile_append_dropWhile]
    rw [hsplit, ← List.append_assoc] at found
    exact List.append_cancel_right found
  refine ⟨hne, fun c hc => ?_, ?_, ?_⟩
  · rcases List.mem_append.mp (hbody ▸ hc) with hc | hc
    · exact plain c hc
    · simpa using List.mem_takeWhile_imp hc
  · have := isLineEnd_of_isLineStart starts
    rwa [Shape.behind, Option.or_none] at this
  · rw [hafter]
    exact isLineEnd_head?_dropWhile more

theorem findStandalone_line {p : Passage} (hsymbol : ∀ c ∈ symbol, isLineEnd c = false)
    (h : findStandalone symbol text = some (.standalone p)) :
    text = p.before ++ (p.body ++ p.after) ∧ IsLine p.before p.body p.after ∧
      findStandalone symbol p.body ≠ none := by
  obtain ⟨htext, hstart, indent, gap₁, gap₂, rest, hparts, hafter, -, -, hindent, hgap₁, hgap₂,
    -⟩ := findStandalone_eq_some h
  have hgaps := isBesideAlone_of_gaps hgap₁ hgap₂
  have hfront : ∀ c ∈ indent ++ (keyword ++ (gap₁ ++ (symbol ++ (gap₂ ++ fromWord)))),
      isLineEnd c = false := by
    simp only [List.forall_mem_append] at hgaps ⊢
    exact ⟨fun c hc => (isBesideAlone_gap (isBesideAlone_of_isIndent (hindent c hc))).2, by decide,
      fun c hc => (isBesideAlone_gap (hgaps.1 c hc)).2, hsymbol,
      fun c hc => (isBesideAlone_gap (hgaps.2 c hc)).2, by decide⟩
  obtain ⟨indent', gap₁', gap₂', rest', hbody, hne₁, hne₂, hindent', hgap₁', hgap₂', hrest'⟩ :=
    standalone_body h
  have hne : p.body ≠ [] := by
    rw [hbody]
    simp [keyword]
  refine ⟨htext, isLine_of_find _ hstart (by simpa using hparts) hfront hafter hne, ?_⟩
  rw [hbody]
  exact findStandalone_of_parts hindent' hne₁ hgap₁' hne₂ hgap₂' hrest'

theorem findGrouped_line {p b : Passage} (h : findGrouped symbol text = some (.grouped p b)) :
    text = p.before ++ (p.body ++ p.after) ∧ IsLine p.before p.body p.after ∧
      findGrouped symbol p.body ≠ none := by
  unfold findGrouped at h
  split at h
  · rename_i q hq
    obtain ⟨b', hb, heq⟩ := Option.map_eq_some_iff.mp h
    cases heq
    obtain ⟨htext, hfits, -⟩ := Shape.firstFrom_eq_some (groupedLine_reads symbol) hq
    obtain ⟨hstart, hgrouped⟩ := Shape.lineStart_eq_some.mp hfits
    split at hgrouped
    · have hne : p.body ≠ [] := fun hnil => by
        rw [hnil] at hb
        cases hb
      have hline := isLine_of_find [] hstart rfl (by simp)
        (Option.some.inj hgrouped).symm hne
      have hwhole : WholeLine p.body ⟨[], p.body, []⟩ :=
        ⟨by simp, .inl rfl, hline.plain, .inl rfl⟩
      exact ⟨htext, hline, findGrouped_ne_none hwhole hb⟩
    · cases hgrouped
  · cases h

/-- **What is found is a line of the text**, and it is found in that line by itself as well. -/
theorem find_eq_some_line {site : ImportSite} (hsymbol : ∀ c ∈ symbol, isLineEnd c = false)
    (h : find symbol text = some site) :
    ∃ p, (site = .standalone p ∨ ∃ b, site = .grouped p b) ∧
      text = p.before ++ (p.body ++ p.after) ∧ IsLine p.before p.body p.after ∧
      find symbol p.body ≠ none := by
  rcases find_eq_some h with ⟨p, rfl, halone⟩ | ⟨p, b, rfl, hgrouped⟩
  · obtain ⟨htext, hline, hfound⟩ := findStandalone_line hsymbol halone
    exact ⟨p, .inl rfl, htext, hline, fun hnone => hfound (Option.or_eq_none_iff.mp hnone).1⟩
  · obtain ⟨htext, hline, hfound⟩ := findGrouped_line hgrouped
    exact ⟨p, .inr ⟨b, rfl⟩, htext, hline, fun hnone => hfound (Option.or_eq_none_iff.mp hnone).2⟩

/-! ## Providing the symbol -/

variable {front line behind : Text}

theorem isLineEnd_lineEnding (text : Text) :
    lineEnding text ≠ [] ∧ ∀ c ∈ lineEnding text, isLineEnd c = true := by
  rcases lineEnding_cases text with h | h <;> rw [h] <;> decide

/-- Writing behind the imports keeps every line. -/
theorem IsLine.insertBehindImports (h : IsLine front line behind) (new : Text) :
    ∃ front' behind', insertBehindImports new (front ++ (line ++ behind)) =
        front' ++ (line ++ behind') ∧ IsLine front' line behind' := by
  obtain ⟨hne, hend⟩ := isLineEnd_lineEnding (front ++ (line ++ behind))
  unfold Import.insertBehindImports
  split
  · rename_i p hp
    have hcut := lastImport_cut hp
    obtain ⟨more, hmore⟩ := hcut.ends
    obtain ⟨c, ending, hcons⟩ := List.exists_cons_of_ne_nil hne
    have hinsert := h.insert (lineEnding (front ++ (line ++ behind)) ++ new) hcut.whole
      (by rw [hmore]; exact isLineEnd_head?_dropWhile more) (by simp [hne])
      (by simpa [hcons] using hend c (by simp [hcons]))
    simpa [Passage.insertBehind] using hinsert
  · refine ⟨new ++ (lineEnding (front ++ (line ++ behind)) ++ front), behind, by simp, h.nonempty,
      h.plain, ?_, h.ends⟩
    by_cases hnil : front = []
    · rw [hnil, List.append_nil, List.getLast?_append_of_ne_nil _ (by simpa [hnil] using hne)]
      exact fun c hc => hend c (by simpa [hnil] using List.mem_of_getLast? hc)
    · rw [← List.append_assoc, List.getLast?_append_of_ne_nil _ hnil]
      exact h.starts

/-- **A line in which a symbol is not found stays as it is** when the symbol is provided, whatever
    else is in the text and whatever line is written. -/
theorem provide_keeps_line (hsymbol : ∀ c ∈ symbol, isLineEnd c = false)
    (h : IsLine front line behind) (hnone : find symbol line = none) (new : Text) :
    ∃ front' behind', provide symbol new (front ++ (line ++ behind)) = front' ++ (line ++ behind') ∧
      IsLine front' line behind' := by
  unfold provide
  split
  · exact ⟨front, behind, rfl, h⟩
  split
  · -- the line that goes away is another one
    rename_i old hfind
    obtain ⟨p, hsite, htext, hline, hfound⟩ := find_eq_some_line hsymbol hfind
    obtain rfl : old = p := by simpa using hsite
    have hne : line ≠ old.body := fun heq => hfound (heq ▸ hnone)
    simpa [Passage.replaceWith] using h.replace hline htext hne new
  · rename_i old b hfind
    obtain ⟨p, hsite, htext, hline, hfound⟩ := find_eq_some_line hsymbol hfind
    obtain rfl : old = p := by simpa using hsite
    have hne : line ≠ old.body := fun heq => hfound (heq ▸ hnone)
    have hexcised : ∃ front' behind', exciseBinding old b = front' ++ (line ++ behind') ∧
        IsLine front' line behind' := by
      unfold exciseBinding
      split
      · rename_i rest _
        simpa [Passage.replaceWith] using h.replace hline htext hne rest
      · exact h.remove hline htext hne
    obtain ⟨front', behind', heq, h'⟩ := hexcised
    rw [heq]
    exact h'.insertBehindImports new
  · exact h.insertBehindImports new

end RouteLocalizer.Import
