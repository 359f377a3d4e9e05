/-
  What the reader can answer for a PRINTED value, floating-point numbers included.

  A floating-point number may come back as another one, so a printed value need not be read back.
  But whatever the reader answers, it stops where the printed value ends (`Aligned`): inside a
  printed number it would stop at a character that no list and no object goes on with.  From there
  on names, strings and the nesting of objects come back as they were.

  SPECIFICATION:
  (1) `valueWith_aligned` — whatever is answered for a printed value, what is left is what stood
      behind the value, or starts with a character that can follow no value (`Stops`);
  (2) `membersRead_reread` — so the members of an object that is read come back by name, in their
      order, each value read as the printed one is (`MembersReadAs`);
  (3) `Manifest.toText_ne` — so a dependency which was written into a manifest is found in its text,
      and a manifest that had to be changed gets another text, whatever numbers are in it.

  The proof goes along the printed text as in the round trip of whole numbers; only, where that one
  says what is answered, this one takes the answer as given and says where it ends.
-/
import Mathlib.Data.List.Forall2
import RouteLocalizer.Proofs.Declaration

namespace RouteLocalizer.Json

open Text Reader

/-! ## Where the reader stops -/

/-- The reader stopped where it should, or inside a numeral. -/
def Stops (rest rest' : Text) : Prop :=
  rest' = rest ∨ ∃ c more, rest' = c :: more ∧ isNumeral c = true

/-- Behind a numeral stands no numeral character, so all of it was taken or some of it is left. -/
theorem Taken.stops {text rest rest' : Text} (htext : ∀ c ∈ text, isNumeral c = true)
    (hrest : Follows rest) (h : Taken (text ++ rest) rest') : Stops rest rest' := by
  obtain ⟨front, heq, hfront⟩ := h
  rcases List.append_eq_append_iff.mp heq with ⟨more, rfl, rfl⟩ | ⟨left, rfl, rfl⟩
  · -- the reader would have taken the character behind the numeral as well
    cases more with
    | nil => exact .inl rfl
    | cons c more =>
      have hc : isNumeral c = true := hfront c (by simp)
      obtain ⟨behind, hrest | hrest⟩ := hrest <;>
        (rw [(List.cons.inj hrest).1] at hc; cases hc)
  · cases left with
    | nil => exact .inl rfl
    | cons c left => exact .inr ⟨c, left ++ rest, rfl, htext c (by simp)⟩

/-- A reader that stops, if it answers at all, where the printed value ends or inside a numeral. -/
def Aligned (item : Text → Reading Json) (v : Json) : Prop :=
  ∀ level space rest w rest', (∀ c ∈ space, isSpace c = true) → Follows rest →
    item (space ++ (print level v ++ rest)) = .ok (w, rest') → Stops rest rest'

/-- A value that the reader can answer for another one, printed. -/
def ReadAs (item : Text → Reading Json) (v w : Json) : Prop :=
  ∃ level space rest rest', (∀ c ∈ space, isSpace c = true) ∧ Follows rest ∧
    item (space ++ (print level v ++ rest)) = .ok (w, rest')

/-- A numeral character is no space and stands for itself behind a value. -/
theorem isNumeral_ne {c d : Char} (hc : isNumeral c = true) (hd : isNumeral d = false) : c ≠ d := by
  rintro rfl
  rw [hd] at hc
  cases hc

/-- A numeral is not skipped. -/
theorem skipSpace_numeral {c : Char} (h : isNumeral c = true) (more : Text) :
    skipSpace (c :: more) = c :: more := by
  refine skipSpace_cons ?_ more
  have hne : ∀ d : Char, isNumeral d = false → (c == d) = false := fun d hd => by
    simpa using isNumeral_ne h hd
  simp [isSpace, hne ' ' (by decide), hne '\n' (by decide), hne '\t' (by decide),
    hne '\r' (by decide)]

/-! ## Items -/

/-- No list goes on inside a numeral. -/
theorem moreItems_of_stops {item : Text → Reading Json} {steps : Nat} {rest rest' after : Text}
    {vs : List Json} (stops : Stops rest rest')
    (h : moreItems item steps rest' = .ok (vs, after)) : rest' = rest := by
  rcases stops with hrest | ⟨c, more, rfl, hc⟩
  · exact hrest
  · -- a character of a numeral is neither a comma nor a bracket
    exfalso
    cases steps with
    | zero => cases h
    | succ steps =>
      unfold moreItems at h
      rw [skipSpace_numeral hc] at h
      split at h
      · cases h
      · rename_i heq
        exact isNumeral_ne hc (by decide) (List.cons.inj heq).1
      · rename_i heq
        exact isNumeral_ne hc (by decide) (List.cons.inj heq).1
      · cases h

theorem moreItems_aligned {item : Text → Reading Json} {vs ws : List Json}
    (each : ∀ v ∈ vs, Aligned item v) (level below : Nat) {rest rest' : Text} {steps : Nat}
    (h : moreItems item steps (lineBreak vs.isEmpty ++ (printItems level vs ++
      (indentation below ++ ']' :: rest))) = .ok (ws, rest')) : rest' = rest := by
  induction vs generalizing steps ws with
  | nil =>
    have hskip : skipSpace (lineBreak true ++ (printItems level [] ++
        (indentation below ++ ']' :: rest))) = ']' :: rest := by
      rw [skipSpace_append (by decide), printItems, List.nil_append,
        skipSpace_append (isSpace_indentation below), skipSpace_cons (by decide)]
    cases steps with
    | zero => cases h
    | succ steps =>
      simp only [List.isEmpty_nil, moreItems, hskip] at h
      cases h
      rfl
  | cons v vs ih =>
    cases steps with
    | zero => cases h
    | succ steps =>
      obtain ⟨c, text, hprint, hspace, hclose⟩ := print_cons level v
      have hfollows := follows_lineBreak vs.isEmpty (printItems level vs ++
        (indentation below ++ ']' :: rest))
      rw [printItems_append] at h
      generalize hbehind : lineBreak vs.isEmpty ++ (printItems level vs ++
        (indentation below ++ ']' :: rest)) = behind at h hfollows
      have hcomma : skipSpace (lineBreak (v :: vs).isEmpty ++ (indentation level ++
          (print level v ++ behind))) =
          ',' :: '\n' :: (indentation level ++ (print level v ++ behind)) :=
        skipSpace_cons (by decide) _
      rw [moreItems, hcomma] at h
      simp only [skipSpace_print hprint hspace] at h
      split at h
      · cases h
      · cases h
      · split at h
        · cases h
        · rename_i w after hitem
          obtain ⟨⟨values, last⟩, hmore, heq⟩ := map_eq_ok h
          cases heq
          have hstops : Stops behind after := by
            refine each v (by simp) level [] behind w after (by simp) hfollows ?_
            rw [hprint]
            exact hitem
          -- the list was read on, so the item ended where it was printed to end
          rw [moreItems_of_stops hstops hmore, ← hbehind] at hmore
          exact ih (fun u hu => each u (by simp [hu])) hmore

/-- An array ends at its bracket, given that its items end where they were printed to. -/
theorem items_aligned {item : Text → Reading Json} {v : Json} {vs ws : List Json}
    (each : ∀ w ∈ v :: vs, Aligned item w) (level below : Nat) {rest rest' : Text}
    (h : items item ('\n' :: (printItems level (v :: vs) ++ (indentation below ++ ']' :: rest))) =
      .ok (ws, rest')) : rest' = rest := by
  obtain ⟨c, text, hprint, hspace, hclose⟩ := print_cons level v
  have hfollows := follows_lineBreak vs.isEmpty (printItems level vs ++
    (indentation below ++ ']' :: rest))
  rw [printItems_append] at h
  generalize hbehind : lineBreak vs.isEmpty ++ (printItems level vs ++
    (indentation below ++ ']' :: rest)) = behind at h hfollows
  rw [items, skipSpace_print hprint hspace] at h
  split at h
  · cases h
  · rename_i heq
    exact absurd (List.cons.inj heq).1 hclose
  · split at h
    · cases h
    · rename_i w after hitem
      obtain ⟨⟨values, last⟩, hmore, heq⟩ := map_eq_ok h
      cases heq
      have hstops : Stops behind after := by
        refine each v (by simp) level [] behind w after (by simp) hfollows ?_
        rw [hprint]
        exact hitem
      rw [moreItems_of_stops hstops hmore, ← hbehind] at hmore
      exact moreItems_aligned (fun u hu => each u (by simp [hu])) level below hmore

/-! ## Members -/

/-- No object goes on inside a numeral. -/
theorem moreMembers_of_stops {item : Text → Reading Json} {steps : Nat} {rest rest' after : Text}
    {ms : Members} (stops : Stops rest rest')
    (h : moreMembers item steps rest' = .ok (ms, after)) : rest' = rest := by
  rcases stops with hrest | ⟨c, more, rfl, hc⟩
  · exact hrest
  · exfalso
    cases steps with
    | zero => cases h
    | succ steps =>
      unfold moreMembers at h
      rw [skipSpace_numeral hc] at h
      split at h
      · cases h
      · rename_i heq
        exact isNumeral_ne hc (by decide) (List.cons.inj heq).1
      · rename_i heq
        exact isNumeral_ne hc (by decide) (List.cons.inj heq).1
      · cases h

/-- Members that were read for printed ones: the names are the same, and each value was read for
    the printed one. -/
abbrev MembersReadAs (item : Text → Reading Json) (members read : Members) : Prop :=
  List.Forall₂ (fun m r => r.1 = m.1 ∧ ReadAs item m.2 r.2) members read

/-- A member comes back by name. -/
theorem member_reread {item : Text → Reading Json} {v : Json} (h : Aligned item v)
    (level : Nat) (name : Text) {behind rest' : Text} (hbehind : Follows behind) {m : Text × Json}
    (hread : member item (name.flatMap escaped ++ '"' :: ':' ::
      ([' '] ++ (print level v ++ behind))) = .ok (m, rest')) :
    (m.1 = name ∧ ReadAs item v m.2) ∧ Stops behind rest' := by
  rw [member, string_quoted] at hread
  simp only [skipSpace_cons (show isSpace ':' = false by decide)] at hread
  obtain ⟨⟨w, last⟩, hitem, heq⟩ := map_eq_ok hread
  cases heq
  have hspace : ∀ c ∈ [' '], isSpace c = true := by decide
  exact ⟨⟨rfl, level, [' '], behind, last, hspace, hbehind, hitem⟩,
    h level [' '] behind w last hspace hbehind hitem⟩

theorem moreMembers_reread {item : Text → Reading Json} {ms read : Members}
    (each : ∀ m ∈ ms, Aligned item m.2) (level below : Nat) {rest rest' : Text} {steps : Nat}
    (h : moreMembers item steps (lineBreak ms.isEmpty ++ (printMembers level ms ++
      (indentation below ++ '\x7d' :: rest))) = .ok (read, rest')) :
    rest' = rest ∧ MembersReadAs item ms read := by
  induction ms generalizing steps read with
  | nil =>
    have hskip : skipSpace (lineBreak true ++ (printMembers level [] ++
        (indentation below ++ '\x7d' :: rest))) = '\x7d' :: rest := by
      rw [skipSpace_append (by decide), printMembers, List.nil_append,
        skipSpace_append (isSpace_indentation below), skipSpace_cons (by decide)]
    cases steps with
    | zero => cases h
    | succ steps =>
      simp only [List.isEmpty_nil, moreMembers, hskip] at h
      cases h
      exact ⟨rfl, .nil⟩
  | cons m ms ih =>
    obtain ⟨name, v⟩ := m
    cases steps with
    | zero => cases h
    | succ steps =>
      have hfollows := follows_lineBreak ms.isEmpty (printMembers level ms ++
        (indentation below ++ '\x7d' :: rest))
      rw [printMembers_append] at h
      generalize hbehind : lineBreak ms.isEmpty ++ (printMembers level ms ++
        (indentation below ++ '\x7d' :: rest)) = behind at h hfollows
      generalize htext : name.flatMap escaped ++ '"' :: ':' ::
        ([' '] ++ (print level v ++ behind)) = text at h
      have hcomma : skipSpace (lineBreak ((name, v) :: ms).isEmpty ++ (indentation level ++
          '"' :: text)) = ',' :: '\n' :: (indentation level ++ '"' :: text) :=
        skipSpace_cons (by decide) _
      rw [moreMembers, hcomma] at h
      simp only [skipSpace_quote] at h
      split at h
      · cases h
      · rename_i r after hmember
        obtain ⟨⟨values, last⟩, hmore, heq⟩ := map_eq_ok h
        cases heq
        rw [← htext] at hmember
        obtain ⟨hfirst, hstops⟩ :=
          member_reread (each (name, v) (by simp)) level name hfollows hmember
        rw [moreMembers_of_stops hstops hmore, ← hbehind] at hmore
        obtain ⟨hrest, hlater⟩ := ih (fun m hm => each m (by simp [hm])) hmore
        exact ⟨hrest, .cons hfirst hlater⟩

/-- **The members of an object come back by name, in their order.** -/
theorem membersRead_reread {item : Text → Reading Json} {m : Text × Json} {ms read : Members}
    (each : ∀ m' ∈ m :: ms, Aligned item m'.2) (level below : Nat) {rest rest' : Text}
    (h : membersRead item ('\n' :: (printMembers level (m :: ms) ++
      (indentation below ++ '\x7d' :: rest))) = .ok (read, rest')) :
    rest' = rest ∧ MembersReadAs item (m :: ms) read := by
  obtain ⟨name, v⟩ := m
  have hfollows := follows_lineBreak ms.isEmpty (printMembers level ms ++
    (indentation below ++ '\x7d' :: rest))
  rw [printMembers_append] at h
  generalize hbehind : lineBreak ms.isEmpty ++ (printMembers level ms ++
    (indentation below ++ '\x7d' :: rest)) = behind at h hfollows
  simp only [membersRead, skipSpace_quote] at h
  split at h
  · cases h
  · rename_i r after hmember
    obtain ⟨⟨values, last⟩, hmore, heq⟩ := map_eq_ok h
    cases heq
    obtain ⟨hfirst, hstops⟩ :=
      member_reread (each (name, v) (by simp)) level name hfollows hmember
    rw [moreMembers_of_stops hstops hmore, ← hbehind] at hmore
    obtain ⟨hrest, hlater⟩ := moreMembers_reread (fun m hm => each m (by simp [hm])) level below
      hmore
    exact ⟨hrest, .cons hfirst hlater⟩

/-! ## Values -/

/-- A printed number of either kind. -/
theorem valueWith_numeral {item : Option (Text → Reading Json)} {text rest rest' : Text} {w : Json}
    (htext : IsNumeral text) (hrest : Follows rest)
    (h : valueWith item (text ++ rest) = .ok (w, rest')) : Stops rest rest' := by
  obtain ⟨hne, hall⟩ := htext
  obtain ⟨c, text, rfl⟩ := List.exists_cons_of_ne_nil hne
  have hc : isNumeral c = true := hall c List.mem_cons_self
  have hnot : ∀ d : Char, isNumeral d = false → c ≠ d := fun d hd => isNumeral_ne hc hd
  rw [List.cons_append, valueWith, skipSpace_numeral hc] at h
  simp only [hnot 'n' (by decide), hnot 't' (by decide), hnot 'f' (by decide),
    hnot '"' (by decide), hnot '[' (by decide), hnot '\x7b' (by decide), if_false] at h
  split at h
  · exact Taken.stops hall hrest (.cons hc (taken_number h))
  · split at h
    · exact Taken.stops hall hrest (taken_number h)
    · cases h

/-- **What is answered for a printed value ends where the value does**: one level, case by case. -/
theorem valueWith_aligned {item : Option (Text → Reading Json)}
    (hitem : ∀ read ∈ item, ∀ v, Aligned read v) (v : Json) : Aligned (valueWith item) v := by
  intro level space rest w rest' hspace hrest h
  rw [valueWith_append hspace] at h
  cases v with
  | null =>
    have hnull : valueWith item (print level .null ++ rest) = .ok (.null, rest) := rfl
    rw [hnull] at h
    cases h
    exact .inl rfl
  | bool value =>
    have hbool : valueWith item (print level (.bool value) ++ rest) = .ok (.bool value, rest) := by
      cases value <;> rfl
    rw [hbool] at h
    cases h
    exact .inl rfl
  | whole i =>
    rw [print] at h
    exact valueWith_numeral (isNumeral_ofInt i) hrest h
  | double f =>
    cases f with
    | finite sign mantissa exponent =>
      rw [print] at h
      exact valueWith_numeral (isNumeral_write (by decide) sign mantissa exponent) hrest h
    | infinite sign => cases sign <;> cases h
    | nan => cases h
  | string text =>
    rw [valueWith_string] at h
    cases h
    exact .inl rfl
  | array items =>
    cases items with
    | nil =>
      cases item with
      | none => cases h
      | some item => cases h; exact .inl rfl
    | cons v vs =>
      have htext : print level (.array (v :: vs)) ++ rest = '[' :: '\n' ::
          (printItems (level + 1) (v :: vs) ++ (indentation level ++ ']' :: rest)) := by
        simp [print]
      rw [htext, valueWith, skipSpace_cons (by decide)] at h
      cases item with
      | none => cases h
      | some item =>
        obtain ⟨⟨values, last⟩, hitems, heq⟩ := map_eq_ok h
        cases heq
        exact .inl (items_aligned (fun w _ => hitem item rfl w) (level + 1) level hitems)
  | object members =>
    cases members with
    | nil =>
      cases item with
      | none => cases h
      | some item => cases h; exact .inl rfl
    | cons m ms =>
      have htext : print level (.object (m :: ms)) ++ rest = '\x7b' :: '\n' ::
          (printMembers (level + 1) (m :: ms) ++ (indentation level ++ '\x7d' :: rest)) := by
        simp [print]
      rw [htext, valueWith, skipSpace_cons (by decide)] at h
      cases item with
      | none => cases h
      | some item =>
        obtain ⟨⟨read, last⟩, hmembers, heq⟩ := map_eq_ok h
        cases heq
        exact .inl (membersRead_reread (fun m _ => hitem item rfl m.2) (level + 1) level
          hmembers).1

/-- **The reader stops where a printed value ends**, or inside a numeral. -/
theorem value_aligned (levels : Nat) (v : Json) : Aligned (Reader.value levels) v := by
  induction levels generalizing v with
  | zero => exact valueWith_aligned (by simp) v
  | succ n ih =>
    refine valueWith_aligned (fun read hread => ?_) v
    obtain rfl : Reader.value n = read := by simpa using hread
    exact ih

/-- A printed string is read as itself. -/
theorem ReadAs.string {levels : Nat} {text : Text} {w : Json}
    (h : ReadAs (Reader.value levels) (.string text) w) : w = .string text := by
  obtain ⟨level, space, rest, rest', hspace, hrest, h⟩ := h
  have hread : Reader.value levels (space ++ (print level (.string text) ++ rest)) =
      .ok (.string text, rest) := value_print (.string text) level space rest hspace hrest
  rw [hread] at h
  cases h
  rfl

/-- A printed object is read as an object with members of the same names. -/
theorem ReadAs.object {levels : Nat} {members : Members} {w : Json}
    (h : ReadAs (Reader.value levels) (.object members) w) :
    ∃ n read, w = objectOf read ∧ MembersReadAs (Reader.value n) members read := by
  obtain ⟨level, space, rest, rest', hspace, hrest, h⟩ := h
  cases levels with
  | zero =>
    rw [Reader.value, valueWith_append hspace] at h
    cases members <;> cases h
  | succ n =>
    rw [value_succ, valueWith_append hspace] at h
    cases members with
    | nil => cases h; exact ⟨n, [], rfl, .nil⟩
    | cons m ms =>
      have htext : print level (.object (m :: ms)) ++ rest = '\x7b' :: '\n' ::
          (printMembers (level + 1) (m :: ms) ++ (indentation level ++ '\x7d' :: rest)) := by
        simp [print]
      rw [htext, valueWith, skipSpace_cons (by decide)] at h
      obtain ⟨⟨read, last⟩, hmembers, heq⟩ := map_eq_ok h
      cases heq
      exact ⟨n, read, rfl, (membersRead_reread (fun m _ => value_aligned n m.2) (level + 1) level
        hmembers).2⟩

/-! ## Members, looked up -/

namespace MembersReadAs

variable {item : Text → Reading Json} {members read : Members}

/-- The names are those that were printed. -/
theorem names_eq (h : MembersReadAs item members read) :
    read.map Prod.fst = members.map Prod.fst := by
  induction h with
  | nil => rfl
  | cons hfirst _ ih => rw [List.map_cons, List.map_cons, hfirst.1, ih]

/-- What stands under a name was read for what was printed under it. -/
theorem get? (h : MembersReadAs item members read) {name : Text} {v : Json}
    (hget : Members.get? name members = some v) :
    ∃ w, Members.get? name read = some w ∧ ReadAs item v w := by
  induction h with
  | nil => cases hget
  | @cons m r _ _ hfirst _ ih =>
    obtain ⟨hname, hvalue⟩ := hfirst
    unfold Members.get? at hget ⊢
    rw [hname]
    split at hget
    · rename_i heq
      cases hget
      exact ⟨r.2, if_pos heq, hvalue⟩
    · rename_i hne
      rw [if_neg hne]
      exact ih hget

end MembersReadAs

/-- Members that were read for a printed object, where both have no two of one name. -/
theorem ReadAs.members {levels : Nat} {members members' : Members}
    (h : ReadAs (Reader.value levels) (.object members) (.object members'))
    (names : (members'.map Prod.fst).Nodup → (members.map Prod.fst).Nodup) :
    (members'.map Prod.fst).Nodup ∧ ∃ n, MembersReadAs (Reader.value n) members members' := by
  obtain ⟨n, read, heq, hread⟩ := h.object
  obtain ⟨left, hobject, hnodup, -⟩ := objectOf_eq read
  obtain rfl : members' = left := by
    rw [hobject] at heq
    cases heq
    rfl
  have hsame : objectOf read = .object read := by
    refine objectOf_of_nodup ?_
    rw [hread.names_eq]
    exact names hnodup
  rw [hsame] at heq
  cases heq
  exact ⟨hnodup, n, hread⟩

/-- What is read from the text of a value was read for the value as printed. -/
theorem readAs_of_read {v w : Json} (h : read (v.toText ++ ['\n']) = .ok w) :
    ReadAs (Reader.value mostLevels) v w := by
  unfold read at h
  split at h
  · cases h
  · rename_i answer rest hvalue
    split at h
    · cases h
      exact ⟨0, [], ['\n'], rest, by simp, ⟨[], .inr rfl⟩, hvalue⟩
    · cases h

end RouteLocalizer.Json

namespace RouteLocalizer.Manifest

open Json

/-- **A manifest that had to be changed gets another text**, whatever numbers stand in it: the text
    it had declares the dependency no more than the manifest does. -/
theorem toText_ne {m m' : Manifest} {text name version : Text} (parsed : parse text = .ok m)
    (declared : m.declare name version = .ok (m', true)) : m'.toText ≠ text := by
  rintro rfl
  obtain ⟨entries, hentries, rfl⟩ := eq_of_declare declared
  have hread := readAs_of_read (read_of_parse parsed)
  obtain ⟨-, n, hmembers⟩ := hread.members fun names => Members.nodup_set names _ _
  obtain ⟨w, hw, hsection⟩ := hmembers.get? (Members.get?_set_self _ _ _)
  obtain rfl : w = .object entries := by simpa [hw] using hentries
  obtain ⟨-, n', hnames⟩ := hsection.members fun names => Members.nodup_set names _ _
  obtain ⟨w', hw', hspecifier⟩ := hnames.get? (Members.get?_set_self _ _ _)
  obtain rfl := hspecifier.string
  -- so the dependency was declared already
  simp [declare, hentries, hw', string?] at declared

end RouteLocalizer.Manifest
