/-
  JSON is READ BACK as it was written: what the reader answers for a text, as long as all its
  numbers are whole, is printed as a text for which the reader answers the same.

  `Fits` says what the reader can answer: whole numbers within the machine words, objects without
  two members of one name, and no more levels than the reader goes down.  Each of these is what
  reading the printed text needs, so one induction on `Fits` gives the round trip.  Of the
  floating-point format it knows only minus zero, which is how the reader takes a `-0`.

  PROGRAM: `print` indents by two spaces and sets each item and member on a line of its own; the
  reader skips white space, and bounds the steps it takes by the length of the text.
  SPECIFICATION:
  (1) `number_ofNat`, `string_quoted` — numerals and strings are read back;
  (2) `moreItems_print`, `moreMembers_print` — so are lists of items and members, given that each
      of them is;
  (3) `value_print` — and so every value that fits, in front of a comma or a line end (`Follows`).

  The crux of (2) is that a list is printed from its second item on as it is read there: a comma or
  a line end, indentation, the item.
-/
import RouteLocalizer.Proofs.JsonNumerals

namespace RouteLocalizer.Json

open Text Reader Decimal

/-! ## What the reader can answer -/

/-- What a `-0` is read as: a number of the floating-point format. -/
abbrev minusZero : Json := .double (.finite true 0 Double.leastExponent)

/-- A value within the bounds of the reader, with at most the given levels and, minus zero apart,
    without a number of the floating-point format. -/
inductive Fits : (levels : Nat) → Json → Prop where
  | null {n : Nat} : Fits n .null
  | bool {n : Nat} (value : Bool) : Fits n (.bool value)
  | whole {n : Nat} {i : Int} (least : -(wordLimit : Int) ≤ 2 * i) (most : i < wordLimit) :
      Fits n (.whole i)
  | minusZero {n : Nat} : Fits n minusZero
  | string {n : Nat} (text : Text) : Fits n (.string text)
  | array {n : Nat} {items : List Json} (each : ∀ v ∈ items, Fits n v) : Fits (n + 1) (.array items)
  | object {n : Nat} {members : Members} (names : (members.map Prod.fst).Nodup)
      (each : ∀ m ∈ members, Fits n m.2) : Fits (n + 1) (.object members)

/-! ## Digits -/

/-- The number that digits stand for, behind a number. -/
def valueOf (significand : Nat) (digits : Text) : Nat :=
  digits.foldl (fun n c => 10 * n + digitValue c) significand

theorem le_valueOf (significand : Nat) (digits : Text) :
    significand ≤ valueOf significand digits := by
  induction digits generalizing significand with
  | nil => exact Nat.le_refl _
  | cons d ds ih => exact Nat.le_trans (by omega) (ih (10 * significand + digitValue d))

/-- Digits of a number that fits are all taken. -/
theorem accumulate_eq {significand : Nat} {digits : Text}
    (h : valueOf significand digits < wordLimit) :
    accumulate significand digits = (valueOf significand digits, []) := by
  induction digits generalizing significand with
  | nil => rfl
  | cons d ds ih =>
    have hnext : 10 * significand + digitValue d < wordLimit :=
      Nat.lt_of_le_of_lt (le_valueOf _ ds) h
    rw [accumulate, if_pos hnext]
    exact ih h

/-- Accumulating digits stops before the machine word is left. -/
theorem accumulate_lt {significand : Nat} (h : significand < wordLimit) (digits : Text) :
    (accumulate significand digits).1 < wordLimit := by
  induction digits generalizing significand with
  | nil => exact h
  | cons d ds ih =>
    rw [accumulate]
    split
    · exact ih ‹_›
    · exact h

/-- The digits of a number stand for it. -/
theorem valueOf_ofNat (n : Nat) : valueOf 0 (ofNat n) = n := by
  induction n using Nat.strongRecOn with
  | ind n ih =>
  have hdigit : ∀ d < 10, digitValue (Nat.digitChar d) = d := by decide
  unfold ofNat at ih ⊢
  rw [Nat.toDigits_eq_if (by decide)]
  split
  · rename_i hn
    simp [valueOf, hdigit n hn]
  · rw [valueOf, List.foldl_append, List.foldl_cons, List.foldl_nil]
    have := ih (n / 10) (by omega)
    unfold valueOf at this
    rw [this, hdigit _ (Nat.mod_lt n (by decide))]
    omega

/-- A number has no zero in front. -/
theorem ofNat_cons (n : Nat) : ∃ d ds, ofNat n = d :: ds ∧ (d = '0' → n = 0) := by
  induction n using Nat.strongRecOn with
  | ind n ih =>
  unfold ofNat at ih ⊢
  rw [Nat.toDigits_eq_if (by decide)]
  split
  · exact ⟨_, [], rfl, Nat.digitChar_eq_zero.mp⟩
  · rename_i hn
    obtain ⟨d, ds, hds, hzero⟩ := ih (n / 10) (by omega)
    refine ⟨d, ds ++ [(n % 10).digitChar], by rw [hds]; rfl, fun hd => ?_⟩
    have := hzero hd
    omega

/-! ## Numbers -/

/-- What stands behind a value in a printed text: a comma or a line end. -/
def Follows (rest : Text) : Prop := ∃ more, rest = ',' :: more ∨ rest = '\n' :: more

/-- **A number within the machine words is read back**, by its digits. -/
theorem number_ofNat (negative : Bool) {n : Nat} (hn : n < wordLimit) {rest : Text}
    (hrest : Follows rest) :
    number negative (ofNat n ++ rest) = .ok (wholeOrDouble negative n, rest) := by
  obtain ⟨d, ds, hdigits, hzero⟩ := ofNat_cons n
  have hd : d.isDigit = true := isDigit_of_mem_ofNat (by rw [hdigits]; simp)
  have hhead : rest.head?.any Char.isDigit = false := by
    obtain ⟨more, rfl | rfl⟩ := hrest <;> rfl
  have htake : (ofNat n ++ rest).takeWhile Char.isDigit = ofNat n := by
    rw [List.takeWhile_append_of_pos fun c hc => isDigit_of_mem_ofNat hc]
    obtain ⟨more, rfl | rfl⟩ := hrest <;> simp
  have hdrop : (ofNat n ++ rest).dropWhile Char.isDigit = rest := by
    rw [List.dropWhile_append_of_pos fun c hc => isDigit_of_mem_ofNat hc]
    obtain ⟨more, rfl | rfl⟩ := hrest <;> simp
  have hlead : ¬ (d = '0' ∧ (ds ++ rest).head?.any Char.isDigit = true) := by
    rintro ⟨hd, hany⟩
    obtain rfl : ds = [] := by
      rw [hzero hd] at hdigits
      exact (List.cons.inj hdigits).2.symm
    rw [List.nil_append, hhead] at hany
    cases hany
  have hwhole : wholeRest negative (ofNat n) rest = .ok (wholeOrDouble negative n, rest) := by
    have hvalue : accumulate 0 (ofNat n) = (n, []) := by
      rw [accumulate_eq (by rwa [valueOf_ofNat]), valueOf_ofNat]
    obtain ⟨more, rfl | rfl⟩ := hrest <;> simp [wholeRest, hvalue]
  have htext : ofNat n ++ rest = d :: (ds ++ rest) := by rw [hdigits]; rfl
  rw [htext] at htake hdrop ⊢
  rw [number, if_neg (by simp [hd]), if_neg hlead, htake, hdrop, hwhole]

/-- The whole numbers that fit are read as they are printed. -/
theorem valueWith_ofInt (item : Option (Text → Reading Json)) {i : Int}
    (least : -(wordLimit : Int) ≤ 2 * i) (most : i < wordLimit) {rest : Text}
    (hrest : Follows rest) : valueWith item (ofInt i ++ rest) = .ok (.whole i, rest) := by
  by_cases hi : i < 0
  · have hn : i.natAbs < wordLimit := by unfold wordLimit at *; omega
    have hvalue : wholeOrDouble true i.natAbs = .whole i := by
      have hbound : 0 < i.natAbs ∧ 2 * i.natAbs ≤ wordLimit := by omega
      rw [wholeOrDouble, if_neg (by simp), if_pos hbound]
      congr 1
      omega
    rw [ofInt, if_pos hi, List.cons_append, valueWith, skipSpace]
    simp [isSpace, number_ofNat true hn hrest, hvalue]
  · have hn : i.natAbs < wordLimit := by omega
    obtain ⟨d, ds, hdigits, -⟩ := ofNat_cons i.natAbs
    have hd : d.isDigit = true := isDigit_of_mem_ofNat (by rw [hdigits]; simp)
    have hvalue : wholeOrDouble false i.natAbs = .whole i := by
      rw [wholeOrDouble, if_pos (by simp)]
      congr 1
      omega
    have hne : ∀ c : Char, c.isDigit = false → d ≠ c := fun c hc heq => by
      rw [heq, hc] at hd
      cases hd
    have hspace : isSpace d = false := by
      simp [isSpace, hne]
    have htext : ofNat i.natAbs ++ rest = d :: (ds ++ rest) := by rw [hdigits]; rfl
    rw [ofInt, if_neg hi]
    have hnumber := number_ofNat false hn hrest
    rw [htext] at hnumber ⊢
    rw [valueWith, skipSpace, List.dropWhile_cons_of_neg (by simp [hspace])]
    simp [hne, hd, hnumber, hvalue]

/-- The mantissa of a printed minus zero. -/
theorem scaled_zero : scaled 0 (-1) = some (.finite false 0 Double.leastExponent) := by
  have hpower : powerOfTen 1 = .finite false 5629499534213120 (-49) := by decide
  have hdown : scaleDown (Double.nearest false 0 1) 1 =
      (Double.nearest false 0 1).dividedBy (powerOfTen 1) := by
    rw [scaleDown, if_pos (by decide)]
  show some (scaleDown (Double.nearest false 0 1) 1) = _
  rw [hdown, hpower]
  decide

/-- Minus zero is read as it is printed, with a fraction. -/
theorem valueWith_minusZero (item : Option (Text → Reading Json)) (level : Nat) {rest : Text}
    (hrest : Follows rest) :
    valueWith item (print level minusZero ++ rest) = .ok (minusZero, rest) := by
  have htext : print level minusZero ++ rest = '-' :: '0' :: '.' :: '0' :: rest := by
    rw [minusZero, print]
    rfl
  have hfraction : fraction true 0 (-1) rest = .ok (minusZero, rest) := by
    rw [fraction, scaled_zero]
    rfl
  have hnumber : number true ('0' :: '.' :: '0' :: rest) = .ok (minusZero, rest) := by
    obtain ⟨more, rfl | rfl⟩ := hrest <;> exact hfraction
  rw [htext, valueWith, skipSpace, List.dropWhile_cons_of_neg (by decide)]
  exact hnumber

/-! ## Strings -/

theorem escaped_length (c : Char) : 0 < (escaped c).length := by
  unfold escaped
  repeat' split
  all_goals simp

/-- The escape of a control character is read back. -/
theorem hexUnit_hexDigit {n : Nat} (hn : n < 0x20) (rest : Text) :
    hexUnit ('0' :: '0' :: hexDigit (n / 16) :: hexDigit (n % 16) :: rest) = .ok (n, rest) := by
  have hnumber : ∀ n < 0x20,
      hexNumber ['0', '0', hexDigit (n / 16), hexDigit (n % 16)] = some n := by
    decide
  have hsize : ¬ byteSize ('0' :: '0' :: hexDigit (n / 16) :: hexDigit (n % 16) :: rest) < 4 := by
    have := Char.utf8Size_pos (hexDigit (n / 16))
    have := Char.utf8Size_pos (hexDigit (n % 16))
    have : Char.utf8Size '0' = 1 := by decide
    simp only [byteSize_cons]
    omega
  rw [hexUnit, if_neg hsize]
  simp [hnumber n hn]

/-- A character is read as it is escaped. -/
theorem stringBody_escaped (c : Char) (steps : Nat) (rest : Text) :
    stringBody (steps + 1) (escaped c ++ rest) =
      (stringBody steps rest).map fun (text, rest) => (c :: text, rest) := by
  unfold escaped
  split
  · simp_all [stringBody, escape, shortEscape]
  split
  · simp_all [stringBody, escape, shortEscape]
  split
  · simp_all [stringBody, escape, shortEscape]
  split
  · simp_all [stringBody, escape, shortEscape]
  split
  · simp_all [stringBody, escape, shortEscape]
  split
  · simp_all [stringBody, escape, shortEscape]
  split
  · simp_all [stringBody, escape, shortEscape]
  split
  · rename_i hcode
    have hplain : ¬ (0xDC00 ≤ c.toNat ∧ c.toNat ≤ 0xDFFF) ∧
        ¬ (0xD800 ≤ c.toNat ∧ c.toNat ≤ 0xDBFF) := by omega
    have hescape : escape ('u' :: '0' :: '0' :: hexDigit (c.toNat / 16) ::
        hexDigit (c.toNat % 16) :: rest) = .ok (c, rest) := by
      rw [escape, codeEscape, hexUnit_hexDigit hcode]
      simp only [hplain, if_false, Char.ofNat_toNat]
    simp [stringBody, hescape]
  · rename_i hquote hslash _ _ _ _ _ hcode
    rw [List.singleton_append, stringBody, if_neg hquote, if_neg hslash, if_neg hcode]

/-- **A string is read as it is printed.** -/
theorem stringBody_quoted (text rest : Text) {steps : Nat} (h : text.length < steps) :
    stringBody steps (text.flatMap escaped ++ '"' :: rest) = .ok (text, rest) := by
  induction text generalizing steps with
  | nil =>
    obtain ⟨n, rfl⟩ := Nat.exists_eq_succ_of_ne_zero (Nat.ne_of_gt h)
    simp [stringBody]
  | cons c text ih =>
    obtain ⟨n, rfl⟩ := Nat.exists_eq_succ_of_ne_zero (Nat.ne_of_gt (Nat.zero_lt_of_lt h))
    rw [List.flatMap_cons, List.append_assoc, Nat.succ_eq_add_one, stringBody_escaped,
      ih (by simpa using h)]
    rfl

/-- **A string is read back**, by its characters, each escaped where it has to be. -/
theorem string_quoted (text rest : Text) :
    Reader.string (text.flatMap escaped ++ '"' :: rest) = .ok (text, rest) := by
  refine stringBody_quoted text rest ?_
  have : text.length ≤ (text.flatMap escaped).length := by
    induction text with
    | nil => simp
    | cons c text ih =>
      have := escaped_length c
      simp only [List.length_cons, List.flatMap_cons, List.length_append]
      omega
  simp only [List.length_append, List.length_cons]
  omega

/-! ## Lists of items and members -/

/-- White space in front is skipped. -/
theorem skipSpace_append {space : Text} (h : ∀ c ∈ space, isSpace c = true) (text : Text) :
    skipSpace (space ++ text) = skipSpace text := by
  rw [skipSpace, List.dropWhile_append_of_pos h, skipSpace]

theorem skipSpace_cons {c : Char} (h : isSpace c = false) (text : Text) :
    skipSpace (c :: text) = c :: text := by
  rw [skipSpace, List.dropWhile_cons_of_neg (by simp [h])]

/-- Indentation is white space. -/
theorem isSpace_indentation (level : Nat) : ∀ c ∈ indentation level, isSpace c = true := by
  intro c hc
  rw [(List.mem_replicate.mp hc).2]
  rfl

/-- A text of numeral characters starts with no space and closes nothing. -/
theorem IsNumeral.eq_cons {text : Text} (h : IsNumeral text) :
    ∃ c rest, text = c :: rest ∧ isSpace c = false ∧ c ≠ ']' := by
  obtain ⟨hne, hall⟩ := h
  obtain ⟨c, rest, rfl⟩ := List.exists_cons_of_ne_nil hne
  have hc : isNumeral c = true := hall c List.mem_cons_self
  have hother : ∀ d : Char, isNumeral d = false → c ≠ d := fun d hd heq => by
    rw [heq, hd] at hc
    cases hc
  exact ⟨c, rest, rfl, by simp [isSpace, hother ' ' (by decide), hother '\n' (by decide),
    hother '\t' (by decide), hother '\r' (by decide)], hother _ (by decide)⟩

/-- A printed value starts with a character that is no space and closes nothing. -/
theorem print_cons (level : Nat) (v : Json) :
    ∃ c rest, print level v = c :: rest ∧ isSpace c = false ∧ c ≠ ']' := by
  cases v with
  | null => exact ⟨'n', _, rfl, by decide, by decide⟩
  | bool value =>
    cases value with
    | true => exact ⟨'t', _, rfl, by decide, by decide⟩
    | false => exact ⟨'f', _, rfl, by decide, by decide⟩
  | whole i => rw [print]; exact (isNumeral_ofInt i).eq_cons
  | double f =>
    rw [print]
    cases f with
    | finite sign mantissa exponent =>
      exact (isNumeral_write (by decide) sign mantissa exponent).eq_cons
    | infinite sign =>
      cases sign with
      | true => exact ⟨'-', _, rfl, by decide, by decide⟩
      | false => exact ⟨'i', _, rfl, by decide, by decide⟩
    | nan => exact ⟨'N', _, rfl, by decide, by decide⟩
  | string text => exact ⟨'"', _, by rw [print, quoted]; rfl, by decide, by decide⟩
  | array items =>
    cases items with
    | nil => exact ⟨'[', _, rfl, by decide, by decide⟩
    | cons v vs => exact ⟨'[', _, by rw [print]; rfl, by decide, by decide⟩
  | object members =>
    cases members with
    | nil => exact ⟨'\x7b', _, rfl, by decide, by decide⟩
    | cons m ms => exact ⟨'\x7b', _, by rw [print]; rfl, by decide, by decide⟩

/-- A reader that reads a value as it is printed. -/
def ReadsBack (item : Text → Reading Json) (v : Json) : Prop :=
  ∀ level space rest, (∀ c ∈ space, isSpace c = true) → Follows rest →
    item (space ++ (print level v ++ rest)) = .ok (v, rest)

/-- Behind an item stands a comma or a line end, which can follow any value. -/
theorem follows_lineBreak (isLast : Bool) (rest : Text) : Follows (lineBreak isLast ++ rest) := by
  cases isLast with
  | true => exact ⟨rest, .inr rfl⟩
  | false => exact ⟨'\n' :: rest, .inl rfl⟩

/-- The first item is printed in front of the others. -/
theorem printItems_append (level : Nat) (v : Json) (vs : List Json) (tail : Text) :
    printItems level (v :: vs) ++ tail = indentation level ++ (print level v ++
      (lineBreak vs.isEmpty ++ (printItems level vs ++ tail))) := by
  simp [printItems]

/-- The first item behind a line end is reached over the indentation. -/
theorem skipSpace_print {level : Nat} {v : Json} {c : Char} {text : Text}
    (hprint : print level v = c :: text) (hspace : isSpace c = false) (behind : Text) :
    skipSpace ('\n' :: (indentation level ++ (print level v ++ behind))) =
      c :: (text ++ behind) := by
  have hspaces : ∀ c ∈ '\n' :: indentation level, isSpace c = true := by
    simpa [isSpace] using isSpace_indentation level
  rw [← List.cons_append, skipSpace_append hspaces, hprint, List.cons_append, skipSpace_cons hspace]

/-- **The items of an array are read back**, given that each of them is. -/
theorem moreItems_print {item : Text → Reading Json} {vs : List Json}
    (each : ∀ v ∈ vs, ReadsBack item v) (level below : Nat) (rest : Text)
    {steps : Nat} (h : vs.length < steps) :
    moreItems item steps (lineBreak vs.isEmpty ++ (printItems level vs ++
      (indentation below ++ ']' :: rest))) = .ok (vs, rest) := by
  induction vs generalizing steps with
  | nil =>
    obtain ⟨k, rfl⟩ := Nat.exists_eq_succ_of_ne_zero (Nat.ne_of_gt h)
    have hskip : skipSpace (lineBreak true ++ (printItems level [] ++
        (indentation below ++ ']' :: rest))) = ']' :: rest := by
      rw [skipSpace_append (by decide), printItems, List.nil_append,
        skipSpace_append (isSpace_indentation below), skipSpace_cons (by decide)]
    simp only [List.isEmpty_nil, moreItems, hskip]
  | cons v vs ih =>
    obtain ⟨k, rfl⟩ := Nat.exists_eq_succ_of_ne_zero (Nat.ne_of_gt (Nat.zero_lt_of_lt h))
    have hreads := each v (by simp)
    obtain ⟨c, text, hprint, hspace, hclose⟩ := print_cons level v
    have later := ih (fun w hw => each w (by simp [hw])) (Nat.lt_of_succ_lt_succ h)
    have hfollows := follows_lineBreak vs.isEmpty (printItems level vs ++
      (indentation below ++ ']' :: rest))
    rw [printItems_append]
    generalize lineBreak vs.isEmpty ++ (printItems level vs ++
      (indentation below ++ ']' :: rest)) = behind at *
    have hitem : item (c :: (text ++ behind)) = .ok (v, behind) := by
      have := hreads level [] behind (by simp) hfollows
      rwa [hprint] at this
    have hcomma : skipSpace (lineBreak (v :: vs).isEmpty ++ (indentation level ++
        (print level v ++ behind))) =
        ',' :: '\n' :: (indentation level ++ (print level v ++ behind)) :=
      skipSpace_cons (by decide) _
    rw [Nat.succ_eq_add_one, moreItems, hcomma]
    simp only [skipSpace_print hprint hspace]
    split
    · rename_i heq
      cases heq
    · rename_i heq
      exact absurd (List.cons.inj heq).1 hclose
    · rw [hitem]
      simp only [later]
      rfl

theorem lineBreak_length (isLast : Bool) : 0 < (lineBreak isLast).length := by
  cases isLast <;> decide

/-- There are no more items than characters, so the reader has steps enough. -/
theorem length_printItems (level : Nat) (vs : List Json) :
    vs.length ≤ (printItems level vs).length := by
  induction vs with
  | nil => simp
  | cons v vs ih =>
    have := lineBreak_length vs.isEmpty
    have := congrArg List.length (printItems_append level v vs [])
    simp only [List.length_append, List.length_nil, List.length_cons] at this ⊢
    omega

/-- **The items of an array are read as they are printed.** -/
theorem items_print {item : Text → Reading Json} {v : Json} {vs : List Json}
    (each : ∀ w ∈ v :: vs, ReadsBack item w) (level below : Nat) (rest : Text) :
    items item ('\n' :: (printItems level (v :: vs) ++ (indentation below ++ ']' :: rest))) =
      .ok (v :: vs, rest) := by
  have hreads := each v (by simp)
  obtain ⟨c, text, hprint, hspace, hclose⟩ := print_cons level v
  rw [printItems_append]
  have hsteps : vs.length < (lineBreak vs.isEmpty ++ (printItems level vs ++
      (indentation below ++ ']' :: rest))).length + 1 := by
    have := length_printItems level vs
    simp only [List.length_append]
    omega
  have later := moreItems_print (fun w hw => each w (by simp [hw])) level below rest hsteps
  have hfollows := follows_lineBreak vs.isEmpty (printItems level vs ++
    (indentation below ++ ']' :: rest))
  generalize lineBreak vs.isEmpty ++ (printItems level vs ++
    (indentation below ++ ']' :: rest)) = behind at *
  have hitem : item (c :: (text ++ behind)) = .ok (v, behind) := by
    have := hreads level [] behind (by simp) hfollows
    rwa [hprint] at this
  rw [items, skipSpace_print hprint hspace]
  split
  · rename_i heq
    cases heq
  · rename_i heq
    exact absurd (List.cons.inj heq).1 hclose
  · rw [hitem]
    simp only [later]
    rfl

/-- The first member is printed in front of the others, its name in quotes and a colon behind it. -/
theorem printMembers_append (level : Nat) (name : Text) (v : Json) (ms : Members) (tail : Text) :
    printMembers level ((name, v) :: ms) ++ tail = indentation level ++
      '"' :: (name.flatMap escaped ++ '"' :: ':' :: ([' '] ++ (print level v ++
        (lineBreak ms.isEmpty ++ (printMembers level ms ++ tail))))) := by
  simp [printMembers, quoted]

theorem length_printMembers (level : Nat) (ms : Members) :
    ms.length ≤ (printMembers level ms).length := by
  induction ms with
  | nil => simp
  | cons m ms ih =>
    obtain ⟨name, v⟩ := m
    have := congrArg List.length (printMembers_append level name v ms [])
    simp only [List.length_append, List.length_nil, List.length_cons] at this ⊢
    omega

/-- The quote of the first member behind a line end is reached over the indentation. -/
theorem skipSpace_quote (level : Nat) (behind : Text) :
    skipSpace ('\n' :: (indentation level ++ '"' :: behind)) = '"' :: behind := by
  have hspaces : ∀ c ∈ '\n' :: indentation level, isSpace c = true := by
    simpa [isSpace] using isSpace_indentation level
  rw [← List.cons_append, skipSpace_append hspaces, skipSpace_cons (by decide)]

/-- A member is read back, given that its value is. -/
theorem member_print {item : Text → Reading Json} {v : Json} (h : ReadsBack item v) (level : Nat)
    (name : Text) {behind : Text} (hbehind : Follows behind) :
    member item (name.flatMap escaped ++ '"' :: ':' :: ([' '] ++ (print level v ++ behind))) =
      .ok ((name, v), behind) := by
  have hvalue := h level [' '] behind (by decide) hbehind
  rw [member, string_quoted]
  simp only [skipSpace_cons (show isSpace ':' = false by decide), hvalue]
  rfl

/-- **The members of an object are read back**, given that each of them is. -/
theorem moreMembers_print {item : Text → Reading Json} {ms : Members}
    (each : ∀ m ∈ ms, ReadsBack item m.2) (level below : Nat) (rest : Text) {steps : Nat}
    (h : ms.length < steps) :
    moreMembers item steps (lineBreak ms.isEmpty ++ (printMembers level ms ++
      (indentation below ++ '\x7d' :: rest))) = .ok (ms, rest) := by
  induction ms generalizing steps with
  | nil =>
    obtain ⟨k, rfl⟩ := Nat.exists_eq_succ_of_ne_zero (Nat.ne_of_gt h)
    have hskip : skipSpace (lineBreak true ++ (printMembers level [] ++
        (indentation below ++ '\x7d' :: rest))) = '\x7d' :: rest := by
      rw [skipSpace_append (by decide), printMembers, List.nil_append,
        skipSpace_append (isSpace_indentation below), skipSpace_cons (by decide)]
    simp only [List.isEmpty_nil, moreMembers, hskip]
  | cons m ms ih =>
    obtain ⟨name, v⟩ := m
    obtain ⟨k, rfl⟩ := Nat.exists_eq_succ_of_ne_zero (Nat.ne_of_gt (Nat.zero_lt_of_lt h))
    have later := ih (fun m hm => each m (by simp [hm])) (Nat.lt_of_succ_lt_succ h)
    have hmember := member_print (each (name, v) (by simp)) level name
      (follows_lineBreak ms.isEmpty (printMembers level ms ++
        (indentation below ++ '\x7d' :: rest)))
    rw [printMembers_append]
    generalize lineBreak ms.isEmpty ++ (printMembers level ms ++
      (indentation below ++ '\x7d' :: rest)) = behind at *
    generalize name.flatMap escaped ++ '"' :: ':' :: ([' '] ++ (print level v ++ behind)) = text
      at *
    have hcomma : skipSpace (lineBreak ((name, v) :: ms).isEmpty ++ (indentation level ++
        '"' :: text)) = ',' :: '\n' :: (indentation level ++ '"' :: text) :=
      skipSpace_cons (by decide) _
    rw [Nat.succ_eq_add_one, moreMembers, hcomma]
    simp only [skipSpace_quote, hmember, later]
    rfl

/-- **The members of an object are read as they are printed.** -/
theorem membersRead_print {item : Text → Reading Json} {m : Text × Json} {ms : Members}
    (each : ∀ m' ∈ m :: ms, ReadsBack item m'.2) (level below : Nat) (rest : Text) :
    membersRead item ('\n' :: (printMembers level (m :: ms) ++
      (indentation below ++ '\x7d' :: rest))) = .ok (m :: ms, rest) := by
  obtain ⟨name, v⟩ := m
  have hsteps : ms.length < (lineBreak ms.isEmpty ++ (printMembers level ms ++
      (indentation below ++ '\x7d' :: rest))).length + 1 := by
    have := length_printMembers level ms
    simp only [List.length_append]
    omega
  have later := moreMembers_print (fun m hm => each m (by simp [hm])) level below rest hsteps
  have hmember := member_print (each (name, v) (by simp)) level name
    (follows_lineBreak ms.isEmpty (printMembers level ms ++ (indentation below ++ '\x7d' :: rest)))
  rw [printMembers_append]
  generalize lineBreak ms.isEmpty ++ (printMembers level ms ++
    (indentation below ++ '\x7d' :: rest)) = behind at *
  simp only [membersRead, skipSpace_quote, hmember, later]
  rfl

/-- A member of a new name goes to the end. -/
theorem Members.set_of_not_mem {name : Text} {members : Members}
    (h : name ∉ members.map Prod.fst) (value : Json) :
    Members.set name value members = members ++ [(name, value)] := by
  induction members with
  | nil => rfl
  | cons m members ih =>
    obtain ⟨n, v⟩ := m
    simp only [List.map_cons, List.mem_cons, not_or] at h
    rw [Members.set, if_neg (Ne.symm h.1), ih h.2, List.cons_append]

/-- Members without two of one name are the object that they were read from. -/
theorem objectOf_of_nodup {members : Members} (h : (members.map Prod.fst).Nodup) :
    objectOf members = .object members := by
  have hfold : ∀ acc : Members, ((acc ++ members).map Prod.fst).Nodup →
      members.foldl (fun acc m => Members.set m.1 m.2 acc) acc = acc ++ members := by
    clear h
    induction members with
    | nil => simp
    | cons m members ih =>
      intro acc hacc
      have hm : m.1 ∉ acc.map Prod.fst := by
        rw [List.map_append, List.map_cons, List.nodup_append] at hacc
        exact fun hmem => hacc.2.2 m.1 hmem m.1 (by simp) rfl
      rw [List.foldl_cons, Members.set_of_not_mem hm]
      have hacc' : ((acc ++ [(m.1, m.2)] ++ members).map Prod.fst).Nodup := by simpa using hacc
      rw [ih _ hacc']
      simp
  rw [objectOf, hfold [] h, List.nil_append]

/-! ## The round trip -/

theorem value_succ (levels : Nat) :
    Reader.value (levels + 1) = valueWith (some (Reader.value levels)) := rfl

/-- White space in front of a value does not matter. -/
theorem valueWith_append {space : Text} (h : ∀ c ∈ space, isSpace c = true)
    (item : Option (Text → Reading Json)) (text : Text) :
    valueWith item (space ++ text) = valueWith item text := by
  rw [valueWith, skipSpace_append h, valueWith]

theorem valueWith_string (item : Option (Text → Reading Json)) (level : Nat) (text rest : Text) :
    valueWith item (print level (.string text) ++ rest) = .ok (.string text, rest) := by
  have htext : print level (.string text) ++ rest =
      '"' :: (text.flatMap escaped ++ '"' :: rest) := by simp [print, quoted]
  rw [htext, valueWith, skipSpace_cons (by decide)]
  simp [string_quoted, Except.map]

/-- **What fits is read as it is printed.** -/
theorem value_print {levels : Nat} {v : Json} (h : Fits levels v) :
    ReadsBack (Reader.value levels) v := by
  have hvalue : ∀ levels, ∃ item, Reader.value levels = valueWith item := fun levels => by
    cases levels <;> exact ⟨_, rfl⟩
  induction h with
  | @null n =>
    intro level space rest hspace _
    obtain ⟨item, hitem⟩ := hvalue n
    rw [hitem, valueWith_append hspace]
    rfl
  | @bool n value =>
    intro level space rest hspace _
    obtain ⟨item, hitem⟩ := hvalue n
    rw [hitem, valueWith_append hspace]
    cases value <;> rfl
  | @whole n i least most =>
    intro level space rest hspace hrest
    obtain ⟨item, hitem⟩ := hvalue n
    rw [hitem, valueWith_append hspace, print]
    exact valueWith_ofInt item least most hrest
  | @minusZero n =>
    intro level space rest hspace hrest
    obtain ⟨item, hitem⟩ := hvalue n
    rw [hitem, valueWith_append hspace]
    exact valueWith_minusZero item level hrest
  | @string n text =>
    intro level space rest hspace _
    obtain ⟨item, hitem⟩ := hvalue n
    rw [hitem, valueWith_append hspace, valueWith_string]
  | @array n items each ih =>
    intro level space rest hspace _
    rw [value_succ, valueWith_append hspace]
    cases items with
    | nil => rfl
    | cons v vs =>
      have hitems := items_print ih (level + 1) level rest
      have htext : print level (.array (v :: vs)) ++ rest = '[' :: '\n' ::
          (printItems (level + 1) (v :: vs) ++ (indentation level ++ ']' :: rest)) := by
        simp [print]
      rw [htext, valueWith, skipSpace_cons (by decide)]
      simp [hitems, Except.map]
  | @object n members names each ih =>
    intro level space rest hspace _
    rw [value_succ, valueWith_append hspace]
    cases members with
    | nil => rfl
    | cons m ms =>
      have hmembers := membersRead_print ih (level + 1) level rest
      have htext : print level (.object (m :: ms)) ++ rest = '\x7b' :: '\n' ::
          (printMembers (level + 1) (m :: ms) ++ (indentation level ++ '\x7d' :: rest)) := by
        simp [print]
      rw [htext, valueWith, skipSpace_cons (by decide)]
      simp [hmembers, Except.map, objectOf_of_nodup names]

/-- **A text that was written is read back.** -/
theorem read_toText {v : Json} (h : Fits mostLevels v) : read (v.toText ++ ['\n']) = .ok v := by
  have := value_print h 0 [] ['\n'] (by simp) ⟨[], .inr rfl⟩
  rw [List.nil_append] at this
  rw [read, toText, this]
  rfl

end RouteLocalizer.Json
