/-
  What READING answers is within the reader's bounds, as long as all its numbers are whole.

  `Fits levels` is what a value needs for being printed and read again: whole numbers of the machine
  words, no two members of one name, and arrays and objects no deeper than the levels.

  PROGRAM: `Reader.value` reads a value; arrays and objects hand their items to the reader of one
  level less, members of one name replace each other, and `Members.set` is what the editing of a
  manifest writes with.
  SPECIFICATION:
  (1) `read_fits` — a value that was read fits, unless it holds a number that is no whole one;
  (2) `Fits.set` — an object into which a value that fits is written still fits.

  The crux of (1) is that the bounds are those of the READER: its levels run down as arrays and
  objects nest (`value_fits` is an induction on them), what it takes for a whole number is below
  `wordLimit` (`number_fits`), and an object is built by writing its members one by one
  (`objectOf_eq`), so `Members.set` gives both (1) and (2) an object without a name written twice.
  Numbers of the floating-point format are set aside throughout (`AllWhole`); minus zero is the one
  of them that is a whole number.
-/
import RouteLocalizer.Proofs.JsonText

namespace RouteLocalizer.Json

open Text Reader

/-! ## Numbers of the floating-point format -/

mutual

/-- Whether a value is a number of the floating-point format, or holds one somewhere. -/
def holdsDouble : Json → Bool
  | .double _ => true
  | .array items => anyHoldsDouble items
  | .object members => memberHoldsDouble members
  | _ => false

/-- Whether an item holds a number of the floating-point format. -/
def anyHoldsDouble : List Json → Bool
  | [] => false
  | v :: vs => holdsDouble v || anyHoldsDouble vs

/-- Whether a member holds a number of the floating-point format. -/
def memberHoldsDouble : List (Text × Json) → Bool
  | [] => false
  | (_, v) :: ms => holdsDouble v || memberHoldsDouble ms

end

/-- No item of an array without such a number holds one. -/
theorem holdsDouble_of_mem {items : List Json} (h : anyHoldsDouble items = false) :
    ∀ v ∈ items, holdsDouble v = false := by
  induction items with
  | nil => simp
  | cons v vs ih =>
    simp only [anyHoldsDouble, Bool.or_eq_false_iff] at h
    simpa [h.1] using ih h.2

/-- No member of an object without such a number holds one. -/
theorem holdsDouble_of_mem_members {members : Members} (h : memberHoldsDouble members = false) :
    ∀ m ∈ members, holdsDouble m.2 = false := by
  induction members with
  | nil => simp
  | cons m ms ih =>
    obtain ⟨n, v⟩ := m
    simp only [memberHoldsDouble, Bool.or_eq_false_iff] at h
    intro m hm
    rcases List.mem_cons.mp hm with rfl | hm
    · exact h.1
    · exact ih h.2 m hm

/-- A value all of whose numbers are whole: they are of the machine words, or minus zero, which is
    the one whole number that the reader takes for one of the floating-point format. -/
inductive AllWhole : Json → Prop where
  | null : AllWhole .null
  | bool (value : Bool) : AllWhole (.bool value)
  | whole (i : Int) : AllWhole (.whole i)
  | minusZero : AllWhole minusZero
  | string (text : Text) : AllWhole (.string text)
  | array {items : List Json} (each : ∀ v ∈ items, AllWhole v) : AllWhole (.array items)
  | object {members : Members} (each : ∀ m ∈ members, AllWhole m.2) : AllWhole (.object members)

/-- Without numbers of the floating-point format all numbers are whole. -/
theorem allWhole_of_holdsDouble : (v : Json) → holdsDouble v = false → AllWhole v
  | .null, _ => .null
  | .bool value, _ => .bool value
  | .whole i, _ => .whole i
  | .double _, h => by cases h
  | .string text, _ => .string text
  | .array items, h => .array fun v hv => by
    rw [holdsDouble] at h
    exact allWhole_of_holdsDouble v (holdsDouble_of_mem h v hv)
  | .object members, h => .object fun m hm => by
    rw [holdsDouble] at h
    exact allWhole_of_holdsDouble m.2 (holdsDouble_of_mem_members h m hm)
termination_by v => sizeOf v
decreasing_by
  · have := List.sizeOf_lt_of_mem hv
    simp only [Json.array.sizeOf_spec]
    omega
  · have := List.sizeOf_lt_of_mem hm
    obtain ⟨n, v⟩ := m
    simp only [Json.object.sizeOf_spec, Prod.mk.sizeOf_spec] at *
    omega

/-! ## Numbers -/

/-- The one number of the floating-point format that may be there. -/
theorem fits_double {f : Decimal.Double} (h : AllWhole (.double f)) (levels : Nat) :
    Fits levels (.double f) := by
  cases h
  exact .minusZero

/-- A reading that answers numbers of the floating-point format only. -/
def OnlyDoubles (reading : Reading Json) : Prop :=
  ∀ v rest, reading = .ok (v, rest) → ∃ f, v = .double f

/-- A number that ends behind a fraction or an exponent is never taken for a whole one. -/
theorem onlyDoubles_fraction (negative : Bool) (significand : Nat) (power : Int) (text : Text) :
    OnlyDoubles (fraction negative significand power text) := by
  intro v rest h
  unfold fraction at h
  split at h <;> cases h
  exact ⟨_, rfl⟩

/-- Nor is one with an exponent, also where the exponent is too large. -/
theorem onlyDoubles_exponent (negative : Bool) (significand : Nat) (start : Int) (text : Text) :
    OnlyDoubles (exponent negative significand start text) := by
  intro v rest h
  unfold exponent at h
  dsimp only at h
  split at h
  · cases h
  · split at h
    · cases h
    · split at h
      · exact onlyDoubles_fraction _ _ _ _ v rest h
      · split at h <;> cases h
        exact ⟨_, rfl⟩

theorem onlyDoubles_exponentOrEnd (negative : Bool) (significand : Nat) (power : Int)
    (text : Text) : OnlyDoubles (exponentOrEnd negative significand power text) := by
  intro v rest h
  unfold exponentOrEnd at h
  split at h
  · split at h
    · exact onlyDoubles_exponent _ _ _ _ v rest h
    · exact onlyDoubles_fraction _ _ _ _ v rest h
  · exact onlyDoubles_fraction _ _ _ _ v rest h

/-- Nor is one with a point. -/
theorem onlyDoubles_decimals (negative : Bool) (significand : Nat) (power : Int) (text : Text) :
    OnlyDoubles (decimals negative significand power text) := by
  intro v rest h
  unfold decimals at h
  dsimp only at h
  split at h
  · split at h <;> cases h
  · exact onlyDoubles_exponentOrEnd _ _ _ _ v rest h

/-- Whole digits within the machine words fit: the positive ones as they are, the negative ones down
    to the least word. -/
theorem wholeOrDouble_fits (negative : Bool) {significand : Nat} (h : significand < wordLimit)
    (hwhole : AllWhole (wholeOrDouble negative significand)) (levels : Nat) :
    Fits levels (wholeOrDouble negative significand) := by
  unfold wholeOrDouble at hwhole ⊢
  split
  · exact .whole (by omega) (by omega)
  · split
    · exact .whole (by omega) (by unfold wordLimit; omega)
    · rename_i hnegative hrange
      rw [if_neg hnegative, if_neg hrange] at hwhole
      exact fits_double hwhole levels

/-- **A number that was read fits**, when it is whole. -/
theorem number_fits {negative : Bool} {text rest : Text} {v : Json}
    (h : number negative text = .ok (v, rest)) (hwhole : AllWhole v) (levels : Nat) :
    Fits levels v := by
  have hnot : ∀ {reading : Reading Json}, OnlyDoubles reading → reading = .ok (v, rest) →
      Fits levels v := fun honly hreading => by
    obtain ⟨f, rfl⟩ := honly v rest hreading
    exact fits_double hwhole levels
  have hlimit : 0 < wordLimit := by decide
  unfold number at h
  split at h
  · cases h
  · split at h
    · cases h
    · split at h
      · cases h
      · unfold wholeRest at h
        dsimp only at h
        have hsignificand := accumulate_lt hlimit
        split at h
        · exact hnot (onlyDoubles_decimals _ _ _ _) h
        · split at h
          · exact hnot (onlyDoubles_exponent _ _ _ _) h
          · split at h
            · cases h
              exact wholeOrDouble_fits _ (hsignificand _) hwhole levels
            · exact hnot (onlyDoubles_fraction _ _ _ _) h
        · split at h
          · cases h
            exact wholeOrDouble_fits _ (hsignificand _) hwhole levels
          · exact hnot (onlyDoubles_fraction _ _ _ _) h

/-! ## Arrays and objects -/

/-- A value that was read by the given reader somewhere. -/
def WasRead (item : Text → Reading Json) (v : Json) : Prop := ∃ text rest, item text = .ok (v, rest)

/-- An answer that was made from another one had that other one. -/
theorem map_eq_ok {ε α β : Type} {f : α → β} {answer : Except ε α} {b : β}
    (h : answer.map f = .ok b) : ∃ a, answer = .ok a ∧ f a = b := by
  cases answer with
  | error fault => cases h
  | ok a => exact ⟨a, rfl, Except.ok.inj h⟩

/-- Every item behind the first one was read by the reader of one level less. -/
theorem moreItems_read {item : Text → Reading Json} {steps : Nat} {text rest : Text}
    {vs : List Json} (h : moreItems item steps text = .ok (vs, rest)) :
    ∀ v ∈ vs, WasRead item v := by
  induction steps generalizing text vs with
  | zero => cases h
  | succ steps ih =>
    unfold moreItems at h
    split at h
    · cases h
    · cases h
      simp
    · split at h
      · cases h
      · cases h
      · split at h
        · cases h
        · rename_i hitem
          obtain ⟨⟨values, rest'⟩, hmore, heq⟩ := map_eq_ok h
          cases heq
          intro v hv
          rcases List.mem_cons.mp hv with rfl | hv
          · exact ⟨_, _, hitem⟩
          · exact ih hmore v hv
    · cases h

/-- Every item of an array was. -/
theorem items_read {item : Text → Reading Json} {text rest : Text} {vs : List Json}
    (h : items item text = .ok (vs, rest)) : ∀ v ∈ vs, WasRead item v := by
  unfold items at h
  split at h
  · cases h
  · cases h
    simp
  · split at h
    · cases h
    · rename_i hitem
      obtain ⟨⟨values, rest'⟩, hmore, heq⟩ := map_eq_ok h
      cases heq
      intro v hv
      rcases List.mem_cons.mp hv with rfl | hv
      · exact ⟨_, _, hitem⟩
      · exact moreItems_read hmore v hv

/-- The value of a member was. -/
theorem member_read {item : Text → Reading Json} {text rest : Text} {m : Text × Json}
    (h : member item text = .ok (m, rest)) : WasRead item m.2 := by
  unfold member at h
  split at h
  · cases h
  · split at h
    · cases h
    · obtain ⟨⟨v, rest'⟩, hitem, heq⟩ := map_eq_ok h
      cases heq
      exact ⟨_, _, hitem⟩
    · cases h

/-- The values of all members behind the first one were. -/
theorem moreMembers_read {item : Text → Reading Json} {steps : Nat} {text rest : Text}
    {ms : Members} (h : moreMembers item steps text = .ok (ms, rest)) :
    ∀ m ∈ ms, WasRead item m.2 := by
  induction steps generalizing text ms with
  | zero => cases h
  | succ steps ih =>
    unfold moreMembers at h
    split at h
    · cases h
    · cases h
      simp
    · split at h
      · cases h
      · split at h
        · cases h
        · rename_i hmember
          obtain ⟨⟨values, rest'⟩, hmore, heq⟩ := map_eq_ok h
          cases heq
          intro m hm
          rcases List.mem_cons.mp hm with rfl | hm
          · exact member_read hmember
          · exact ih hmore m hm
      · cases h
      · cases h
    · cases h

/-- The values of all members of an object were. -/
theorem membersRead_read {item : Text → Reading Json} {text rest : Text} {ms : Members}
    (h : membersRead item text = .ok (ms, rest)) : ∀ m ∈ ms, WasRead item m.2 := by
  unfold membersRead at h
  split at h
  · cases h
  · cases h
    simp
  · split at h
    · cases h
    · rename_i hmember
      obtain ⟨⟨values, rest'⟩, hmore, heq⟩ := map_eq_ok h
      cases heq
      intro m hm
      rcases List.mem_cons.mp hm with rfl | hm
      · exact member_read hmember
      · exact moreMembers_read hmore m hm
  · cases h

/-! ## Writing a member -/

/-- Writing a member writes it and keeps the others. -/
theorem Members.mem_set {name : Text} {value : Json} {members : Members} {m : Text × Json}
    (h : m ∈ Members.set name value members) : m = (name, value) ∨ m ∈ members := by
  induction members with
  | nil => exact .inl (by simpa [Members.set] using h)
  | cons n members ih =>
    obtain ⟨n, v⟩ := n
    unfold Members.set at h
    split at h
    · rename_i hn
      rcases List.mem_cons.mp h with rfl | h
      · exact .inl (by rw [hn])
      · exact .inr (List.mem_cons_of_mem _ h)
    · rcases List.mem_cons.mp h with rfl | h
      · exact .inr List.mem_cons_self
      · exact (ih h).imp_right (List.mem_cons_of_mem _)

/-- Writing a member gives no second one of its name. -/
theorem Members.nodup_set {members : Members} (h : (members.map Prod.fst).Nodup) (name : Text)
    (value : Json) : ((Members.set name value members).map Prod.fst).Nodup := by
  induction members with
  | nil => simp [Members.set]
  | cons m members ih =>
    obtain ⟨n, v⟩ := m
    rw [List.map_cons, List.nodup_cons] at h
    unfold Members.set
    split
    · exact List.nodup_cons.mpr h
    · rename_i hn
      refine List.nodup_cons.mpr ⟨fun hmem => ?_, ih h.2⟩
      obtain ⟨m, hm, hname⟩ := List.mem_map.mp hmem
      rcases Members.mem_set hm with rfl | hm
      · exact hn hname.symm
      · exact h.1 (hname ▸ List.mem_map_of_mem hm)

/-- An object stays within the bounds when a value that fits is written into it. -/
theorem Fits.set {levels : Nat} {members : Members} (h : Fits (levels + 1) (.object members))
    (name : Text) {value : Json} (hvalue : Fits levels value) :
    Fits (levels + 1) (.object (Members.set name value members)) := by
  cases h with
  | object names each =>
    refine .object (Members.nodup_set names name value) fun m hm => ?_
    rcases Members.mem_set hm with rfl | hm
    · exact hvalue
    · exact each m hm

/-- Of the members that were read, each that is left is one of them. -/
theorem objectOf_eq (read : Members) : ∃ members, objectOf read = .object members ∧
    (members.map Prod.fst).Nodup ∧ ∀ m ∈ members, ∃ m' ∈ read, m.2 = m'.2 := by
  have hfold : ∀ (read acc : Members), (acc.map Prod.fst).Nodup →
      ((read.foldl (fun acc m => Members.set m.1 m.2 acc) acc).map Prod.fst).Nodup ∧
        ∀ m ∈ read.foldl (fun acc m => Members.set m.1 m.2 acc) acc,
          m ∈ acc ∨ ∃ m' ∈ read, m.2 = m'.2 := by
    intro read
    induction read with
    | nil => exact fun acc hacc => ⟨hacc, fun m hm => .inl hm⟩
    | cons n read ih =>
      intro acc hacc
      obtain ⟨hnodup, heach⟩ := ih _ (Members.nodup_set hacc n.1 n.2)
      refine ⟨hnodup, fun m hm => ?_⟩
      rcases heach m hm with hm | ⟨m', hm', heq⟩
      · rcases Members.mem_set hm with rfl | hm
        · exact .inr ⟨n, by simp, rfl⟩
        · exact .inl hm
      · exact .inr ⟨m', by simp [hm'], heq⟩
  obtain ⟨hnodup, heach⟩ := hfold read [] (by simp)
  exact ⟨_, rfl, hnodup, fun m hm => (heach m hm).resolve_left (by simp)⟩

/-! ## What is read fits -/

/-- A word that is read whole answers with the value it stands for. -/
theorem word_eq {value v : Json} {word text rest : Text}
    (h : Reader.word value word text = .ok (v, rest)) : v = value := by
  induction word generalizing text with
  | nil => cases h; rfl
  | cons w word ih =>
    cases text with
    | nil => cases h
    | cons c cs =>
      unfold Reader.word at h
      split at h
      · exact ih h
      · cases h

/-- One level of the reader: when the values that it hands on fit one level less, its answer fits.
    -/
theorem valueWith_fits {item : Option (Text → Reading Json)} {levels : Nat}
    (hitem : ∀ read ∈ item, ∃ n, levels = n + 1 ∧
      ∀ v, WasRead read v → AllWhole v → Fits n v)
    {text rest : Text} {v : Json} (h : valueWith item text = .ok (v, rest))
    (hwhole : AllWhole v) : Fits levels v := by
  unfold valueWith at h
  split at h
  · cases h
  repeat' split at h
  · rw [word_eq h]
    exact .null
  · rw [word_eq h]
    exact .bool _
  · rw [word_eq h]
    exact .bool _
  · exact number_fits h hwhole levels
  · exact number_fits h hwhole levels
  · obtain ⟨⟨text, rest'⟩, -, heq⟩ := map_eq_ok h
    cases heq
    exact .string _
  · rename_i read
    obtain ⟨⟨vs, rest'⟩, hitems, heq⟩ := map_eq_ok h
    cases heq
    obtain ⟨n, rfl, hfits⟩ := hitem read rfl
    cases hwhole with
    | array each => exact .array fun w hw => hfits w (items_read hitems w hw) (each w hw)
  · cases h
  · rename_i read
    obtain ⟨⟨ms, rest'⟩, hmembers, heq⟩ := map_eq_ok h
    cases heq
    obtain ⟨n, rfl, hfits⟩ := hitem read rfl
    obtain ⟨members, hobject, hnodup, heach⟩ := objectOf_eq ms
    rw [hobject] at hwhole ⊢
    cases hwhole with
    | object each =>
      refine .object hnodup fun m hm => ?_
      obtain ⟨m', hm', heq⟩ := heach m hm
      exact hfits m.2 (heq ▸ membersRead_read hmembers m' hm') (each m hm)
  · cases h
  · cases h

/-- By induction on the levels that are left. -/
theorem value_fits {levels : Nat} {text rest : Text} {v : Json}
    (h : Reader.value levels text = .ok (v, rest)) (hwhole : AllWhole v) :
    Fits levels v := by
  induction levels generalizing text rest v with
  | zero => exact valueWith_fits (by simp) h hwhole
  | succ n ih =>
    refine valueWith_fits (fun read hread => ⟨n, rfl, fun w hw hw' => ?_⟩) h hwhole
    obtain rfl : Reader.value n = read := by simpa using hread
    obtain ⟨text, rest, hw⟩ := hw
    exact ih hw hw'

/-- **What is read is within the bounds of the reader.** -/
theorem read_fits {text : Text} {v : Json} (h : read text = .ok v)
    (hwhole : AllWhole v) : Fits mostLevels v := by
  unfold read at h
  split at h
  · cases h
  · rename_i hvalue
    split at h
    · cases h
      exact value_fits hvalue hwhole
    · cases h

end RouteLocalizer.Json
