/-
  How far a NUMERAL of JSON reaches.

  A floating-point number need not be read back as it was printed, and this development does not
  say that it is.  What is needed of it is less: a printed number consists of numeral characters,
  and the reader takes only such characters for a number.  So wherever a printed number ends in a
  comma or a line end, the reader either takes all of it, or stops inside at a character that can
  follow no value (`Stops`).

  PROGRAM: `Reader.number` reads in pieces — digits, a fraction, an exponent, an end — and each
  piece hands what it left to the next.  `Notation.write` prints in two forms, with the point in its
  place and with an exponent.
  SPECIFICATION:
  (1) `taken_number` — of a text that is read as a number only numeral characters are taken;
  (2) `isNumeral_write`, `isNumeral_ofInt` — what is printed for a number has some characters, and
      all of them are numeral ones.

  The crux of (1) is that `Taken` composes (`Taken.trans`): there is one lemma for each piece of the
  reader, and each calls the next.  Every branch that answers is accounted for, also the ones that
  overflow; a branch that fails has nothing to show.
-/
import Mathlib.Data.List.TakeWhile
import RouteLocalizer.Json.Printer
import RouteLocalizer.Json.Reader

namespace RouteLocalizer.Json

open Text Reader Decimal

/-- The characters that numerals consist of. -/
def isNumeral (c : Char) : Bool :=
  c.isDigit || c == '.' || c == '-' || c == '+' || c == 'e' || c == 'E'

/-- Digits are numeral characters. -/
theorem isNumeral_of_isDigit {c : Char} (h : c.isDigit = true) : isNumeral c = true := by
  simp [isNumeral, h]

/-! ## What the reader takes -/

/-- A text of which only numeral characters were taken. -/
def Taken (text rest : Text) : Prop :=
  ∃ front, text = front ++ rest ∧ ∀ c ∈ front, isNumeral c = true

namespace Taken

variable {text middle rest : Text} {c : Char}

/-- Of a text that is left whole nothing was taken. -/
theorem refl (text : Text) : Taken text text := ⟨[], rfl, by simp⟩

/-- One piece of the reader behind the other takes numeral characters only when both do. -/
theorem trans (h : Taken text middle) (h' : Taken middle rest) : Taken text rest := by
  obtain ⟨front, rfl, hfront⟩ := h
  obtain ⟨front', rfl, hfront'⟩ := h'
  refine ⟨front ++ front', (List.append_assoc ..).symm, fun c hc => ?_⟩
  exact (List.mem_append.mp hc).elim (hfront c) (hfront' c)

/-- One more numeral character in front. -/
theorem cons (hc : isNumeral c = true) (h : Taken text rest) : Taken (c :: text) rest := by
  obtain ⟨front, rfl, hfront⟩ := h
  exact ⟨c :: front, rfl, by simpa [hc] using hfront⟩

/-- A run of digits is taken to its end. -/
theorem digits (text : Text) : Taken text (text.dropWhile Char.isDigit) := by
  refine ⟨text.takeWhile Char.isDigit, (List.takeWhile_append_dropWhile ..).symm, fun c hc => ?_⟩
  exact isNumeral_of_isDigit (List.mem_takeWhile_imp hc)

end Taken

/-- The sign of an exponent is taken when there is one. -/
theorem taken_readSign (text : Text) : Taken text (readSign text).2 := by
  unfold readSign
  split
  · exact .cons (by decide) (.refl _)
  · exact .cons (by decide) (.refl _)
  · exact .refl _

variable {negative : Bool} {text rest : Text} {v : Json}

/-- The end of a numeral: the number is made of what was taken before, and nothing more is. -/
theorem taken_fraction {significand : Nat} {power : Int}
    (h : fraction negative significand power text = .ok (v, rest)) : Taken text rest := by
  unfold fraction at h
  split at h
  · cases h
    exact .refl _
  · cases h

/-- The exponent, with its sign: all its digits are taken, also where it is too large to be kept. -/
theorem taken_exponent {significand : Nat} {start : Int}
    (h : exponent negative significand start text = .ok (v, rest)) : Taken text rest := by
  unfold exponent at h
  dsimp only at h
  refine (taken_readSign text).trans ?_
  generalize (readSign text).2 = digits at h
  generalize (readSign text).1 = down at h
  split at h
  · cases h
  · split at h
    · cases h
    · split at h
      · exact (Taken.digits _).trans (taken_fraction h)
      · split at h
        · cases h
        · cases h
          exact .digits _

theorem taken_exponentOrEnd {significand : Nat} {power : Int}
    (h : exponentOrEnd negative significand power text = .ok (v, rest)) : Taken text rest := by
  unfold exponentOrEnd at h
  split at h
  · split at h
    · rename_i c _ hc
      have hnumeral : isNumeral c = true := by
        rcases Bool.or_eq_true_iff.mp hc with hc | hc <;> simp [isNumeral, hc]
      exact .cons hnumeral (taken_exponent h)
    · exact taken_fraction h
  · exact taken_fraction h

/-- The digits behind the point, of which there has to be one. -/
theorem taken_decimals {significand : Nat} {power : Int}
    (h : decimals negative significand power text = .ok (v, rest)) : Taken text rest := by
  unfold decimals at h
  dsimp only at h
  split at h
  · split at h <;> cases h
  · exact (Taken.digits text).trans (taken_exponentOrEnd h)

/-- What follows the whole digits: a point, an exponent, or the end. -/
theorem taken_wholeRest {digits : Text}
    (h : wholeRest negative digits text = .ok (v, rest)) : Taken text rest := by
  unfold wholeRest at h
  dsimp only at h
  split at h
  · exact .cons (by decide) (taken_decimals h)
  · split at h
    · rename_i c _ _ hc
      have hnumeral : isNumeral c = true := by
        rcases Bool.or_eq_true_iff.mp hc with hc | hc <;> simp [isNumeral, hc]
      exact .cons hnumeral (taken_exponent h)
    · split at h
      · cases h
        exact .refl _
      · exact taken_fraction h
  · split at h
    · cases h
      exact .refl _
    · exact taken_fraction h

/-- **The reader takes numeral characters only for a number.** -/
theorem taken_number (h : number negative text = .ok (v, rest)) : Taken text rest := by
  unfold number at h
  split at h
  · cases h
  · split at h
    · cases h
    · split at h
      · cases h
      · exact (Taken.digits _).trans (taken_wholeRest h)

/-! ## What is printed for a number -/

theorem isNumeral_of_mem_ofNat {n : Nat} {c : Char} (h : c ∈ ofNat n) : isNumeral c = true :=
  isNumeral_of_isDigit (isDigit_of_mem_ofNat h)

/-- The zeros that fill a number up to its point are numeral characters. -/
theorem isNumeral_of_mem_zeros {n : Nat} {c : Char} (h : c ∈ Notation.zeros n) :
    isNumeral c = true := by
  rw [(List.mem_replicate.mp h).2]
  decide

/-- A text that consists of numeral characters, and has some. -/
def IsNumeral (text : Text) : Prop := text ≠ [] ∧ ∀ c ∈ text, isNumeral c = true

/-- A form that ends whole numbers with numeral characters, if with any. -/
def EndsNumeral (form : Notation) : Prop := ∀ c ∈ form.wholeEnding, isNumeral c = true

instance (form : Notation) : Decidable (EndsNumeral form) := decidableForallMem form.wholeEnding

variable {form : Notation}

/-- A number printed with the point in its place: zeros in front of its digits, behind them, or the
    point within them. -/
theorem isNumeral_positional (ending : EndsNumeral form) {digits : Text} (hne : digits ≠ [])
    (h : ∀ c ∈ digits, isNumeral c = true) (point : Int) :
    IsNumeral (form.positional digits point) := by
  unfold Notation.positional
  split
  · refine ⟨by simp, fun c hc => ?_⟩
    simp only [List.mem_append] at hc
    rcases hc with (hc | hc) | hc
    · revert c; decide
    · exact isNumeral_of_mem_zeros hc
    · exact h c hc
  · split
    · refine ⟨by simp [hne], fun c hc => ?_⟩
      simp only [List.mem_append] at hc
      rcases hc with (hc | hc) | hc
      · exact h c hc
      · exact isNumeral_of_mem_zeros hc
      · exact ending c hc
    · refine ⟨by simp, fun c hc => ?_⟩
      simp only [List.mem_append] at hc
      rcases hc with (hc | hc) | hc
      · exact h c (List.mem_of_mem_take hc)
      · revert c; decide
      · exact h c (List.mem_of_mem_drop hc)

/-- A number printed with an exponent: a leading digit, the rest behind the point, and the exponent
    with its sign. -/
theorem isNumeral_scientific {digits : Text} (h : ∀ c ∈ digits, isNumeral c = true) (point : Int) :
    IsNumeral (Notation.scientific digits point) := by
  unfold Notation.scientific
  dsimp only
  refine ⟨?_, fun c hc => ?_⟩
  · have hdigits : ofNat (point - 1).natAbs ≠ [] := Nat.toDigits_ne_nil
    simp [hdigits]
  simp only [List.mem_append] at hc
  rcases hc with ((hc | hc) | hc) | hc
  · exact h c (List.mem_of_mem_take hc)
  · split at hc
    · cases hc
    · rcases List.mem_cons.mp hc with rfl | hc
      · decide
      · exact h c (List.mem_of_mem_drop hc)
  · split at hc <;> (revert c; decide)
  · exact isNumeral_of_mem_ofNat hc

/-- **What is printed for a finite floating-point number is a numeral**, for zeros and negative ones
    too. -/
theorem isNumeral_write (ending : EndsNumeral form) (sign : Bool) (mantissa : Nat)
    (exponent : Int) : IsNumeral (form.write (.finite sign mantissa exponent)) := by
  have hsign : ∀ body : Text, IsNumeral body →
      IsNumeral ((if sign then "-" else "" : Text) ++ body) := by
    rintro body ⟨hne, hall⟩
    refine ⟨by simp [hne], fun c hc => ?_⟩
    rcases List.mem_append.mp hc with hc | hc
    · cases sign with
      | false => cases hc
      | true => rw [List.mem_singleton.mp hc]; decide
    · exact hall c hc
  unfold Notation.write
  dsimp only
  split
  · rw [List.append_assoc]
    refine hsign _ ⟨by simp, fun c hc => ?_⟩
    rcases List.mem_append.mp hc with hc | hc
    · rw [List.mem_singleton.mp hc]
      decide
    · exact ending c hc
  · refine hsign _ ?_
    split
    · exact isNumeral_positional ending Nat.toDigits_ne_nil
        (fun c hc => isNumeral_of_mem_ofNat hc) _
    · exact isNumeral_scientific (fun c hc => isNumeral_of_mem_ofNat hc) _

/-- And so is what is printed for a whole number. -/
theorem isNumeral_ofInt (i : Int) : IsNumeral (ofInt i) := by
  have hdigits : IsNumeral (ofNat i.natAbs) :=
    ⟨Nat.toDigits_ne_nil, fun c hc => isNumeral_of_mem_ofNat hc⟩
  unfold ofInt
  split
  · refine ⟨by simp, fun c hc => ?_⟩
    rcases List.mem_cons.mp hc with rfl | hc
    · decide
    · exact hdigits.2 c hc
  · exact hdigits

end RouteLocalizer.Json
