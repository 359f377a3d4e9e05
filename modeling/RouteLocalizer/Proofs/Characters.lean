/-
  The character classes of this library, COMPARED with each other.

  PROGRAM: each search brings a class of its own — word characters and identifier characters for
  its boundaries, blanks and indentation for its gaps, the characters that end a tag's name.
  SPECIFICATION: settings may hold symbols, package names and tags of plain letters, digits and a
  few signs.  One structure for each kind of names says what every class makes of its characters
  (`SymbolFacts`, `TagFacts`), and one what it makes of those between two runs of ink (`GapFacts`).

  All of these characters lie below U+0080, where a class is decided by looking at 128 characters
  (`of_ascii`); white space is a list of code points, and is looked at one by one (`of_isBlank`).
-/
import RouteLocalizer.Import.Provide
import RouteLocalizer.Markup.Tag

namespace RouteLocalizer.Text

/-- A character of the symbols that settings may hold. -/
def isSymbolChar (c : Char) : Bool := c.isAlphanum || c == '_'

/-- A character of the package names that settings may hold. -/
def isPackageChar (c : Char) : Bool := c.isAlphanum || "@/._-".toList.elem c

/-- A character of the tags that settings may hold. -/
def isTagChar (c : Char) : Bool := c.isAlphanum || c == '-'

/-- Everything that a formatter leaves as it is: no white space, no brace, comma or semicolon. -/
def isInk (c : Char) : Bool := !isBlank c && !Import.isTight c && c != ';'

/-! ## Below U+0080 -/

/-- What holds of the first 128 characters, one by one. -/
theorem of_ascii {P : Char → Prop} (h : ∀ n : Fin 128, P (Char.ofNat n)) {c : Char}
    (hc : c.toNat < 128) : P c := by
  have := h ⟨c.toNat, hc⟩
  simpa only [Char.ofNat_toNat] using this

/-- What holds of the first 128 characters holds of every letter and digit. -/
theorem of_isAlphanum {P : Char → Prop}
    (h : ∀ n : Fin 128, (Char.ofNat n).isAlphanum → P (Char.ofNat n)) {c : Char}
    (hc : c.isAlphanum = true) : P c := by
  have hlt : c.toNat < 128 := by
    have hn : c.val.toNat = c.toNat := rfl
    have hrange : (decide ('A'.val ≤ c.val ∧ c.val ≤ 'Z'.val) ||
        (decide ('a'.val ≤ c.val) && decide (c.val ≤ 'z'.val)) ||
          (decide ('0'.val ≤ c.val) && decide (c.val ≤ '9'.val))) = true := hc
    simp only [UInt32.le_iff_toNat_le, Bool.or_eq_true, Bool.and_eq_true, decide_eq_true_eq,
      hn] at hrange
    rcases hrange with (⟨-, h⟩ | ⟨-, h⟩) | ⟨-, h⟩
    · exact Nat.lt_of_le_of_lt h (by decide)
    · exact Nat.lt_of_le_of_lt h (by decide)
    · exact Nat.lt_of_le_of_lt h (by decide)
  exact of_ascii (P := fun c => c.isAlphanum → P c) h hlt hc

/-- What is known of a character that may stand in a symbol. -/
structure SymbolFacts (c : Char) : Prop where
  ink : isInk c = true
  word : isWordChar c = true
  identifier : isIdentifierChar c = true
  blank : isBlank c = false
  package : isPackageChar c = true

/-- **Symbols are words and identifiers to every search.** -/
theorem symbolFacts {c : Char} (h : isSymbolChar c = true) : SymbolFacts c := by
  have hall : isInk c = true ∧ isWordChar c = true ∧ isIdentifierChar c = true ∧
      isBlank c = false ∧ isPackageChar c = true := by
    rcases Bool.or_eq_true_iff.mp h with h | h
    · exact of_isAlphanum (P := fun c => isInk c = true ∧ isWordChar c = true ∧
        isIdentifierChar c = true ∧ isBlank c = false ∧ isPackageChar c = true)
        (by decide +kernel) h
    · obtain rfl := beq_iff_eq.mp h
      decide +kernel
  obtain ⟨ink, word, identifier, blank, package⟩ := hall
  exact ⟨ink, word, identifier, blank, package⟩

/-- The signs that mean something to one of the searches, apart from braces and commas. -/
def signs : Text := "'\"()<>\x60\\*$=:\n\r\t ;\x7b\x7d,".toList

/-- The name of a package is ink, ... -/
theorem isInk_of_isPackageChar {c : Char} (h : isPackageChar c = true) : isInk c = true := by
  rcases Bool.or_eq_true_iff.mp h with h | h
  · exact of_isAlphanum (P := fun c => isInk c = true) (by decide +kernel) h
  · have : ∀ d ∈ "@/._-".toList, isInk d = true := by decide +kernel
    exact this c (List.elem_iff.mp h)

/-- ... and holds none of the signs. -/
theorem not_mem_signs_of_isPackageChar {c : Char} (h : isPackageChar c = true) : c ∉ signs := by
  rcases Bool.or_eq_true_iff.mp h with h | h
  · exact of_isAlphanum (P := fun c => c ∉ signs) (by decide +kernel) h
  · have : ∀ d ∈ "@/._-".toList, d ∉ signs := by decide +kernel
    exact this c (List.elem_iff.mp h)

/-- What is known of a character that may stand in a tag. -/
structure TagFacts (c : Char) : Prop where
  sign : c ∉ signs
  slash : c ≠ '/'
  underscore : c ≠ '_'
  ends : Markup.endsTagName c = false
  blank : isBlank c = false

/-- **The names of tags hold no sign**, and do not end within. -/
theorem tagFacts {c : Char} (h : isTagChar c = true) : TagFacts c := by
  have hall : c ∉ signs ∧ c ≠ '/' ∧ c ≠ '_' ∧ Markup.endsTagName c = false ∧
      isBlank c = false := by
    rcases Bool.or_eq_true_iff.mp h with h | h
    · exact of_isAlphanum (P := fun c => c ∉ signs ∧ c ≠ '/' ∧ c ≠ '_' ∧
        Markup.endsTagName c = false ∧ isBlank c = false) (by decide +kernel) h
    · obtain rfl := beq_iff_eq.mp h
      decide +kernel
  obtain ⟨sign, slash, underscore, ends, blank⟩ := hall
  exact ⟨sign, slash, underscore, ends, blank⟩

/-! ## White space -/

/-- The code points of white space. -/
def blankCodes : List Nat :=
  [9, 10, 11, 12, 13, 0x20, 0x85, 0xA0, 0x1680, 0x2000, 0x2001, 0x2002, 0x2003, 0x2004, 0x2005,
    0x2006, 0x2007, 0x2008, 0x2009, 0x200A, 0x2028, 0x2029, 0x202F, 0x205F, 0x3000]

/-- What holds of every code point of white space holds of every blank. -/
theorem of_isBlank {P : Char → Prop} (h : ∀ n ∈ blankCodes, P (Char.ofNat n)) {c : Char}
    (hc : isBlank c = true) : P c := by
  have hmem : c.toNat ∈ blankCodes := by
    simp only [isBlank, Bool.or_eq_true, Bool.and_eq_true, decide_eq_true_eq, beq_iff_eq] at hc
    simp only [blankCodes, List.mem_cons, List.not_mem_nil, or_false]
    omega
  have := h _ hmem
  rwa [Char.ofNat_toNat] at this

/-- What is known of a character of a gap between two runs of ink. -/
structure GapFacts (c : Char) : Prop where
  word : isWordChar c = false
  identifier : isIdentifierChar c = false
  quote : c ≠ '\'' ∧ c ≠ '"'

/-- **What is no ink is no part of a name.** -/
theorem gapFacts {c : Char} (h : isInk c = false) : GapFacts c := by
  have hall : isWordChar c = false ∧ isIdentifierChar c = false ∧ c ≠ '\'' ∧ c ≠ '"' := by
    by_cases hb : isBlank c = true
    · exact of_isBlank (P := fun c => isWordChar c = false ∧ isIdentifierChar c = false ∧
        c ≠ '\'' ∧ c ≠ '"') (by decide +kernel) hb
    · by_cases ht : Import.isTight c = true
      · have : c = '\x7b' ∨ c = '\x7d' ∨ c = ',' := by
          simpa [Import.isTight, or_assoc] using ht
        rcases this with rfl | rfl | rfl <;> decide
      · have : c = ';' := by simpa [isInk, hb, ht] using h
        subst this
        decide
  exact ⟨hall.1, hall.2.1, hall.2.2⟩

theorem isInk_of_isBlank {c : Char} (h : isBlank c = true) : isInk c = false := by
  simp [isInk, h]

theorem isWordChar_of_isBlank {c : Char} (h : isBlank c = true) : isWordChar c = false :=
  (gapFacts (isInk_of_isBlank h)).word

theorem not_isIdentifierChar_of_isBlank {c : Char} (h : isBlank c = true) :
    isIdentifierChar c = false := (gapFacts (isInk_of_isBlank h)).identifier

/-! ## The words that the searches go by -/

/-- The word in front of a construction has word characters only, ... -/
theorem isWordChar_of_mem_new : ∀ c ∈ ['n', 'e', 'w'], isWordChar c = true := by decide

/-- ... and so has the one that starts an import, ... -/
theorem isWordChar_of_mem_keyword : ∀ c ∈ Import.keyword, isWordChar c = true := by decide

/-- ... and the one that ends its clause. -/
theorem isWordChar_of_mem_fromWord : ∀ c ∈ Import.fromWord, isWordChar c = true := by decide

end RouteLocalizer.Text
