/-
  The TAG THAT THE SWITCHER IS WRITTEN BEHIND: where it is taken to end, and when it is taken for
  the navigation element.

  The two searches know no quotes.  Both take a tag to end at its first closing bracket, and that is
  where it ends unless a quote is open there (`splitTag_anchor_iff`).

  What marks the navigation element is looked for as a text that no word runs into.  In a tag that
  is spelled as tags are, that text can stand in two places only: it is an attribute whose name ends
  with `id`, or it stands in a value that is quoted the other way (`Attribute.Marks`).  The crux is
  that it holds a double quote.  So it does not fit into a part of a tag without one, and where it
  starts in such a part it goes on where the part ends (`mark_cut`).  This takes the parts of a tag
  off one by one, from the left (`Attribute.IsLegal.marks_or_skip`, `exists_marks`).
-/
import RouteLocalizer.Proofs.Component
import RouteLocalizer.Proofs.Outside

namespace RouteLocalizer.Markup

open Text

/-! ## Where the tag is taken to end -/

/-- **The tag ends at its first closing bracket** if no quote is open there, and only then. -/
theorem splitTag_anchor_iff {body inner after : Text} (hbody : body = divStart ++ (inner ++ ['>']))
    (hinner : '>' ∉ inner) : splitTag none (body ++ after) = some (body, after) ↔
      quoteAfter none inner = none := by
  have hfront : '>' ∉ divStart ++ inner := by simp [divStart, hinner]
  have hquote : quoteAfter none (divStart ++ inner) = quoteAfter none inner := by
    simp [quoteAfter, divStart, nextQuote]
  rw [splitTag_eq_some_iff, hbody, ← List.append_assoc, ← hquote]
  constructor
  · rintro ⟨-, inner', heq, hclosed, -⟩
    obtain ⟨rfl, -⟩ := List.append_inj' heq rfl
    exact hclosed
  · intro hclosed
    refine ⟨rfl, _, rfl, hclosed, fun u v huv => absurd ?_ hfront⟩
    simp [huv]

/-- Wherever the tag ends, it does not end before its first closing bracket. -/
theorem prefix_of_splitTag {body inner after tag rest : Text}
    (hbody : body = divStart ++ (inner ++ ['>'])) (hinner : '>' ∉ inner)
    (h : splitTag none (body ++ after) = some (tag, rest)) : body <+: tag := by
  have hfront : '>' ∉ divStart ++ inner := by simp [divStart, hinner]
  obtain ⟨htext, inner', rfl, -⟩ := splitTag_eq_some_iff.mp h
  have htext : (divStart ++ inner) ++ '>' :: after = inner' ++ '>' :: rest := by
    simpa [hbody] using htext
  obtain ⟨mid, rfl, hmid⟩ := exists_of_cut hfront htext.symm
  have hprefix : ['>'] <+: mid ++ ['>'] := by
    cases mid with
    | nil => exact List.prefix_refl _
    | cons c mid =>
      obtain ⟨rfl, -⟩ := List.cons.inj hmid
      exact ⟨mid ++ ['>'], rfl⟩
  rw [hbody, ← List.append_assoc, List.append_assoc _ mid]
  exact (List.prefix_append_right_inj _).mpr hprefix

/-! ## How tags are spelled -/

/-- The value of an attribute, with the white space around its sign. -/
inductive AttributeValue where
  | none
  | bare (front behind text : Text)
  | quoted (front behind : Text) (quote : Char) (text : Text)
deriving DecidableEq, Repr

/-- An attribute, with the white space in front of it. -/
structure Attribute where
  gap : Text
  name : Text
  value : AttributeValue
deriving DecidableEq, Repr

/-- An opening tag; `tail` is what stands behind the last attribute. -/
structure StartTag where
  name : Text
  attributes : List Attribute
  tail : Text
deriving DecidableEq, Repr

def AttributeValue.spell : AttributeValue → Text
  | .none => []
  | .bare front behind text => front ++ '=' :: (behind ++ text)
  | .quoted front behind quote text => front ++ '=' :: (behind ++ quote :: (text ++ [quote]))

def Attribute.spell (a : Attribute) : Text := a.gap ++ (a.name ++ a.value.spell)

/-- The tag between its two brackets. -/
def StartTag.inner (tag : StartTag) : Text :=
  tag.name ++ (tag.attributes.flatMap Attribute.spell ++ tag.tail)

def StartTag.spell (tag : StartTag) : Text := '<' :: (tag.inner ++ ['>'])

/-- A character of a name: no white space, and none of the signs of a tag. -/
def isTagNameChar (c : Char) : Bool := !isBlank c && !("\"'>/=".toList.elem c)

/-- A character of a value without quotes. -/
def isBareValueChar (c : Char) : Bool := !isBlank c && !("\"'>".toList.elem c)

inductive AttributeValue.IsLegal : AttributeValue → Prop where
  | none : IsLegal .none
  | bare {front behind text : Text} (hfront : ∀ c ∈ front, isBlank c = true)
      (hbehind : ∀ c ∈ behind, isBlank c = true) (hne : text ≠ [])
      (htext : ∀ c ∈ text, isBareValueChar c = true) : IsLegal (.bare front behind text)
  | quoted {front behind text : Text} {quote : Char} (hfront : ∀ c ∈ front, isBlank c = true)
      (hbehind : ∀ c ∈ behind, isBlank c = true) (hquote : quote = '"' ∨ quote = '\'')
      (htext : quote ∉ text) : IsLegal (.quoted front behind quote text)

structure Attribute.IsLegal (a : Attribute) : Prop where
  apart : a.gap ≠ []
  gap : ∀ c ∈ a.gap, isBlank c = true
  nonempty : a.name ≠ []
  name : ∀ c ∈ a.name, isTagNameChar c = true
  value : a.value.IsLegal

/-- What may stand behind the last attribute: white space, and the slash of a tag that closes
    itself. -/
def endsAttributes (c : Char) : Bool := isBlank c || c == '/'

structure StartTag.IsLegal (tag : StartTag) : Prop where
  name : ∀ c ∈ tag.name, isTagNameChar c = true
  attributes : ∀ a ∈ tag.attributes, a.IsLegal
  tail : ∀ c ∈ tag.tail, endsAttributes c = true

/-! ## What is taken for the mark of the navigation element -/

/-- An attribute in which the mark is found: one with a name that ends with `id`, as a word, and
    with the value in double quotes right behind it; or one with the mark in a value in single
    quotes. -/
inductive Attribute.Marks : Attribute → Prop where
  | named {gap front : Text} (word : front.getLast?.any isWordChar = false) :
      Marks ⟨gap, front ++ ['i', 'd'], .quoted [] [] '"' ['n', 'a', 'v']⟩
  | inside {gap name front behind u v : Text} (word : u.getLast?.any isWordChar = false) :
      Marks ⟨gap, name, .quoted front behind '\'' (u ++ (navAttribute ++ v))⟩

/-- A tag that is taken for the navigation element's. -/
def StartTag.LooksNav (tag : StartTag) : Prop :=
  (∃ more, tag.name = ['d', 'i', 'v'] ++ more) ∧ ∃ a ∈ tag.attributes, a.Marks

/-! ## Taking the parts of a tag off -/

/-- Where the mark stands behind a part of a text without its first letter. -/
theorem mark_skip {part text pre rest : Text} (hpart : 'i' ∉ part)
    (h : part ++ text = pre ++ (navAttribute ++ rest)) :
    ∃ pre', pre = part ++ pre' ∧ text = pre' ++ (navAttribute ++ rest) := by
  have h : pre ++ 'i' :: (navAttribute.tail ++ rest) = part ++ text := h.symm
  exact exists_of_cut hpart h

/-- **Where the mark stands at a part of a text without a double quote**: behind it, or it starts in
    the part and goes on right behind it. -/
theorem mark_cut {part text pre rest : Text} (hpart : '"' ∉ part)
    (h : part ++ text = pre ++ (navAttribute ++ rest)) :
    (∃ pre', pre = part ++ pre' ∧ text = pre' ++ (navAttribute ++ rest)) ∨
      text.head? = some 'd' ∨
      (part = pre ++ ['i', 'd'] ∧ text = '=' :: '"' :: 'n' :: 'a' :: 'v' :: '"' :: rest) ∨
      (part = pre ++ ['i', 'd', '='] ∧ text = '"' :: 'n' :: 'a' :: 'v' :: '"' :: rest) := by
  rcases List.append_eq_append_iff.mp h with ⟨pre', rfl, htext⟩ | ⟨more, rfl, hmark⟩
  · exact .inl ⟨pre', rfl, htext⟩
  · match more, hmark with
    | [], hmark => exact .inl ⟨[], by simp, by simpa using hmark.symm⟩
    | [_], hmark =>
      obtain ⟨-, rfl⟩ := List.cons.inj hmark
      exact .inr (.inl rfl)
    | [_, _], hmark =>
      simp only [navAttribute, List.cons_append, List.nil_append, List.cons.injEq] at hmark
      obtain ⟨rfl, rfl, rfl⟩ := hmark
      exact .inr (.inr (.inl ⟨rfl, rfl⟩))
    | [_, _, _], hmark =>
      simp only [navAttribute, List.cons_append, List.nil_append, List.cons.injEq] at hmark
      obtain ⟨rfl, rfl, rfl, rfl⟩ := hmark
      exact .inr (.inr (.inr ⟨rfl, rfl⟩))
    | _ :: _ :: _ :: c :: more, hmark =>
      simp only [navAttribute, List.cons_append, List.nil_append, List.cons.injEq] at hmark
      obtain ⟨-, -, -, rfl, -⟩ := hmark
      exact absurd (by simp) hpart

/-- What stands behind a value: white space or a slash, or nothing at all. -/
def EndsValue (text : Text) : Prop := ∀ c ∈ text.head?, endsAttributes c = true

theorem EndsValue.not_mark {text : Text} (h : EndsValue text) :
    text.head? ≠ some 'd' ∧ text.head? ≠ some '=' ∧ text.head? ≠ some '"' ∧
      text.head? ≠ some 'n' := by
  refine ⟨?_, ?_, ?_, ?_⟩ <;> intro hhead <;> exact absurd (h _ hhead) (by decide)

/-- A part of a tag in front of the end of a value: the mark stands behind it. -/
theorem mark_behind {part text pre rest : Text} (hpart : '"' ∉ part) (htext : EndsValue text)
    (h : part ++ text = pre ++ (navAttribute ++ rest)) :
    ∃ pre', pre = part ++ pre' ∧ text = pre' ++ (navAttribute ++ rest) := by
  obtain ⟨hd, hsign, hquote, -⟩ := htext.not_mark
  rcases mark_cut hpart h with hskip | hhead | ⟨-, rfl⟩ | ⟨-, rfl⟩
  · exact hskip
  · exact absurd hhead hd
  · exact absurd rfl hsign
  · exact absurd rfl hquote

theorem not_mem_of_isBlank {gap : Text} (h : ∀ c ∈ gap, isBlank c = true) {c : Char}
    (hc : isBlank c = false) : c ∉ gap := by
  intro hmem
  rw [h c hmem] at hc
  cases hc

/-- The sign of an attribute, with the white space around it. -/
theorem i_not_mem_sign {front behind : Text} (hfront : ∀ c ∈ front, isBlank c = true)
    (hbehind : ∀ c ∈ behind, isBlank c = true) : 'i' ∉ front ++ '=' :: behind := by
  have hi : isBlank 'i' = false := by decide
  simp [not_mem_of_isBlank hfront hi, not_mem_of_isBlank hbehind hi]

/-- Where the mark stands behind an opening quote: in a value in single quotes, or behind the
    closing quote. -/
theorem mark_quoted {value text pre rest : Text} {quote : Char}
    (hquote : quote = '"' ∨ quote = '\'') (hvalue : quote ∉ value) (htext : EndsValue text)
    (h : value ++ quote :: text = pre ++ (navAttribute ++ rest)) :
    (quote = '\'' ∧ ∃ v, value = pre ++ (navAttribute ++ v)) ∨
      ∃ pre', pre = value ++ quote :: pre' ∧ text = pre' ++ (navAttribute ++ rest) := by
  -- what stands behind the value stands behind the closing quote too
  have hskip : ∀ pre₁, pre = value ++ pre₁ → quote :: text = pre₁ ++ (navAttribute ++ rest) →
      ∃ pre', pre = value ++ quote :: pre' ∧ text = pre' ++ (navAttribute ++ rest) := by
    rintro pre₁ rfl heq
    have hi : 'i' ∉ [quote] := by rcases hquote with rfl | rfl <;> decide
    obtain ⟨pre', rfl, hrest⟩ := mark_skip hi
      (show [quote] ++ text = pre₁ ++ (navAttribute ++ rest) from heq)
    exact ⟨pre', rfl, hrest⟩
  rcases hquote with rfl | rfl
  · rcases mark_cut hvalue h with ⟨pre₁, hpre, heq⟩ | hhead | ⟨-, hhead⟩ | ⟨-, hhead⟩
    · exact .inr (hskip pre₁ hpre heq)
    · cases hhead
    · cases hhead
    · refine absurd ?_ htext.not_mark.2.2.2
      rw [(List.cons.inj hhead).2]
      rfl
  · rcases List.append_eq_append_iff.mp h with ⟨pre₁, hpre, heq⟩ | ⟨more, rfl, hmark⟩
    · exact .inr (hskip pre₁ hpre heq)
    · obtain ⟨v, rfl, -⟩ := exists_of_cut (by decide) hmark.symm
      exact .inl ⟨rfl, v, rfl⟩

/-- **A value has the mark in single quotes, or the mark stands behind it.** -/
theorem AttributeValue.IsLegal.marks_or_skip {value : AttributeValue} (h : value.IsLegal)
    {text pre rest : Text} (htext : EndsValue text) (hpre : pre.getLast?.any isWordChar = false)
    (heq : value.spell ++ text = pre ++ (navAttribute ++ rest)) :
    (∃ front behind u v, value = .quoted front behind '\'' (u ++ (navAttribute ++ v)) ∧
      u.getLast?.any isWordChar = false) ∨
    ∃ pre', pre' <:+ pre ∧ text = pre' ++ (navAttribute ++ rest) := by
  cases h with
  | none => exact .inr ⟨pre, List.suffix_refl pre, heq⟩
  | @bare front behind value hfront hbehind _ hvalue =>
    have hplain : '"' ∉ value := fun hmem => absurd (hvalue _ hmem) (by decide)
    have heq : (front ++ '=' :: behind) ++ (value ++ text) = pre ++ (navAttribute ++ rest) := by
      simpa [AttributeValue.spell] using heq
    obtain ⟨pre₁, rfl, heq₁⟩ := mark_skip (i_not_mem_sign hfront hbehind) heq
    obtain ⟨pre₂, rfl, heq₂⟩ := mark_behind hplain htext heq₁
    exact .inr ⟨pre₂, ⟨(front ++ '=' :: behind) ++ value, by simp⟩, heq₂⟩
  | @quoted front behind value quote hfront hbehind hquote hvalue =>
    have heq : ((front ++ '=' :: behind) ++ [quote]) ++ (value ++ quote :: text) =
        pre ++ (navAttribute ++ rest) := by
      simpa [AttributeValue.spell] using heq
    have hopen : 'i' ∉ (front ++ '=' :: behind) ++ [quote] := by
      rw [List.mem_append, not_or]
      refine ⟨i_not_mem_sign hfront hbehind, ?_⟩
      rcases hquote with rfl | rfl <;> decide
    obtain ⟨pre₁, rfl, heq₁⟩ := mark_skip hopen heq
    rcases mark_quoted hquote hvalue htext heq₁ with ⟨rfl, v, rfl⟩ | ⟨pre₂, rfl, heq₂⟩
    · have hword := any_getLast?_of_isSuffix (List.suffix_append _ pre₁) hpre
      exact .inl ⟨front, behind, pre₁, v, rfl, hword⟩
    · exact .inr ⟨pre₂, ⟨((front ++ '=' :: behind) ++ [quote]) ++ (value ++ [quote]), by simp⟩,
        heq₂⟩

/-- The spelling of a value starts with white space or with its sign. -/
theorem AttributeValue.IsLegal.head {value : AttributeValue} (h : value.IsLegal) {text : Text}
    (htext : EndsValue text) : (value.spell ++ text).head? ≠ some 'd' := by
  have hsign : ∀ front more : Text, (∀ c ∈ front, isBlank c = true) →
      (front ++ '=' :: more).head? ≠ some 'd' := by
    intro front more hfront hhead
    cases front with
    | nil => cases hhead
    | cons c front =>
      obtain rfl : c = 'd' := by simpa using hhead
      exact absurd (hfront 'd' (by simp)) (by decide)
  cases h with
  | none => exact htext.not_mark.1
  | @bare front behind value hfront =>
    simpa [AttributeValue.spell] using hsign front (behind ++ (value ++ text)) hfront
  | @quoted front behind value quote hfront =>
    simpa [AttributeValue.spell] using
      hsign front (behind ++ quote :: (value ++ quote :: text)) hfront

/-- A value that starts as the mark goes on behind its two letters is the mark's. -/
theorem AttributeValue.IsLegal.eq_nav {value : AttributeValue} (h : value.IsLegal)
    {text rest : Text} (htext : EndsValue text)
    (heq : value.spell ++ text = '=' :: '"' :: 'n' :: 'a' :: 'v' :: '"' :: rest) :
    value = .quoted [] [] '"' ['n', 'a', 'v'] := by
  -- no white space stands where the mark has none
  have hgap : ∀ {gap more more' : Text} {c : Char}, (∀ d ∈ gap, isBlank d = true) →
      isBlank c = false → gap ++ more = c :: more' → gap = [] := by
    intro gap more more' c hgap hc hcut
    cases gap with
    | nil => rfl
    | cons d gap =>
      obtain ⟨rfl, -⟩ := List.cons.inj hcut
      rw [hgap d (by simp)] at hc
      cases hc
  cases h with
  | none =>
    refine absurd ?_ htext.not_mark.2.1
    rw [show text = _ from heq]
    rfl
  | @bare front behind value hfront hbehind hne hvalue =>
    have heq : front ++ '=' :: (behind ++ (value ++ text)) =
        '=' :: '"' :: 'n' :: 'a' :: 'v' :: '"' :: rest := by
      simpa [AttributeValue.spell] using heq
    obtain rfl := hgap hfront (by decide) heq
    have heq := (List.cons.inj heq).2
    obtain rfl := hgap hbehind (by decide) heq
    obtain ⟨c, value, rfl⟩ := List.exists_cons_of_ne_nil hne
    obtain ⟨rfl, -⟩ := List.cons.inj heq
    exact absurd (hvalue '"' (by simp)) (by decide)
  | @quoted front behind value quote hfront hbehind hquote hvalue =>
    have heq : front ++ '=' :: (behind ++ quote :: (value ++ quote :: text)) =
        '=' :: '"' :: 'n' :: 'a' :: 'v' :: '"' :: rest := by
      simpa [AttributeValue.spell] using heq
    obtain rfl := hgap hfront (by decide) heq
    have heq := (List.cons.inj heq).2
    obtain rfl := hgap hbehind (by decide) heq
    obtain ⟨rfl, heq⟩ := List.cons.inj heq
    have hopen : ∀ c ∈ value, (c != '"') = true := by
      intro c hc
      simpa using fun heq : c = '"' => hvalue (heq ▸ hc)
    obtain rfl : value = ['n', 'a', 'v'] := by
      have heq : value ++ '"' :: text = ['n', 'a', 'v'] ++ '"' :: rest := heq
      exact word_unique heq hopen (by decide) rfl rfl
    rfl

/-- **An attribute has the mark, or the mark stands behind it.** -/
theorem Attribute.IsLegal.marks_or_skip {a : Attribute} (h : a.IsLegal) {text pre rest : Text}
    (htext : EndsValue text) (hpre : pre.getLast?.any isWordChar = false)
    (heq : a.spell ++ text = pre ++ (navAttribute ++ rest)) :
    a.Marks ∨ ∃ pre', pre' <:+ pre ∧ text = pre' ++ (navAttribute ++ rest) := by
  obtain ⟨gap, name, value⟩ := a
  have hplain : ∀ c : Char, isBlank c = false → isTagNameChar c = false → c ∉ gap ++ name := by
    intro c hblank hchar hmem
    rcases List.mem_append.mp hmem with hmem | hmem
    · simp [h.gap c hmem] at hblank
    · simp [h.name c hmem] at hchar
  have heq : (gap ++ name) ++ (value.spell ++ text) = pre ++ (navAttribute ++ rest) := by
    simpa [Attribute.spell] using heq
  rcases mark_cut (hplain '"' (by decide) (by decide)) heq with
    ⟨pre₁, rfl, heq₁⟩ | hhead | ⟨hname, hvalue⟩ | ⟨hname, -⟩
  · have hpre₁ := any_getLast?_of_isSuffix (List.suffix_append _ pre₁) hpre
    rcases h.value.marks_or_skip htext hpre₁ heq₁ with
      ⟨front, behind, u, v, rfl, hword⟩ | ⟨pre₂, hsuffix, hskip⟩
    · exact .inl (.inside hword)
    · exact .inr ⟨pre₂, hsuffix.trans (List.suffix_append _ pre₁), hskip⟩
  · exact absurd hhead (h.value.head htext)
  · obtain rfl := h.value.eq_nav htext hvalue
    left
    -- the two letters belong to the name, since no letter is white space
    rcases List.append_eq_append_iff.mp hname with ⟨front, rfl, rfl⟩ | ⟨more, rfl, hmore⟩
    · exact .named (any_getLast?_of_isSuffix (List.suffix_append gap front) hpre)
    · cases more with
      | nil =>
        obtain rfl : name = [] ++ ['i', 'd'] := by simpa using hmore.symm
        exact .named rfl
      | cons c more =>
        obtain ⟨rfl, -⟩ := List.cons.inj hmore
        exact absurd (h.gap 'i' (by simp)) (by decide)
  · exact absurd (hname ▸ by simp) (hplain '=' (by decide) (by decide))

theorem endsValue_attributes {as : List Attribute} {tail : Text} (has : ∀ a ∈ as, a.IsLegal)
    (htail : ∀ c ∈ tail, endsAttributes c = true) :
    EndsValue (as.flatMap Attribute.spell ++ tail) := by
  intro c hc
  cases as with
  | nil => exact htail c (List.mem_of_head? hc)
  | cons a as =>
    have ha := has a (by simp)
    obtain ⟨d, gap, hgap⟩ := List.exists_cons_of_ne_nil ha.apart
    obtain rfl : d = c := by simpa [Attribute.spell, hgap] using hc
    simp [endsAttributes, ha.gap d (by simp [hgap])]

/-- **The mark stands in one of the attributes**, if it stands behind the name of the tag. -/
theorem exists_marks {as : List Attribute} {tail pre rest : Text} (has : ∀ a ∈ as, a.IsLegal)
    (htail : ∀ c ∈ tail, endsAttributes c = true) (hpre : pre.getLast?.any isWordChar = false)
    (heq : as.flatMap Attribute.spell ++ tail = pre ++ (navAttribute ++ rest)) :
    ∃ a ∈ as, a.Marks := by
  induction as generalizing pre with
  | nil =>
    have hmem : 'i' ∈ tail := by
      rw [show tail = _ from heq]
      simp [navAttribute]
    exact absurd (htail _ hmem) (by decide)
  | cons a as ih =>
    have has' : ∀ b ∈ as, b.IsLegal := fun b hb => has b (by simp [hb])
    have heq : a.spell ++ (as.flatMap Attribute.spell ++ tail) = pre ++ (navAttribute ++ rest) := by
      simpa using heq
    rcases (has a (by simp)).marks_or_skip (endsValue_attributes has' htail) hpre heq with
      hmarks | ⟨pre', hsuffix, heq'⟩
    · exact ⟨a, by simp, hmarks⟩
    · obtain ⟨b, hb, hmarks⟩ := ih has' (any_getLast?_of_isSuffix hsuffix hpre) heq'
      exact ⟨b, by simp [hb], hmarks⟩

/-- **A tag in which the navigation element is found** looks like it. -/
theorem StartTag.IsLegal.looksNav_of_navDiv {tag : StartTag} (h : tag.IsLegal)
    {last : Option Char} {behind rest : Text}
    (hfits : navDiv last (tag.spell ++ behind) = some rest) : tag.LooksNav := by
  obtain ⟨front, tail, heq, hfront, htail, hword⟩ := navDiv_eq_some hfits
  -- all of it stands in front of the bracket that closes the tag
  have hfree : '>' ∉ ['d', 'i', 'v'] ++ front ++ (navAttribute ++ tail) := by
    have hstays : ∀ {text : Text}, (∀ c ∈ text, staysInTag c = true) → '>' ∉ text :=
      fun htext hmem => absurd (htext _ hmem) (by decide)
    simp [hstays hfront, hstays htail, navAttribute]
  have heq : tag.inner ++ '>' :: behind =
      (['d', 'i', 'v'] ++ front ++ (navAttribute ++ tail)) ++ '>' :: rest := by
    simpa [StartTag.spell, divStart] using heq
  obtain ⟨mid, hinner, -⟩ := exists_of_cut hfree heq
  have hinner : tag.inner = ['d', 'i', 'v'] ++ front ++ (navAttribute ++ (tail ++ mid)) := by
    simpa using hinner
  have hlegal := endsValue_attributes h.attributes h.tail
  have hquote : '"' ∉ tag.name := fun hmem => absurd (h.name _ hmem) (by decide)
  have hpre : (['d', 'i', 'v'] ++ front).getLast?.any isWordChar = false := by
    refine any_getLast?_of_isSuffix ⟨['<'], ?_⟩ hword
    simp [divStart]
  obtain ⟨pre, hname, hattributes⟩ := mark_behind hquote hlegal hinner
  refine ⟨?_, exists_marks h.attributes h.tail
    (any_getLast?_of_isSuffix ⟨tag.name, hname.symm⟩ hpre) hattributes⟩
  -- the name does not end within the start of the tag: what stands behind it is no letter
  rcases List.append_eq_append_iff.mp hname with ⟨more, hmore, -⟩ | ⟨z, hz, rfl⟩
  · exact ⟨more, hmore⟩
  · cases z with
    | nil => exact ⟨[], by simpa using hz.symm⟩
    | cons c z =>
      have hc : endsAttributes c = true := hlegal c (by simp [hattributes])
      have hletter : c ∈ ['d', 'i', 'v'] := by simp [hz]
      exact absurd hc ((by decide : ∀ c ∈ ['d', 'i', 'v'], ¬ endsAttributes c = true) c hletter)

/-- In an attribute that has the mark, no word runs into it. -/
theorem Attribute.Marks.spell_eq {a : Attribute} (h : a.Marks) (hlegal : a.IsLegal) :
    ∃ front c rest, a.spell = (front ++ [c]) ++ (navAttribute ++ rest) ∧ isWordChar c = false := by
  cases h with
  | @named gap front word =>
    obtain ⟨g, c, rfl⟩ := exists_concat hlegal.apart
    rcases List.eq_nil_or_concat front with rfl | ⟨front, d, rfl⟩
    · exact ⟨g, c, [], by simp [Attribute.spell, AttributeValue.spell, navAttribute],
        isWordChar_of_isBlank (hlegal.gap c (by simp))⟩
    · exact ⟨g ++ c :: front, d, [], by simp [Attribute.spell, AttributeValue.spell, navAttribute],
        by simpa using word⟩
  | @inside gap name front behind u v word =>
    rcases List.eq_nil_or_concat u with rfl | ⟨u, d, rfl⟩
    · exact ⟨gap ++ (name ++ (front ++ '=' :: behind)), '\'', v ++ ['\''],
        by simp [Attribute.spell, AttributeValue.spell], by decide⟩
    · exact ⟨gap ++ (name ++ (front ++ '=' :: (behind ++ '\'' :: u))), d, v ++ ['\''],
        by simp [Attribute.spell, AttributeValue.spell], by simpa using word⟩

/-- The navigation element is found where no word runs into its mark. -/
theorem navDiv_of_mark {front tail : Text} {c : Char}
    (hfront : ∀ d ∈ front ++ [c], staysInTag d = true) (htail : ∀ d ∈ tail, staysInTag d = true)
    (hc : isWordChar c = false) (last : Option Char) (rest : Text) :
    (navDiv last (divStart ++ ((front ++ [c]) ++ (navAttribute ++ (tail ++ '>' :: rest))))).isSome =
      true := by
  unfold navDiv
  rw [Shape.literal_append]
  refine Shape.run_isSome hfront ?_
  have hboundary : isBoundary (some c) (navAttribute ++ (tail ++ '>' :: rest)) = true := by
    have hi : isWordChar 'i' = true := by decide
    simp [isBoundary, navAttribute, hc, hi]
  rw [Shape.behind_concat, Shape.boundary, if_pos hboundary, Shape.literal_append]
  exact Shape.run_isSome htail (by simp [Shape.finish])

/-- **A tag on one line that looks like the navigation element's** is taken for it. -/
theorem StartTag.LooksNav.navDiv_isSome {tag : StartTag} (looks : tag.LooksNav)
    (h : tag.IsLegal) (hline : ∀ c ∈ tag.inner, staysInTag c = true) (last : Option Char)
    (behind : Text) : (navDiv last (tag.spell ++ behind)).isSome = true := by
  obtain ⟨⟨more, hname⟩, a, ha, hmarks⟩ := looks
  obtain ⟨as, bs, hattributes⟩ := List.append_of_mem ha
  obtain ⟨front, c, rest, hspell, hc⟩ := hmarks.spell_eq (h.attributes a ha)
  have hinner : tag.inner = ['d', 'i', 'v'] ++ (((more ++ as.flatMap Attribute.spell ++ front) ++
      [c]) ++ (navAttribute ++ (rest ++ bs.flatMap Attribute.spell ++ tag.tail))) := by
    simp [StartTag.inner, hname, hattributes, hspell]
  rw [hinner] at hline
  have hfront := fun d hd => hline d (List.mem_append_right _ (List.mem_append_left _ hd))
  have htail := fun d hd => hline d (List.mem_append_right _ (List.mem_append_right _
    (List.mem_append_right _ hd)))
  have := navDiv_of_mark hfront htail hc last behind
  simpa [StartTag.spell, hinner, divStart] using this

/-! ## Where the switcher is written -/

/-- **Where the switcher is written.**  It goes behind the first closing bracket of the tag that was
    found.  That is the end of the tag unless a quote is open there, and then it goes into the tag.
    And that is the navigation element's tag if one that looks like it stands on one line anywhere
    in the text, and only if it looks like it. -/
theorem addSwitcher_anchor {w : Wiring} {text : Text} {p : Passage}
    (hnone : hasOpeningTag w.switcherTag text = false) (h : findAnchor text = some p) :
    p.whole = text ∧
    (∃ indent, (∀ c ∈ indent, isIndent c = true) ∧ addSwitcher w text =
      some (p.before ++ p.body ++ switcherSnippet w indent (Import.lineEnding text) ++ p.after)) ∧
    (∃ inner, p.body = divStart ++ (inner ++ ['>']) ∧ (∀ c ∈ inner, staysInTag c = true) ∧
      (splitTag none (p.body ++ p.after) = some (p.body, p.after) ↔
        quoteAfter none inner = none)) ∧
    (∀ tag rest, splitTag none (p.body ++ p.after) = some (tag, rest) → p.body <+: tag) ∧
    (∀ (tag : StartTag) behind, Shape.firstOf navDiv text = some p → tag.IsLegal →
      p.body ++ p.after = tag.spell ++ behind → tag.LooksNav) ∧
    ∀ front (tag : StartTag) behind, text = front ++ (tag.spell ++ behind) → tag.IsLegal →
      (∀ c ∈ tag.inner, staysInTag c = true) → tag.LooksNav →
      Shape.firstOf navDiv text = some p := by
  obtain ⟨htext, inner, hbody, hinner⟩ := findAnchor_body h
  have hfree : '>' ∉ inner := fun hmem => absurd (hinner _ hmem) (by decide)
  have hindent : ∀ c ∈ (lastLine p.before ++ p.body ++ p.after).takeWhile isIndent ++ [' ', ' '],
      isIndent c = true := by
    rw [List.forall_mem_append]
    exact ⟨fun c hc => List.mem_takeWhile_imp hc, by decide⟩
  refine ⟨by rw [htext]; simp [Passage.whole], ⟨_, hindent, ?_⟩,
    ⟨inner, hbody, hinner, splitTag_anchor_iff hbody hfree⟩,
    fun tag rest => prefix_of_splitTag hbody hfree, ?_, ?_⟩
  · simp [addSwitcher, hnone, h, Passage.insertBehind]
  · intro tag behind hnav hlegal heq
    obtain ⟨-, hfits, -⟩ := Shape.firstFrom_eq_some navDiv_reads hnav
    rw [heq] at hfits
    exact hlegal.looksNav_of_navDiv hfits
  · rintro front tag behind rfl hlegal hline looks
    have hfound := Shape.firstFrom_isSome (looks.navDiv_isSome hlegal hline
      (Shape.behind none front) behind)
    obtain ⟨q, hq⟩ := Option.isSome_iff_exists.mp hfound
    have hq : Shape.firstOf navDiv (front ++ (tag.spell ++ behind)) = some q := hq
    rw [← h, findAnchor, hq, Option.some_or]

/-- The navigation element is found behind another division, and the switcher is written behind the
    end of its tag. -/
theorem addSwitcher_anchor_sample :
    let text : Text := "<div>x</div><div v-if='a' id=\"nav\"></div>"
    let tag : StartTag := ⟨"div", [⟨[' '], "v-if", .quoted [] [] '\'' ['a']⟩,
      ⟨[' '], "id", .quoted [] [] '"' "nav"⟩], []⟩
    hasOpeningTag ({} : Wiring).switcherTag text = false ∧ ∃ p, findAnchor text = some p ∧
      p.whole = text ∧ p.body = tag.spell ∧ tag.IsLegal ∧ tag.LooksNav ∧
      splitTag none (p.body ++ p.after) = some (p.body, p.after) := by
  intro text tag
  have hnone : hasOpeningTag ({} : Wiring).switcherTag text = false := by decide +kernel
  have hnav : Shape.firstOf navDiv text = some ⟨"<div>x</div>", tag.spell, "</div>"⟩ := by
    decide +kernel
  have h : findAnchor text = some ⟨"<div>x</div>", tag.spell, "</div>"⟩ := by decide +kernel
  have hlegal : tag.IsLegal := by
    refine ⟨by decide +kernel, ?_, by simp [tag]⟩
    simp only [tag, List.forall_mem_cons, List.not_mem_nil, false_implies, implies_true, and_true]
    exact ⟨⟨by decide, by decide +kernel, by decide, by decide +kernel,
        .quoted (by simp) (by simp) (.inr rfl) (by decide)⟩,
      ⟨by decide, by decide +kernel, by decide, by decide +kernel,
        .quoted (by simp) (by simp) (.inl rfl) (by decide)⟩⟩
  obtain ⟨hwhole, -, ⟨inner, hbody, -, hends⟩, -, hlooks, -⟩ := addSwitcher_anchor hnone h
  obtain rfl : inner = tag.inner.drop 3 :=
    (List.append_left_inj ['>']).mp <| List.append_cancel_left <|
      hbody.symm.trans (by decide +kernel)
  exact ⟨hnone, _, h, hwhole, rfl, hlegal, hlooks tag _ hnav hlegal rfl,
    hends.mpr (by decide +kernel)⟩

/-- **A bracket in a quoted value ends the tag** for the two searches, and an attribute and an
    element with longer names are taken for the navigation element's. -/
theorem findAnchor_mistaken :
    (addSwitcher {} "<div v-if=\"a > b\"></div>\n" =
        some ("<div v-if=\"a >" ++ switcherSnippet {} "  " "\n" ++ " b\"></div>\n") ∧
      splitTag none "<div v-if=\"a > b\"></div>\n" =
        some (("<div v-if=\"a > b\">" : Text), ("</div>\n" : Text))) ∧
    Shape.firstOf navDiv "<div>x</div><div data-id=\"nav\"></div>\n" =
      some ⟨"<div>x</div>", "<div data-id=\"nav\">", "</div>\n"⟩ ∧
    Shape.firstOf navDiv "<div>x</div><divider id=\"nav\"></divider>\n" =
      some ⟨"<div>x</div>", "<divider id=\"nav\">", "</divider>\n"⟩ := by
  decide +kernel

end RouteLocalizer.Markup
