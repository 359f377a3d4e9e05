/-
  Whether the option is a PROPERTY of the root instance.

  The properties of an object literal are told by a grammar of its entries: shorthands, keys with a
  value, methods and spreads, with a comma between two of them.  What a value is made of matters
  only for where it ends, so the grammar knows strings, templates, regular expressions and whatever
  stands in brackets, and takes all other characters as they come.  A comment is no part of it.

  The option is put in by a search for its name in the whole object, and the search knows nothing of
  the grammar.  A name that is a property stands in the object (`KeyStands.standsIn`), so nothing is
  put in twice.  But a name may stand in an object and be none of its properties, and then the text
  stays as it is without the option; in all other cases the option becomes the first property.
-/
import RouteLocalizer.Proofs.RootOption

namespace RouteLocalizer.Script

open Text Import

/-! ## Object literals -/

/-- The brackets that a group stands in. -/
def brackets : List (Char × Char) := [('(', ')'), ('[', ']'), ('\x7b', '\x7d')]

/-- A character of code that means nothing to where the code ends. -/
def isCodeChar (c : Char) : Bool :=
  !isQuote c && c != '/' && brackets.all fun pair => c != pair.1 && c != pair.2

/-- Whether a text that starts like this would go on a comment behind a slash. -/
def startsComment (text : Text) : Bool := text.head?.any fun c => c == '/' || c == '*'

/-- A regular expression behind its slash, with the slash that ends it.  In a class, which stands
    in square brackets, a slash ends nothing. -/
inductive RegexTail : Bool → Text → Prop where
  | close : RegexTail false ['/']
  | escaped {inClass : Bool} (c : Char) {rest : Text} (h : RegexTail inClass rest) :
      RegexTail inClass ('\\' :: c :: rest)
  | openClass {rest : Text} (h : RegexTail true rest) : RegexTail false ('[' :: rest)
  | closeClass {rest : Text} (h : RegexTail false rest) : RegexTail true (']' :: rest)
  | char {inClass : Bool} {c : Char} {rest : Text}
      (hc : c ≠ '\\' ∧ c ≠ '[' ∧ c ≠ ']' ∧ (c = '/' → inClass = true))
      (h : RegexTail inClass rest) : RegexTail inClass (c :: rest)

mutual

/-- Code in which every bracket, string, template and regular expression ends.  `commas` says
    whether a comma may stand in it outside of these. -/
inductive Code : Bool → Text → Prop where
  | nil {commas : Bool} : Code commas []
  | char {commas : Bool} {c : Char} {rest : Text} (hc : isCodeChar c = true)
      (hcomma : c = ',' → commas = true) (h : Code commas rest) : Code commas (c :: rest)
  | slash {commas : Bool} {rest : Text} (hcomment : startsComment rest = false)
      (h : Code commas rest) : Code commas ('/' :: rest)
  | regex {commas : Bool} {tail rest : Text} (hcomment : startsComment tail = false)
      (htail : RegexTail false tail) (h : Code commas rest) : Code commas ('/' :: (tail ++ rest))
  | string {commas : Bool} {quote : Char} {tail rest : Text} (hquote : quote = '\'' ∨ quote = '"')
      (htail : StringTail quote tail) (h : Code commas rest) :
      Code commas (quote :: (tail ++ rest))
  | template {commas : Bool} {tail rest : Text} (htail : TemplateTail tail)
      (h : Code commas rest) : Code commas ('\x60' :: (tail ++ rest))
  | group {commas : Bool} {pair : Char × Char} {inner rest : Text} (hpair : pair ∈ brackets)
      (hinner : Code true inner) (h : Code commas rest) :
      Code commas (pair.1 :: (inner ++ pair.2 :: rest))

/-- A template behind its opening quote, with the quote that ends it. -/
inductive TemplateTail : Text → Prop where
  | close : TemplateTail ['\x60']
  | escaped (c : Char) {rest : Text} (h : TemplateTail rest) : TemplateTail ('\\' :: c :: rest)
  | substitution {inner rest : Text} (hinner : Code true inner) (h : TemplateTail rest) :
      TemplateTail ('$' :: '\x7b' :: (inner ++ '\x7d' :: rest))
  | char {c : Char} {rest : Text} (hslash : c ≠ '\\') (hquote : c ≠ '\x60')
      (hdollar : c = '$' → rest.head? ≠ some '\x7b') (h : TemplateTail rest) :
      TemplateTail (c :: rest)

end

/-- Characters of code in front of code. -/
theorem Code.append_of_plain {commas : Bool} {front rest : Text}
    (hfront : ∀ c ∈ front, isCodeChar c = true ∧ (c = ',' → commas = true))
    (h : Code commas rest) : Code commas (front ++ rest) := by
  induction front with
  | nil => exact h
  | cons c front ih =>
    obtain ⟨hc, hcomma⟩ := hfront c (by simp)
    exact .char hc hcomma (ih fun d hd => hfront d (by simp [hd]))

/-- Characters of code alone. -/
theorem Code.of_plain {commas : Bool} {text : Text}
    (htext : ∀ c ∈ text, isCodeChar c = true ∧ (c = ',' → commas = true)) : Code commas text := by
  simpa using Code.append_of_plain htext .nil

/-- A word that may be a property's name, as it is spelled. -/
def IsPropertyName (name : Text) : Prop :=
  name ≠ [] ∧ ∀ c ∈ name, isIdentifierChar c = true ∨ isWordChar c = true ∨ c = '\\'

/-- A number that is no word. -/
def IsNumeral (text : Text) : Prop :=
  (∃ c ∈ text.head?, c = '.' ∨ isDecimalDigit c = true) ∧
    ∀ c ∈ text, isIdentifierChar c = true ∨ c = '.' ∨ c = '+' ∨ c = '-'

/-- The key of a property, with the name that it spells.  A computed key spells none. -/
inductive SpellsKey : List Text → Text → Prop where
  | word {name : Text} (h : IsPropertyName name) : SpellsKey [name] name
  | quoted {quote : Char} {name : Text} (hquote : quote = '\'' ∨ quote = '"')
      (h : StringTail quote (name ++ [quote])) : SpellsKey [name] (quote :: (name ++ [quote]))
  | numeral {text : Text} (h : IsNumeral text) : SpellsKey [] text
  | computed {inner : Text} (h : Code true inner) : SpellsKey [] ('[' :: (inner ++ [']']))

/-- What may stand in front of a method's name. -/
def IsMethodFront (front : Text) : Prop :=
  ∃ word gap star gap', front = word ++ (gap ++ (star ++ gap')) ∧
    word ∈ [[], "get".toList, "set".toList, "async".toList] ∧ star ∈ [[], ['*']] ∧
    (∀ c ∈ gap, isBlank c = true) ∧ ∀ c ∈ gap', isBlank c = true

/-- An entry of an object literal, with the names of the properties that it gives. -/
inductive SpellsEntry : List Text → Text → Prop where
  | shorthand {name : Text} (h : IsPropertyName name) : SpellsEntry [name] name
  | property {names : List Text} {key gap value : Text} (hkey : SpellsKey names key)
      (hgap : ∀ c ∈ gap, isBlank c = true) (hvalue : Code false value)
      (hne : ∃ c ∈ value, isBlank c = false) : SpellsEntry names (key ++ (gap ++ ':' :: value))
  | method {names : List Text} {front key gap params gap' body : Text} (hfront : IsMethodFront front)
      (hkey : SpellsKey names key)
      (hcut : front.getLast?.any isIdentifierChar = false ∨
        key.head?.any isIdentifierChar = false)
      (hgap : ∀ c ∈ gap, isBlank c = true) (hparams : Code true params)
      (hgap' : ∀ c ∈ gap', isBlank c = true) (hbody : Code true body) :
      SpellsEntry names
        (front ++ (key ++ (gap ++ '(' :: (params ++ ')' :: (gap' ++ '\x7b' :: (body ++ ['\x7d']))))))
  | spread {value : Text} (hvalue : Code false value) (hne : ∃ c ∈ value, isBlank c = false) :
      SpellsEntry [] ('.' :: '.' :: '.' :: value)

/-- The entries of an object literal, up to the brace that ends it.  A comma may stand behind the
    last entry. -/
inductive SpellsEntries : List Text → Text → Prop where
  | close {gap : Text} (hgap : ∀ c ∈ gap, isBlank c = true) : SpellsEntries [] (gap ++ ['\x7d'])
  | last {names : List Text} {gap entry gap' : Text} (hgap : ∀ c ∈ gap, isBlank c = true)
      (hentry : SpellsEntry names entry) (hgap' : ∀ c ∈ gap', isBlank c = true) :
      SpellsEntries names (gap ++ (entry ++ (gap' ++ ['\x7d'])))
  | more {names later : List Text} {gap entry gap' rest : Text} (hgap : ∀ c ∈ gap, isBlank c = true)
      (hentry : SpellsEntry names entry) (hgap' : ∀ c ∈ gap', isBlank c = true)
      (h : SpellsEntries later rest) :
      SpellsEntries (names ++ later) (gap ++ (entry ++ (gap' ++ ',' :: rest)))

/-- An object literal with the names of its properties. -/
def SpellsObject (names : List Text) (text : Text) : Prop :=
  ∃ entries, text = '\x7b' :: entries ∧ SpellsEntries names entries

/-- A shorthand in front of all entries is the first property. -/
theorem SpellsObject.cons {names : List Text} {inner gap name : Text}
    (h : SpellsObject names ('\x7b' :: inner)) (hgap : ∀ c ∈ gap, isBlank c = true)
    (hname : IsIdentifier name) :
    SpellsObject (name :: names) ('\x7b' :: ((gap ++ (name ++ [','])) ++ inner)) := by
  obtain ⟨entries, heq, hentries⟩ := h
  obtain rfl : inner = entries := (List.cons.inj heq).2
  have hmore : SpellsEntries ([name] ++ names) (gap ++ (name ++ ([] ++ ',' :: inner))) :=
    .more hgap (.shorthand ⟨hname.nonempty, fun c hc => .inl (hname.chars c hc)⟩) (by simp)
      hentries
  exact ⟨_, rfl, by simpa using hmore⟩

/-! ## Where a property's name stands -/

/-- What may stand right in front of a key's name. -/
def startsKey (c : Char) : Bool := isBlank c || "\x7b,*'\"".toList.contains c

/-- What may stand right behind a key's name. -/
def endsKey (c : Char) : Bool := isBlank c || ":,(\x7d'\"".toList.contains c

/-- A name that stands in a text as a key does, as far as the characters beside it tell. -/
def KeyStands (name text : Text) : Prop :=
  ∃ before after, text = before ++ (name ++ after) ∧
    before.getLast?.all startsKey = true ∧ after.head?.all endsKey = true

variable {names : List Text} {name text : Text}

/-- A text around another one, of which the key keeps its neighbours. -/
theorem KeyStands.between (h : KeyStands name text) (hname : IsIdentifier name) (front back : Text)
    (hfront : front.getLast?.all startsKey = true ∨ text.head?.any isIdentifierChar = false)
    (hback : back.head?.all endsKey = true) : KeyStands name (front ++ (text ++ back)) := by
  obtain ⟨before, after, rfl, hbefore, hafter⟩ := h
  refine ⟨front ++ before, after ++ back, by simp, ?_, ?_⟩
  · cases hlast : before.getLast? with
    | some c => simpa [List.getLast?_append, hlast] using hbefore
    | none =>
      obtain rfl := List.getLast?_eq_none_iff.mp hlast
      rcases hfront with hfront | hhead
      · simpa using hfront
      · -- the text starts with the name then
        obtain ⟨c, name, rfl⟩ := List.exists_cons_of_ne_nil hname.nonempty
        simp [hname.chars c (by simp)] at hhead
  · cases hhead : after.head? with
    | none => simpa [List.head?_append, hhead] using hback
    | some c => simpa [List.head?_append, hhead] using hafter

theorem not_isIdentifierChar_of_startsKey {c : Char} (h : startsKey c = true) :
    isIdentifierChar c = false := by
  rcases Bool.or_eq_true_iff.mp h with hblank | hmem
  · exact not_isIdentifierChar_of_isBlank hblank
  · have hsigns : ∀ d ∈ "\x7b,*'\"".toList, isIdentifierChar d = false := by decide
    exact hsigns c (List.contains_iff_mem.mp hmem)

theorem not_isIdentifierChar_of_endsKey {c : Char} (h : endsKey c = true) :
    isIdentifierChar c = false := by
  rcases Bool.or_eq_true_iff.mp h with hblank | hmem
  · exact not_isIdentifierChar_of_isBlank hblank
  · have hsigns : ∀ d ∈ ":,(\x7d'\"".toList, isIdentifierChar d = false := by decide
    exact hsigns c (List.contains_iff_mem.mp hmem)

/-- What stands beside a key is no part of a name. -/
theorem KeyStands.standsIn (h : KeyStands name text) : StandsIn name text := by
  obtain ⟨before, after, htext, hbefore, hafter⟩ := h
  refine ⟨before, after, htext, isBounded_iff.mpr ⟨?_, ?_⟩⟩
  · cases hlast : before.getLast? with
    | none => rfl
    | some c =>
      rw [hlast, Option.all_some] at hbefore
      exact not_isIdentifierChar_of_startsKey hbefore
  · cases hhead : after.head? with
    | none => rfl
    | some c =>
      rw [hhead, Option.all_some] at hafter
      exact not_isIdentifierChar_of_endsKey hafter

theorem startsKey_of_isBlank {c : Char} (h : isBlank c = true) : startsKey c = true := by
  simp [startsKey, h]

theorem getLast?_blank {gap : Text} (hgap : ∀ c ∈ gap, isBlank c = true) :
    gap.getLast?.all startsKey = true := by
  cases hlast : gap.getLast? with
  | none => rfl
  | some c => exact startsKey_of_isBlank (hgap c (List.mem_of_getLast? hlast))

/-- White space in front of a sign that ends a key. -/
theorem head?_blank {gap rest : Text} {c : Char} (hgap : ∀ c ∈ gap, isBlank c = true)
    (hc : endsKey c = true) : (gap ++ c :: rest).head?.all endsKey = true := by
  cases gap with
  | nil => simpa using hc
  | cons d gap => simp [endsKey, hgap d (by simp)]

/-- What stands in front of a method's name ends with white space or an asterisk, unless it ends
    with a word. -/
theorem IsMethodFront.getLast? {front : Text} (h : IsMethodFront front)
    (hcut : front.getLast?.any isIdentifierChar = false) :
    front.getLast?.all startsKey = true := by
  obtain ⟨word, gap, star, gap', rfl, hword, hstar, hgap, hgap'⟩ := h
  cases hlast : (word ++ (gap ++ (star ++ gap'))).getLast? with
  | none => rfl
  | some c =>
    have hmem := List.mem_of_getLast? hlast
    rw [hlast, Option.any_some] at hcut
    simp only [List.mem_append] at hmem
    rcases hmem with hmem | hmem | hmem | hmem
    · have hwords : ∀ word ∈ [[], "get".toList, "set".toList, "async".toList], ∀ c ∈ word,
          isIdentifierChar c = true := by decide
      rw [hwords word hword c hmem] at hcut
      cases hcut
    · exact startsKey_of_isBlank (hgap c hmem)
    · have hstars : ∀ star ∈ [[], ['*']], ∀ c ∈ star, startsKey c = true := by decide
      exact hstars star hstar c hmem
    · exact startsKey_of_isBlank (hgap' c hmem)

/-! ## Every property's name stands in the object -/

theorem SpellsKey.keyStands (h : SpellsKey names text) (hmem : name ∈ names) :
    KeyStands name text := by
  cases h with
  | word => exact ⟨[], [], by simpa using (List.mem_singleton.mp hmem).symm, rfl, rfl⟩
  | @quoted quote _ hquote =>
    obtain rfl := List.mem_singleton.mp hmem
    refine ⟨[quote], [quote], rfl, ?_, ?_⟩ <;> rcases hquote with rfl | rfl <;> decide
  | numeral => cases hmem
  | computed => cases hmem

theorem SpellsEntry.keyStands (h : SpellsEntry names text) (hname : IsIdentifier name)
    (hmem : name ∈ names) : KeyStands name text := by
  cases h with
  | shorthand => exact ⟨[], [], by simpa using (List.mem_singleton.mp hmem).symm, rfl, rfl⟩
  | property hkey hgap hvalue hne =>
    exact (hkey.keyStands hmem).between hname [] _ (.inl rfl) (head?_blank hgap (by decide))
  | method hfront hkey hcut hgap hparams hgap' hbody =>
    exact (hkey.keyStands hmem).between hname _ _ (hcut.imp_left hfront.getLast?)
      (head?_blank hgap (by decide))
  | spread => cases hmem

/-- **A name that is a property stands in the object as a key.** -/
theorem SpellsEntries.keyStands (h : SpellsEntries names text) (hname : IsIdentifier name)
    (hmem : name ∈ names) : KeyStands name text := by
  induction h with
  | close => cases hmem
  | last hgap hentry hgap' =>
    exact (hentry.keyStands hname hmem).between hname _ _ (.inl (getLast?_blank hgap))
      (head?_blank hgap' (by decide))
  | @more _ _ gap entry gap' rest hgap hentry hgap' _ ih =>
    rcases List.mem_append.mp hmem with hmem | hmem
    · exact (hentry.keyStands hname hmem).between hname _ _ (.inl (getLast?_blank hgap))
        (head?_blank hgap' (by decide))
    · have hlater := (ih hmem).between hname (gap ++ (entry ++ (gap' ++ [',']))) []
        (.inl (by simp [← List.append_assoc, startsKey])) rfl
      simpa using hlater

theorem SpellsObject.keyStands (h : SpellsObject names text) (hname : IsIdentifier name)
    (hmem : name ∈ names) : KeyStands name text := by
  obtain ⟨entries, rfl, hentries⟩ := h
  simpa using (hentries.keyStands hname hmem).between hname ['\x7b'] [] (.inl (by decide)) rfl

/-! ## The option as a property -/

variable {host option : Text}

/-- **The root instance gets the option as its first property, unless its object names it
    already.**  Where the name is a property it does.  But the name counts wherever it stands in the
    object, and where it stands as something else the text stays without the property. -/
theorem injectRootOption_property (hoption : IsIdentifier option) {object : Passage}
    (hfound : findRootOptions host text = some object) (hobject : SpellsObject names object.body) :
    ∃ body names', SpellsObject names' body ∧
      injectRootOption host option text = object.before ++ (body ++ object.after) ∧
      (IsIdentifier host → findRootOptions host (injectRootOption host option text) =
        some ⟨object.before, body, object.after⟩) ∧
      (StandsIn option object.body →
        injectRootOption host option text = text ∧ body = object.body ∧ names' = names) ∧
      (¬StandsIn option object.body →
        injectRootOption host option text ≠ text ∧ names' = option :: names) ∧
      (option ∈ names → StandsIn option object.body) := by
  obtain ⟨inner, hinner, hcall, -⟩ := findRootOptions_eq hfound
  have hwhole : text = object.before ++ (object.body ++ object.after) := by
    rw [hcall.whole, hinner]
    simp
  have hproperty : option ∈ names → StandsIn option object.body := fun hmem =>
    (hobject.keyStands hoption hmem).standsIn
  by_cases hstands : StandsIn option object.body
  · have hsame : injectRootOption host option text = text := by
      rw [injectRootOption_of_found hfound hinner,
        if_pos ((hasIdentifier_iff hoption _).mpr hstands)]
    exact ⟨object.body, names, hobject, by rw [hsame, ← hwhole], fun _ => by rw [hsame, hfound],
      fun _ => ⟨hsame, rfl, rfl⟩, fun hnot => absurd hstands hnot, hproperty⟩
  · rcases injectRootOption_cases hfound hinner with ⟨hnamed, -⟩ | ⟨gap, hgap, heq⟩
    · exact absurd ((hasIdentifier_iff hoption _).mp hnamed) hstands
    obtain ⟨-, hblank⟩ := hgap.blank
    rw [hinner] at hobject
    refine ⟨_, option :: names, hobject.cons hblank hoption, by simp [heq], fun hhost => ?_,
      fun h => absurd h hstands, fun _ => ⟨fun hsame => ?_, rfl⟩, hproperty⟩
    · rw [heq, findRootOptions_write hhost hfound hinner (braced_option hblank hoption)]
    · -- what was written has taken its place
      have hlength := congrArg List.length (heq.symm.trans hsame)
      simp only [hwhole, hinner, List.length_append, List.length_cons] at hlength
      omega

/-- An object with a shorthand, an object of its own, a method and a spread.  The option becomes its
    first property, and all others follow. -/
theorem injectRootOption_property_nested :
    let object : Text :=
      "\x7b router, nav: \x7b at: [1] \x7d, render(h) \x7b h(App) \x7d, ...rest \x7d"
    ∃ body, SpellsObject ["i18n", "router", "nav", "render"] body ∧
      injectRootOption "Vue" "i18n" ("new Vue(" ++ object ++ ")") =
        "new Vue(" ++ (body ++ ")") := by
  intro object
  have hfound : findRootOptions "Vue" ("new Vue(" ++ object ++ ")") =
      some ⟨"new Vue(", object, ")"⟩ := by decide +kernel
  have hspace : ∀ c ∈ [' '], isBlank c = true := by decide
  have hnone : ∀ c ∈ ([] : Text), isBlank c = true := by decide
  have hword : ∀ word ∈ (["router", "nav", "render"] : List Text), IsPropertyName word := by
    unfold IsPropertyName
    decide +kernel
  have hround : ('(', ')') ∈ brackets := by decide
  have hsquare : ('[', ']') ∈ brackets := by decide
  have hbraces : ('\x7b', '\x7d') ∈ brackets := by decide
  -- the entries, one after another
  have hrouter : SpellsEntry ["router"] "router" := .shorthand (hword _ (by simp))
  have hnav : SpellsEntry ["nav"] ("nav".toList ++ ([] ++ ':' :: (" ".toList ++
      '\x7b' :: ((" at: ".toList ++ '[' :: ("1".toList ++ ']' :: [' '])) ++ ['\x7d'])))) := by
    have hlist : Code true ('[' :: ("1".toList ++ ']' :: [' '])) :=
      .group hsquare (.of_plain (by decide)) (.of_plain (by decide))
    exact .property (.word (hword _ (by simp))) hnone
      (.append_of_plain (by decide) (.group hbraces (.append_of_plain (by decide) hlist) .nil))
      ⟨'1', by decide⟩
  have hrender : SpellsEntry ["render"] ([] ++ ("render".toList ++ ([] ++ '(' :: ("h".toList ++
      ')' :: ([' '] ++ '\x7b' :: ((" h".toList ++ '(' :: ("App".toList ++ ')' :: [' '])) ++
        ['\x7d'])))))) := by
    have hbody : Code true ('(' :: ("App".toList ++ ')' :: [' '])) :=
      .group hround (.of_plain (by decide)) (.of_plain (by decide))
    have hfront : IsMethodFront [] := ⟨[], [], [], [], rfl, by decide, by decide, hnone, hnone⟩
    exact .method hfront (.word (hword _ (by simp))) (.inl rfl) hnone (.of_plain (by decide))
      hspace (.append_of_plain (by decide) hbody)
  have hrest : SpellsEntry [] ('.' :: '.' :: '.' :: "rest".toList) :=
    .spread (.of_plain (by decide)) ⟨'r', by decide⟩
  have hobject : SpellsObject ["router", "nav", "render"] object :=
    ⟨_, by decide +kernel, .more hspace hrouter hnone (.more hspace hnav hnone
      (.more hspace hrender hnone (.last hspace hrest hspace)))⟩
  have hfree : ¬StandsIn "i18n" object := by
    rw [← hasIdentifier_iff (by decide)]
    decide +kernel
  obtain ⟨body, names', hbody, heq, -, -, hnew, -⟩ := injectRootOption_property
    (show IsIdentifier "i18n" by decide) hfound hobject
  exact ⟨body, (hnew hfree).2 ▸ hbody, heq⟩

/-- **A string that holds the name keeps the option out.**  The object is a literal with one
    property, the text stays as it is, and the option is no property of it. -/
theorem injectRootOption_string :
    findRootOptions "Vue".toList "new Vue(\x7b el: '#i18n' \x7d)".toList =
        some ⟨"new Vue(".toList, "\x7b el: '#i18n' \x7d".toList, ")".toList⟩ ∧
      SpellsObject ["el".toList] "\x7b el: '#i18n' \x7d".toList ∧
      injectRootOption "Vue".toList "i18n".toList "new Vue(\x7b el: '#i18n' \x7d)".toList =
        "new Vue(\x7b el: '#i18n' \x7d)".toList ∧
      ∀ names, SpellsObject names "\x7b el: '#i18n' \x7d".toList → "i18n".toList ∉ names := by
  refine ⟨by decide +kernel, ?_, by decide +kernel, fun names hobject hmem => ?_⟩
  · have hspace : ∀ c ∈ [' '], isBlank c = true := by decide
    have hvalue : Code false " '#i18n'".toList := by
      have hquoted : StringTail '\'' "#i18n'".toList :=
        stringTail_of_plain (show ∀ c ∈ "#i18n".toList, _ by decide)
      exact .char (by decide) (by decide) (.string (.inl rfl) hquoted .nil)
    have hkey : SpellsKey ["el".toList] "el".toList := .word ⟨by decide, by decide⟩
    have hentry : SpellsEntry ["el".toList] "el: '#i18n'".toList :=
      .property hkey (List.forall_mem_nil _) hvalue ⟨'#', by decide⟩
    exact ⟨_, rfl, .last hspace hentry hspace⟩
  · obtain ⟨before, after, htext, hbefore, -⟩ :=
      hobject.keyStands (show IsIdentifier "i18n".toList by decide) hmem
    -- the only place of the name has a sign in front that no key has
    have hplaces : ∀ k ≤ 16, "i18n".toList <+: ("\x7b el: '#i18n' \x7d".toList).drop k →
        ((("\x7b el: '#i18n' \x7d".toList).take k).getLast?.all startsKey) = false := by
      decide +kernel
    have hlength : before.length ≤ 16 := by
      have := congrArg List.length htext
      simp at this
      omega
    have hplace := hplaces before.length hlength
      (by rw [htext, List.drop_left]; exact List.prefix_append _ _)
    rw [htext, List.take_left, hbefore] at hplace
    cases hplace

end RouteLocalizer.Script
