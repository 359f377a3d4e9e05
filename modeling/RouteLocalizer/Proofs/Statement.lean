/-
  Import STATEMENTS with all that a clause may have: a type modifier in front of the whole clause or
  of one binding, a default name, a namespace, and a list of bindings, renamed or not.

  A statement keeps its blanks, each in front of the word or the sign that it belongs to, so that
  what a search makes of a blank can be said about the statement.  `exposed` are the words of a
  clause that stand for themselves; a name that is not among them is only renamed, or renames, or
  names a namespace, or has a type modifier.  Such a name is left alone (`harmless`) except where
  the search mistakes it for a binding of its own, and there are four such places
  (`Element.isMistaken` and `isMistaken`).
-/
import RouteLocalizer.Proofs.Pieces

namespace RouteLocalizer.Import

open Text

/-! ## Clauses with their blanks -/

/-- A word with the blanks in front of it. -/
structure Word where
  gap : Text
  name : Text
deriving DecidableEq

def Word.piece (w : Word) : Piece := ⟨w.gap, .word w.name⟩

/-- What a binding imports: a name, or a quoted one. -/
inductive ImportedName where
  | word (name : Text)
  | quoted (quote : Char) (content : Text)
deriving DecidableEq

def ImportedName.token : ImportedName → Token
  | word name => .word name
  | quoted quote content => .quoted quote content

/-- The word `as` with the blanks in front of it, and the name that a binding is renamed to. -/
structure NewName extends Word where
  asGap : Text
deriving DecidableEq

def NewName.pieces (n : NewName) : List Piece := [⟨n.asGap, .word asWord⟩, n.piece]

/-- A binding of a list. -/
structure Element where
  modifier : Option Word := none
  gap : Text
  name : ImportedName
  newName : Option NewName := none
  /-- The blanks in front of the comma behind the binding, if there is one. -/
  commaGap : Text := []
deriving DecidableEq

/-- What stands in front of the name of a binding: its modifier. -/
def Element.front (e : Element) : List Piece := e.modifier.toList.map Word.piece

/-- What stands behind the name of a binding: its new name. -/
def Element.back (e : Element) : List Piece := e.newName.elim [] NewName.pieces

def Element.pieces (e : Element) : List Piece := e.front ++ ⟨e.gap, e.name.token⟩ :: e.back

/-- A comma behind a binding, if there is one. -/
def commaPiece (gap : Text) (comma : Bool) : List Piece := if comma then [⟨gap, .sign ','⟩] else []

/-- Bindings with commas in between.  `trailing` says whether one stands behind the last. -/
def listPieces (trailing : Bool) : List Element → List Piece
  | [] => []
  | e :: es =>
    e.pieces ++ (commaPiece e.commaGap (!es.isEmpty || trailing) ++ listPieces trailing es)

/-- What stands behind the default name or in its place. -/
inductive Bindings where
  | star (starGap asGap : Text) (name : Word)
  | list (openGap : Text) (elements : List Element) (trailing : Bool) (closeGap : Text)
deriving DecidableEq

def Bindings.pieces : Bindings → List Piece
  | star starGap asGap name => [⟨starGap, .sign '*'⟩, ⟨asGap, .word asWord⟩, name.piece]
  | list openGap elements trailing closeGap =>
    ⟨openGap, .sign '\x7b'⟩ :: (listPieces trailing elements ++ [⟨closeGap, .sign '\x7d'⟩])

/-- An import statement on one line.  `behind` is what follows the word `from`. -/
structure Statement where
  indent : Text := []
  modifier : Option Word := none
  default : Option Word := none
  /-- The blanks in front of the comma behind the default name, if there is one. -/
  commaGap : Text := []
  bindings : Option Bindings := none
  fromGap : Text
  behind : Text
deriving DecidableEq

namespace Statement

variable (s : Statement)

/-- What stands between the words `import` and `from`. -/
def clause : List Piece :=
  s.modifier.toList.map Word.piece ++ (s.default.toList.map Word.piece ++
    (commaPiece s.commaGap (s.default.isSome && s.bindings.isSome) ++
      s.bindings.elim [] Bindings.pieces))

def pieces : List Piece :=
  ⟨s.indent, .word keyword⟩ :: (s.clause ++ [⟨s.fromGap, .word fromWord⟩])

def text : Text := spell s.pieces ++ s.behind

end Statement

/-! ## Words that stand for themselves -/

def ImportedName.words : ImportedName → List Text
  | word name => [name]
  | quoted _ _ => []

/-- The words of a binding that are neither renamed nor have a modifier.  `under` says whether the
    whole clause has one. -/
def Element.exposed (under : Bool) (e : Element) : List Text :=
  e.modifier.toList.map Word.name ++
    match e.newName with
    | some _ => [asWord]
    | none => if under || e.modifier.isSome then [] else e.name.words

def Bindings.exposed (under : Bool) : Bindings → List Text
  | star _ _ _ => [asWord]
  | list _ elements _ _ => elements.flatMap (Element.exposed under)

/-- The words of the clause that are neither renamed nor a namespace nor have a modifier. -/
def Statement.exposed (s : Statement) : List Text :=
  s.modifier.toList.map Word.name ++
    ((if s.modifier.isSome then [] else s.default.toList.map Word.name) ++
      s.bindings.elim [] (Bindings.exposed s.modifier.isSome))

/-! ## Places that are mistaken -/

/-- Whether the search takes the symbol in a binding for a binding of its own: where a tab stands
    beside an `as` and a comma beside the symbol, and where a modifier is overlooked. -/
def Element.isMistaken (symbol : Text) (under commaFront commaBehind : Bool) (e : Element) : Bool :=
  match e.newName with
  | some n =>
    (e.name == .word symbol && e.modifier.isNone && n.gap.head? == some '\t' && commaFront) ||
      (n.name == symbol && n.asGap.getLast? == some '\t' && commaBehind)
  | none => e.name == .word symbol && if e.modifier.isSome then commaBehind else under

/-- Whether one of the bindings is mistaken. -/
def listIsMistaken (symbol : Text) (under trailing : Bool) (commaFront : Bool) :
    List Element → Bool
  | [] => false
  | e :: es => e.isMistaken symbol under commaFront (!es.isEmpty || trailing) ||
      listIsMistaken symbol under trailing true es

def Bindings.isMistaken (symbol : Text) (under : Bool) : Bindings → Bool
  | star _ _ _ => false
  | list _ elements trailing _ => listIsMistaken symbol under trailing false elements

/-- Whether the search takes a place of the symbol in the statement for a binding of its own. -/
def Statement.isMistaken (symbol : Text) (s : Statement) : Bool :=
  (s.modifier.isSome && s.default.any (·.name == symbol) && s.bindings.isSome) ||
    s.bindings.any (Bindings.isMistaken symbol s.modifier.isSome)

/-! ## What stands around a place that is not mistaken -/

variable {symbol : Text} {a b : List Piece} {gap : Text}

/-- Around a place of the symbol there is what keeps the search from it.  A namespace and a quoted
    name do so for all that stands behind them. -/
inductive Harmless (a b : List Piece) : Prop
  | star {p : Piece} (hp : p ∈ a) (h : p.token = .sign '*')
  | quoted {p : Piece} {quote : Char} {content : Text} (hp : p ∈ a)
      (h : p.token = .quoted quote content)
  | renamed {gap : Text} {p : Piece} {b' : List Piece} (hb : b = ⟨gap, .word asWord⟩ :: p :: b')
      (h : EndsWithSign ',' a → p.gap.head? = some ' ')
  | newName {a' : List Piece} {gap : Text} (ha : a = a' ++ [⟨gap, .word asWord⟩])
      (h : StartsWithSign ',' b → gap.getLast? = some ' ')
  | operand {a' : List Piece} {w : Word} (ha : a = a' ++ [w.piece]) (hne : a' ≠ [])
      (h : ¬StartsWithSign ',' b)

theorem not_endsWithSign_word (a : List Piece) (w : Word) (c : Char) :
    ¬EndsWithSign c (a ++ [w.piece]) := by
  rintro ⟨front, gap, h⟩
  have := List.append_inj_right' h rfl
  simp [Word.piece] at this

/-- A place in two lists of pieces is in the one or in the other. -/
theorem append_eq_append_cons {α : Type} {l r a b : List α} {q : α} (h : l ++ r = a ++ q :: b) :
    (∃ b', l = a ++ q :: b' ∧ b = b' ++ r) ∨ ∃ a', r = a' ++ q :: b ∧ a = l ++ a' := by
  rcases List.append_eq_append_iff.mp h with ⟨z, hz, hr⟩ | ⟨z, hz, hr⟩
  · exact .inr ⟨z, hr, hz⟩
  · cases z with
    | nil => exact .inr ⟨[], by simpa using hr.symm, by simpa using hz.symm⟩
    | cons d z =>
      obtain ⟨rfl, hb⟩ := List.cons.inj hr
      exact .inl ⟨z, hz, hb⟩

/-- A place in front of the last piece. -/
theorem append_concat_eq_append_cons {α : Type} {l a b : List α} {p q : α}
    (h : l ++ [p] = a ++ q :: b) (hb : b ≠ []) : ∃ b', l = a ++ q :: b' ∧ b = b' ++ [p] := by
  rcases append_eq_append_cons h with hplace | ⟨a', hlast, -⟩
  · exact hplace
  · cases a' with
    | nil => exact absurd (List.cons.inj hlast).2.symm hb
    | cons p' a' => simp at hlast

/-- A word that is there or not is the only piece. -/
theorem word_of_pieces {w : Option Word}
    (h : w.toList.map Word.piece = a ++ ⟨gap, .word symbol⟩ :: b) :
    ∃ w', w = some w' ∧ w'.name = symbol ∧ a = [] ∧ b = [] := by
  cases w with
  | none => simp at h
  | some w' =>
    cases a with
    | nil =>
      obtain ⟨hpiece, rfl⟩ : w'.piece = ⟨gap, .word symbol⟩ ∧ b = [] := by simpa [eq_comm] using h
      exact ⟨w', rfl, by simpa [Word.piece] using congrArg Piece.token hpiece, rfl, rfl⟩
    | cons p a => simp at h

/-- Blanks that do not start with a tab start with a space. -/
theorem head?_eq_space {g : Text} (hg : Blanks g) (hne : g ≠ []) (htab : g.head? ≠ some '\t') :
    g.head? = some ' ' := by
  obtain ⟨c, g, rfl⟩ := List.exists_cons_of_ne_nil hne
  have hc : c = ' ' ∨ c = '\t' := by simpa [isIndent] using hg c (by simp)
  rcases hc with rfl | rfl
  · rfl
  · exact absurd rfl htab

/-- Blanks that do not end with a tab end with a space. -/
theorem getLast?_eq_space {g : Text} (hg : Blanks g) (hne : g ≠ [])
    (htab : g.getLast? ≠ some '\t') : g.getLast? = some ' ' := by
  obtain ⟨g, c, rfl⟩ := exists_concat hne
  have hc : c = ' ' ∨ c = '\t' := by simpa [isIndent] using hg c (by simp)
  rcases hc with rfl | rfl
  · simp
  · exact absurd (by simp) htab

/-- The blanks beside an `as` are there, in front of it unless a quote stands there. -/
theorem IsSpelling.newName_gaps {a b : List Piece} {p : Piece} {n : NewName}
    (h : IsSpelling (a ++ (p :: (n.pieces ++ b)))) :
    Blanks n.asGap ∧ Blanks n.gap ∧ n.gap ≠ [] ∧ (p.token.isWord = true → n.asGap ≠ []) := by
  have hright : IsSpelling (p :: (n.pieces ++ b)) := h.right
  have hchain := hright.apart
  simp only [NewName.pieces, List.cons_append, List.nil_append, List.isChain_cons_cons] at hchain
  exact ⟨hright.gaps ⟨n.asGap, .word asWord⟩ (by simp [NewName.pieces]),
    hright.gaps n.piece (by simp [NewName.pieces]), hchain.2.1 rfl rfl, fun hp => hchain.1 hp rfl⟩

/-- A comma in front of the name of a binding stands in front of the binding. -/
theorem Element.endsWithSign_front {e : Element} {front : List Piece} {c : Char}
    (h : EndsWithSign c (front ++ e.front)) : e.modifier = none ∧ EndsWithSign c front := by
  unfold Element.front at h
  cases hmodifier : e.modifier with
  | none => exact ⟨rfl, by simpa [hmodifier] using h⟩
  | some m =>
    rw [hmodifier] at h
    exact absurd h (not_endsWithSign_word front m c)

section

variable {e : Element} {under commaFront commaBehind : Bool} {front back : List Piece}

/-- A name that a binding imports is left alone where it is renamed or has a modifier. -/
theorem Element.harmless_name (hname : e.name = .word symbol) (hexposed : symbol ∉ e.exposed under)
    (hclear : e.isMistaken symbol under commaFront commaBehind = false) (hne : front ≠ [])
    (hfront : EndsWithSign ',' front → commaFront = true)
    (hback : StartsWithSign ',' back → commaBehind = true)
    (hspells : IsSpelling (front ++ (e.pieces ++ back))) :
    Harmless (front ++ e.front) (e.back ++ back) := by
  unfold Element.exposed at hexposed
  unfold Element.isMistaken at hclear
  cases hnew : e.newName with
  | none =>
    have hhidden : (under || e.modifier.isSome) = true := by
      by_contra hshown
      simp [hnew, hshown, hname, ImportedName.words] at hexposed
    cases hmodifier : e.modifier with
    | none => simp_all
    | some m =>
      have hcomma : commaBehind = false := by simpa [hnew, hname, hmodifier] using hclear
      have ha : front ++ e.front = front ++ [m.piece] := by simp [Element.front, hmodifier]
      refine .operand ha hne fun hstart => ?_
      rw [hback (by simpa [Element.back, hnew] using hstart)] at hcomma
      cases hcomma
  | some n =>
    have hb : e.back ++ back = ⟨n.asGap, .word asWord⟩ :: n.piece :: back := by
      simp [Element.back, hnew, NewName.pieces]
    refine .renamed hb fun hend => ?_
    obtain ⟨hmodifier, hend⟩ := Element.endsWithSign_front hend
    have hpieces : IsSpelling (front ++ (⟨e.gap, e.name.token⟩ :: (n.pieces ++ back))) := by
      simpa [Element.pieces, Element.front, Element.back, hmodifier, hnew] using hspells
    obtain ⟨-, hgap, hgapNe, -⟩ := hpieces.newName_gaps
    refine head?_eq_space hgap hgapNe fun (htab : n.gap.head? = some '\t') => ?_
    simp [hnew, hname, hmodifier, htab, hfront hend] at hclear

/-- A name that something is renamed to is left alone. -/
theorem Element.harmless_newName {n : NewName} (hnew : e.newName = some n) (hname : n.name = symbol)
    (hclear : e.isMistaken symbol under commaFront commaBehind = false)
    (hback : StartsWithSign ',' back → commaBehind = true)
    (hspells : IsSpelling (front ++ (e.pieces ++ back))) :
    Harmless (front ++ (e.front ++ [⟨e.gap, e.name.token⟩, ⟨n.asGap, .word asWord⟩])) back := by
  unfold Element.isMistaken at hclear
  cases himported : e.name with
  | quoted quote content =>
    exact .quoted (p := ⟨e.gap, .quoted quote content⟩) (by simp [ImportedName.token]) rfl
  | word name =>
    have ha : front ++ (e.front ++ [⟨e.gap, .word name⟩, ⟨n.asGap, .word asWord⟩]) =
        (front ++ (e.front ++ [⟨e.gap, .word name⟩])) ++ [⟨n.asGap, .word asWord⟩] := by simp
    refine .newName ha fun hstart => ?_
    have hpieces :
        IsSpelling ((front ++ e.front) ++ (⟨e.gap, .word name⟩ :: (n.pieces ++ back))) := by
      simpa [Element.pieces, Element.back, hnew, himported, ImportedName.token] using hspells
    obtain ⟨hgap, -, -, hne⟩ := hpieces.newName_gaps
    refine getLast?_eq_space hgap (hne rfl) fun htab => ?_
    simp [hnew, hname, htab, hback hstart] at hclear

/-- A binding that is not mistaken leaves its symbol alone. -/
theorem Element.harmless (hexposed : symbol ∉ e.exposed under)
    (hclear : e.isMistaken symbol under commaFront commaBehind = false)
    (hplace : e.pieces = a ++ ⟨gap, .word symbol⟩ :: b) (hne : front ≠ [])
    (hfront : EndsWithSign ',' front → commaFront = true)
    (hback : StartsWithSign ',' back → commaBehind = true)
    (hspells : IsSpelling (front ++ (e.pieces ++ back))) :
    Harmless (front ++ a) (b ++ back) := by
  rcases append_eq_append_cons (l := e.front) hplace with ⟨b', hmodifier, -⟩ | ⟨a', hname, rfl⟩
  · -- the modifier stands for itself
    obtain ⟨m, hm, rfl, -, -⟩ := word_of_pieces hmodifier
    exact absurd (by simp [Element.exposed, hm]) hexposed
  · cases a' with
    | nil =>
      obtain ⟨hpiece, rfl⟩ := List.cons.inj hname
      have htoken : e.name.token = .word symbol := congrArg Piece.token hpiece
      have hword : e.name = .word symbol := by
        cases himported : e.name with
        | word name => simpa [himported, ImportedName.token] using htoken
        | quoted quote content => simp [himported, ImportedName.token] at htoken
      simpa using Element.harmless_name hword hexposed hclear hne hfront hback hspells
    | cons p a' =>
      obtain ⟨rfl, hnew⟩ := List.cons.inj hname
      cases hn : e.newName with
      | none => simp [Element.back, hn] at hnew
      | some n =>
        simp only [Element.back, hn, Option.elim_some, NewName.pieces] at hnew
        cases a' with
        | nil =>
          obtain rfl : asWord = symbol := by
            simpa using congrArg Piece.token (List.cons.inj hnew).1
          exact absurd (by simp [Element.exposed, hn]) hexposed
        | cons p a' =>
          obtain ⟨rfl, hlast⟩ := List.cons.inj hnew
          obtain ⟨rfl, hpiece, rfl⟩ : a' = [] ∧ n.piece = ⟨gap, .word symbol⟩ ∧ b = [] := by
            cases a' <;> simp_all
          have hsymbol : n.name = symbol := by simpa [Word.piece] using congrArg Piece.token hpiece
          simpa using Element.harmless_newName hn hsymbol hclear hback hspells

end

/-- A sign behind some pieces is the last of them. -/
theorem endsWithSign_concat {a : List Piece} {g : Text} {c d : Char} :
    EndsWithSign d (a ++ [⟨g, .sign c⟩]) ↔ c = d := by
  constructor
  · rintro ⟨front, g', h⟩
    exact (by simpa using List.append_inj_right' h rfl : g = g' ∧ c = d).2
  · rintro rfl
    exact ⟨a, g, rfl⟩

/-- A list of bindings none of which is mistaken leaves its symbol alone. -/
theorem harmless_list {under trailing commaFront : Bool} {elements : List Element}
    (front back : List Piece) (hexposed : symbol ∉ elements.flatMap (Element.exposed under))
    (hclear : listIsMistaken symbol under trailing commaFront elements = false)
    (hplace : listPieces trailing elements = a ++ ⟨gap, .word symbol⟩ :: b) (hne : front ≠ [])
    (hfront : EndsWithSign ',' front → commaFront = true) (hback : ¬StartsWithSign ',' back)
    (hspells : IsSpelling (front ++ (listPieces trailing elements ++ back))) :
    Harmless (front ++ a) (b ++ back) := by
  induction elements generalizing front a commaFront with
  | nil => simp [listPieces] at hplace
  | cons e es ih =>
    simp only [List.flatMap_cons, List.mem_append, not_or] at hexposed
    simp only [listIsMistaken, Bool.or_eq_false_iff] at hclear
    rw [listPieces] at hplace hspells
    rcases append_eq_append_cons hplace with ⟨b', helement, rfl⟩ | ⟨a', hrest, rfl⟩
    · rw [List.append_assoc]
      refine Element.harmless hexposed.1 hclear.1 helement hne hfront (fun hcomma => ?_)
        (by rwa [List.append_assoc] at hspells)
      -- without a comma behind it the binding is the last one
      by_contra hlast
      obtain ⟨rfl, rfl⟩ : es = [] ∧ trailing = false := by simpa using hlast
      exact hback (by simpa [commaPiece, listPieces] using hcomma)
    · cases hcomma : !es.isEmpty || trailing with
      | false =>
        obtain ⟨rfl, rfl⟩ : es = [] ∧ trailing = false := by simpa using hcomma
        simp [commaPiece, listPieces] at hrest
      | true =>
        rw [hcomma] at hrest hspells
        cases a' with
        | nil => simp [commaPiece] at hrest
        | cons p a' =>
          obtain ⟨rfl, hlater⟩ : ⟨e.commaGap, .sign ','⟩ = p ∧
              listPieces trailing es = a' ++ ⟨gap, .word symbol⟩ :: b := by
            simpa [commaPiece] using hrest
          have hharmless := ih (front ++ (e.pieces ++ [⟨e.commaGap, .sign ','⟩])) hexposed.2
            hclear.2 hlater (by simp) (fun _ => rfl) (by simpa [commaPiece] using hspells)
          simpa only [List.append_assoc, List.cons_append, List.nil_append] using hharmless

theorem Bindings.harmless {bindings : Bindings} {under : Bool} (front back : List Piece)
    (hexposed : symbol ∉ bindings.exposed under) (hclear : bindings.isMistaken symbol under = false)
    (hplace : bindings.pieces = a ++ ⟨gap, .word symbol⟩ :: b)
    (hspells : IsSpelling (front ++ (bindings.pieces ++ back))) :
    Harmless (front ++ a) (b ++ back) := by
  cases bindings with
  | star starGap asGap name =>
    simp only [Bindings.pieces] at hplace
    cases a with
    | nil => simp at hplace
    | cons p a =>
      obtain ⟨rfl, hplace⟩ := List.cons.inj hplace
      exact .star (p := ⟨starGap, .sign '*'⟩) (by simp) rfl
  | list openGap elements trailing closeGap =>
    simp only [Bindings.pieces] at hplace hspells
    cases a with
    | nil => simp at hplace
    | cons p a =>
      obtain ⟨rfl, hplace'⟩ := List.cons.inj hplace
      rcases append_eq_append_cons hplace' with ⟨b, hlist, rfl⟩ | ⟨a', hclose, -⟩
      · have hharmless := harmless_list (front ++ [⟨openGap, .sign '\x7b'⟩])
          (⟨closeGap, .sign '\x7d'⟩ :: back) hexposed hclear hlist
          (by simp) (fun hcomma => absurd (endsWithSign_concat.mp hcomma) (by decide))
          (by rintro ⟨gap, back, h⟩; simp at h) (by simpa using hspells)
        simpa using hharmless
      · cases a' <;> simp at hclose

/-- **A clause none of whose places is mistaken** leaves a symbol alone that only renames, is
    renamed, names a namespace or has a type modifier. -/
theorem Statement.harmless {s : Statement} (hspells : IsSpelling s.pieces)
    (hexposed : symbol ∉ s.exposed) (hclear : s.isMistaken symbol = false)
    (hplace : s.pieces = a ++ ⟨gap, .word symbol⟩ :: b) (ha : a ≠ []) (hb : b ≠ []) :
    Harmless a b := by
  simp only [Statement.exposed, List.mem_append, not_or] at hexposed
  obtain ⟨hmodifier, hdefault, hbindings⟩ := hexposed
  simp only [Statement.isMistaken, Bool.or_eq_false_iff] at hclear
  obtain ⟨p, a, rfl⟩ := List.exists_cons_of_ne_nil ha
  obtain ⟨rfl, hclause⟩ := List.cons.inj hplace
  obtain ⟨b, hclause', rfl⟩ := append_concat_eq_append_cons hclause hb
  unfold Statement.clause at hclause'
  rcases append_eq_append_cons hclause' with ⟨b', hword, -⟩ | ⟨a, hrest, rfl⟩
  · obtain ⟨m, hm, rfl, -, -⟩ := word_of_pieces hword
    exact absurd (by simp [hm]) hmodifier
  rcases append_eq_append_cons hrest with ⟨b', hword, hb'⟩ | ⟨a, hrest', rfl⟩
  · -- the default name has a modifier, and no list follows it
    obtain ⟨d, hd, rfl, rfl, rfl⟩ := word_of_pieces hword
    cases hm : s.modifier with
    | none => exact absurd (by simp [hd, hm]) hdefault
    | some m =>
      have hnone : s.bindings = none := by simpa [hm, hd] using hclear.1
      have ha : ⟨s.indent, .word keyword⟩ :: ([m].map Word.piece ++ []) =
          [⟨s.indent, .word keyword⟩] ++ [m.piece] := by simp
      refine .operand ha (by simp) ?_
      rintro ⟨gap, back, h⟩
      simp [hb', hnone, commaPiece] at h
  · rcases append_eq_append_cons hrest' with ⟨b', hcomma, -⟩ | ⟨a, hlist, rfl⟩
    · unfold commaPiece at hcomma
      split at hcomma
      · cases a <;> simp at hcomma
      · simp at hcomma
    · cases hs : s.bindings with
      | none => simp [hs] at hlist
      | some bindings =>
        rw [hs] at hlist
        have hharmless := Bindings.harmless
          (⟨s.indent, .word keyword⟩ :: (s.modifier.toList.map Word.piece ++
            (s.default.toList.map Word.piece ++
              commaPiece s.commaGap (s.default.isSome && s.bindings.isSome))))
          [⟨s.fromGap, .word fromWord⟩]
          (by simpa [hs] using hbindings) (by simpa [hs] using hclear.2) hlist
          (by simpa [Statement.pieces, Statement.clause, hs] using hspells)
        simpa [hs] using hharmless

end RouteLocalizer.Import
