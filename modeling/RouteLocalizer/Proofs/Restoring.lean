/-
  WHEN PUTTING THE REGIONS BACK gives the text again.

  Program: `restore` replaces the first occurrence of each placeholder, one after another, by its
  region.  That no placeholder occurs in the text was asked of the text as it was, before anything
  was hidden in it; the masked text was not asked.

  Specification: `restore_mask_iff` says exactly when the text comes back, by the text alone.  It is
  lost where a region stands behind its own placeholder without the last one or two of its
  underscores (`EndsShort`), and nowhere else.

  1. Where no text ends short, each placeholder is found at its place (`findFirst_placeholder`), and
     where one does, it is found in front of it (`findFirst_of_endsShort`).
  2. What is put into a wrong place stays there: it starts with a bracket, no placeholder has one,
     and the text in front of it holds no placeholder (`restore_keeps`).  At its place the text has
     an underscore, so the text is lost for good (`restore_ne_of_before`).
-/
import RouteLocalizer.Proofs.Hiding

namespace RouteLocalizer

/-! ## The first occurrence of a part -/

namespace Text

variable {part front after text : Text}

/-- What is found is the part, and it starts at no earlier place. -/
theorem findFirst_eq_some {p : Passage} (h : findFirst part text = some p) :
    text = p.before ++ (part ++ p.after) ∧ p.body = part ∧
      ∀ u c v, p.before = u ++ c :: v → ¬ part <+: c :: v ++ (part ++ p.after) := by
  obtain ⟨htext, hfits, hearlier⟩ := Shape.firstFrom_eq_some (.literal part .finish) h
  obtain ⟨more, hmore, hfinish⟩ := Shape.literal_eq_some.mp hfits
  obtain rfl : more = p.after := Shape.finish_eq_some.mp hfinish
  obtain rfl : p.body = part := List.append_cancel_right hmore
  refine ⟨htext, rfl, ?_⟩
  rintro u c v huv ⟨rest, hrest⟩
  have hnone := hearlier u c v huv
  rw [← hrest, Shape.literal_append] at hnone
  cases hnone

/-- A part is found at the latest where it stands. -/
theorem findFirst_le (part front after : Text) :
    ∃ p, findFirst part (front ++ (part ++ after)) = some p ∧
      p.before.length ≤ front.length := by
  have hsome : (findFirst part (front ++ (part ++ after))).isSome = true := by
    refine Shape.firstFrom_isSome ?_
    rw [Shape.literal_append]
    rfl
  obtain ⟨p, hp⟩ := Option.isSome_iff_exists.mp hsome
  refine ⟨p, hp, ?_⟩
  obtain ⟨htext, -, hearlier⟩ := findFirst_eq_some hp
  by_contra hlt
  rcases List.append_eq_append_iff.mp htext with ⟨z, hz, hrest⟩ | ⟨z, hz, -⟩
  · cases z with
    | nil =>
      rw [List.append_nil] at hz
      rw [hz] at hlt
      exact hlt (Nat.le_refl _)
    | cons c v =>
      refine hearlier front c v hz ?_
      rw [← hrest]
      exact List.prefix_append part after
  · have hlen := congrArg List.length hz
    rw [List.length_append] at hlen
    omega

end Text

namespace Markup

open Text

variable {stamp index : Nat} {tag text : Text}

/-! ## A placeholder found in front of its place -/

/-- **Where the text in front ends short** of a placeholder, one is found in front of its place. -/
theorem findFirst_of_endsShort {w : Text} (short : EndsShort (placeholder stamp index) w)
    (v : Text) : ∃ p, findFirst (placeholder stamp index) (w ++ (placeholder stamp index ++ v)) =
      some p ∧ p.before.length < w.length := by
  obtain ⟨core, rest, hcore, hstart, -, hstamp⟩ := placeholder_ends stamp index
  have hdigits : ofNat stamp ≠ [] := Nat.toDigits_ne_nil
  have hpos : 0 < core.length := by
    obtain ⟨before, rfl⟩ := hstamp
    rw [List.length_append]
    have := List.length_pos_iff.mpr hdigits
    omega
  -- the name stands at the end of the text in front, with underscores of its own place
  obtain ⟨front, after, hsplit, hlt⟩ : ∃ front after,
      w ++ (placeholder stamp index ++ v) = front ++ (placeholder stamp index ++ after) ∧
        front.length < w.length := by
    rcases (endsShort_iff hcore).mp short with ⟨front, rfl⟩ | ⟨front, rfl⟩
    · refine ⟨front, '_' :: (rest ++ v), ?_, by simp⟩
      conv => lhs; rw [hstart]
      conv => rhs; rw [hcore]
      simp
    · refine ⟨front, rest ++ v, ?_, by simpa using hpos⟩
      conv => lhs; rw [hstart]
      conv => rhs; rw [hcore]
      simp
  obtain ⟨p, hp, hle⟩ := findFirst_le (placeholder stamp index) front after
  exact ⟨p, by rw [hsplit]; exact hp, by omega⟩

/-! ## What stays in its place -/

/-- A bracket behind a text without the name stays in its place. -/
theorem replaceFirst_keeps {name u : Text} (fresh : ¬ name <:+: u) (plain : '<' ∉ name)
    (new z : Text) : ∃ z', replaceFirst name new (u ++ '<' :: z) = u ++ '<' :: z' := by
  unfold replaceFirst
  cases hfind : findFirst name (u ++ '<' :: z) with
  | none => exact ⟨z, rfl⟩
  | some p =>
    obtain ⟨htext, -, -⟩ := findFirst_eq_some hfind
    rcases List.append_eq_append_iff.mp htext with ⟨a, ha, hrest⟩ | ⟨a, ha, hrest⟩
    · cases a with
      | nil =>
        -- the name would start with the bracket
        cases name with
        | nil => exact absurd (List.nil_infix) fresh
        | cons c name =>
          rw [List.nil_append, List.cons_append] at hrest
          obtain ⟨rfl, -⟩ := List.cons.inj hrest
          exact absurd List.mem_cons_self plain
      | cons c a =>
        obtain ⟨rfl, -⟩ := List.cons.inj hrest
        exact ⟨a ++ (new ++ p.after), by simp [Passage.replaceWith, ha]⟩
    · -- the name starts in front of the bracket and holds none, so it ends in front of it
      rcases List.append_eq_append_iff.mp hrest with ⟨b, hb, -⟩ | ⟨b, hb, hbehind⟩
      · refine absurd ?_ fresh
        rw [ha, hb]
        exact ⟨p.before, b, by simp⟩
      · cases b with
        | nil =>
          refine absurd ?_ fresh
          rw [ha, hb, List.append_nil]
          exact (List.suffix_append _ _).isInfix
        | cons c b =>
          obtain ⟨rfl, -⟩ := List.cons.inj hbehind
          exact absurd (by simp [hb]) plain

/-- **What is put in a wrong place stays there.** -/
theorem restore_keeps {hidden : List Masked} {u : Text}
    (h : ∀ m ∈ hidden, ¬ m.placeholder <:+: u ∧ '<' ∉ m.placeholder) (z : Text) :
    ∃ z', restore (u ++ '<' :: z) hidden = u ++ '<' :: z' := by
  induction hidden generalizing z with
  | nil => exact ⟨z, rfl⟩
  | cons m hidden ih =>
    obtain ⟨hm, hhidden⟩ := List.forall_mem_cons.mp h
    obtain ⟨z', hz'⟩ := replaceFirst_keeps hm.1 hm.2 m.region z
    obtain ⟨z'', hz''⟩ := ih hhidden z'
    refine ⟨z'', ?_⟩
    rw [← hz'', ← hz']
    rfl

/-! ## When the text comes back -/

theorem NextRegion.exists_bracket {gap region rest : Text}
    (h : NextRegion tag text gap region rest) : ∃ z, region = '<' :: z := by
  obtain ⟨c, z, hz⟩ := List.exists_cons_of_ne_nil h.region_ne_nil
  obtain ⟨_, _, hopening, -⟩ := h.first.1
  rw [hz] at hopening
  obtain ⟨rfl, -⟩ := List.cons.inj hopening
  exact ⟨z, hz⟩

/-- A region that is put into a place in front of its own leaves a bracket where the text has an
    underscore. -/
theorem restore_ne_of_before {p : Passage} {name w v z rest : Text} {hidden : List Masked}
    (hwhole : w ++ (name ++ v) = p.before ++ (name ++ p.after)) (hlt : p.before.length < w.length)
    (hhead : name.head? = some '_')
    (hhidden : ∀ m ∈ hidden, ¬ m.placeholder <:+: w ∧ '<' ∉ m.placeholder) :
    restore (p.replaceWith ('<' :: z)) hidden ≠ w ++ rest := by
  intro h
  obtain ⟨name, rfl⟩ := List.head?_eq_some_iff.mp hhead
  obtain ⟨q, hq⟩ : p.before <+: w := by
    refine List.prefix_of_prefix_length_le ?_ (List.prefix_append w ('_' :: name ++ v)) hlt.le
    rw [hwhole]
    exact List.prefix_append _ _
  cases q with
  | nil =>
    rw [← hq, List.append_nil] at hlt
    exact Nat.lt_irrefl _ hlt
  | cons c q =>
    rw [← hq, List.append_assoc] at hwhole h
    obtain ⟨rfl, -⟩ := List.cons.inj (List.append_cancel_left hwhole)
    have hkeeps : ∀ m ∈ hidden, ¬ m.placeholder <:+: p.before ∧ '<' ∉ m.placeholder := by
      intro m hm
      obtain ⟨hfresh, hplain⟩ := hhidden m hm
      refine ⟨fun hin => hfresh (hin.trans ?_), hplain⟩
      rw [← hq]
      exact (List.prefix_append _ _).isInfix
    obtain ⟨z', hz'⟩ := restore_keeps hkeeps (z ++ p.after)
    rw [Passage.replaceWith, List.append_assoc, List.cons_append, hz'] at h
    cases List.append_cancel_left h

/-- A cut text with names in the places of its regions. -/
def maskedUnder (names : List Text) (cuts : List (Text × Text)) (tail : Text) : Text :=
  maskedText ((cuts.map Prod.fst).zip names) tail

/-- The regions of a cut text under their names. -/
def hiddenUnder (names : List Text) (cuts : List (Text × Text)) : List Masked :=
  (names.zip (cuts.map Prod.snd)).map fun (name, region) => ⟨name, region⟩

theorem mask_eq (stamp : Nat) (tag text : Text) : mask stamp tag text =
    (maskedUnder (freshNames text stamp (cutRegions tag text).cuts.length)
        (cutRegions tag text).cuts (cutRegions tag text).tail,
      hiddenUnder (freshNames text stamp (cutRegions tag text).cuts.length)
        (cutRegions tag text).cuts) := rfl

/-- The first name is the first to be looked for. -/
theorem restore_maskedUnder_cons (front gap region name tail : Text) (names : List Text)
    (cuts : List (Text × Text)) :
    restore (front ++ maskedUnder (name :: names) ((gap, region) :: cuts) tail)
        (hiddenUnder (name :: names) ((gap, region) :: cuts)) =
      restore (replaceFirst name region (front ++ gap ++ (name ++ maskedUnder names cuts tail)))
        (hiddenUnder names cuts) := by
  simp [restore, maskedUnder, hiddenUnder, maskedText]

/-- **When the regions of a cut text get back to their places**: exactly when none of them stands
    behind its name cut short. -/
theorem restore_maskedUnder_iff {front tail : Text} {cuts : List (Text × Text)} {names : List Text}
    (hlen : names.length = cuts.length)
    (hbracket : ∀ cut ∈ cuts, ∃ z, cut.2 = '<' :: z)
    (hnames : ∀ name ∈ names, ∃ index, name = placeholder stamp index)
    (hfresh : ∀ name ∈ names, ¬ name <:+: front ++ maskedText cuts tail) :
    restore (front ++ maskedUnder names cuts tail) (hiddenUnder names cuts) =
        front ++ maskedText cuts tail ↔
      ∀ x ∈ (places front cuts tail).zip names, ¬ EndsShort x.2 x.1.before := by
  -- on the regions; those in front are back in their places and belong to the front
  induction cuts generalizing front names with
  | nil =>
    obtain rfl := List.length_eq_zero_iff.mp hlen
    simp [restore, maskedUnder, hiddenUnder, maskedText, places]
  | cons cut cuts ih =>
    obtain ⟨gap, region⟩ := cut
    obtain ⟨name, names, rfl⟩ := List.exists_cons_of_length_eq_add_one hlen
    obtain ⟨⟨z, rfl : region = '<' :: z⟩, hbracketLater⟩ := List.forall_mem_cons.mp hbracket
    obtain ⟨⟨index, rfl⟩, hnamesLater⟩ := List.forall_mem_cons.mp hnames
    have hwhole : front ++ maskedText ((gap, '<' :: z) :: cuts) tail =
        front ++ gap ++ ('<' :: z ++ maskedText cuts tail) := by
      simp [maskedText]
    have hfront : ∀ name ∈ placeholder stamp index :: names, ¬ name <:+: front ++ gap := by
      intro name hname hin
      refine hfresh name hname (hin.trans ?_)
      rw [hwhole]
      exact (List.prefix_append _ _).isInfix
    rw [restore_maskedUnder_cons, places, List.zip_cons_cons, List.forall_mem_cons, replaceFirst]
    by_cases short : EndsShort (placeholder stamp index) (front ++ gap)
    · obtain ⟨p, hp, hlt⟩ := findFirst_of_endsShort short (maskedUnder names cuts tail)
      have hhidden : ∀ m ∈ hiddenUnder names cuts,
          ¬ m.placeholder <:+: front ++ gap ∧ '<' ∉ m.placeholder := by
        intro m hm
        obtain ⟨⟨name, region⟩, hpair, rfl⟩ := List.mem_map.mp hm
        have hname := (List.of_mem_zip hpair).1
        obtain ⟨i, rfl⟩ := hnamesLater name hname
        obtain ⟨_, _, -, -, hplain⟩ := placeholder_eq stamp i
        exact ⟨hfront _ (List.mem_cons_of_mem _ hname), hplain⟩
      have hlost : restore (p.replaceWith ('<' :: z)) (hiddenUnder names cuts) ≠
          front ++ gap ++ ('<' :: z ++ maskedText cuts tail) :=
        restore_ne_of_before (findFirst_eq_some hp).1 hlt (head?_placeholder stamp index) hhidden
      rw [hp, hwhole]
      exact iff_of_false hlost fun h => h.1 short
    · have hback : front ++ maskedText ((gap, '<' :: z) :: cuts) tail =
          front ++ (gap ++ '<' :: z) ++ maskedText cuts tail := by
        simp [maskedText]
      rw [findFirst_placeholder (hfront _ List.mem_cons_self) short, and_iff_right short, hback]
      rw [hback] at hfresh
      rw [← ih (Nat.succ.inj hlen) hbracketLater hnamesLater fun name hname =>
        hfresh name (List.mem_cons_of_mem _ hname)]
      simp [Passage.replaceWith]

/-- A text that ends short of a placeholder holds its time stamp. -/
theorem EndsShort.stamp_infix {front : Text} (h : EndsShort (placeholder stamp index) front) :
    ofNat stamp <:+: front := by
  obtain ⟨core, _, hcore, -, -, hstamp⟩ := placeholder_ends stamp index
  rcases (endsShort_iff hcore).mp h with hsuffix | hsuffix
  · exact (hstamp.isInfix.trans (List.prefix_append _ _).isInfix).trans hsuffix.isInfix
  · exact (hstamp.trans hsuffix).isInfix

/-- **When putting the regions back gives the text again**: exactly when no region stands behind its
    placeholder without the last one or two underscores.  So it does wherever the text does not
    hold the time stamp. -/
theorem restore_mask_iff (stamp : Nat) (tag text : Text) :
    (restore (mask stamp tag text).1 (mask stamp tag text).2 = text ↔
      ∀ x ∈ (places [] (cutRegions tag text).cuts (cutRegions tag text).tail).zip
          ((mask stamp tag text).2.map Masked.placeholder), ¬ EndsShort x.2 x.1.before) ∧
      (¬ ofNat stamp <:+: text →
        restore (mask stamp tag text).1 (mask stamp tag text).2 = text) := by
  have hindex : ∀ name ∈ freshNames text stamp (cutRegions tag text).cuts.length,
      ∃ index, name = placeholder stamp index := by
    intro name hname
    obtain ⟨index, -, rfl⟩ := List.mem_map.mp hname
    exact ⟨index, rfl⟩
  have hbracket : ∀ cut ∈ (cutRegions tag text).cuts, ∃ z, cut.2 = '<' :: z := by
    intro cut hcut
    obtain ⟨_, _, hregion⟩ := nextRegion_of_mem_cuts hcut
    exact hregion.exists_bracket
  have hfresh : ∀ name ∈ freshNames text stamp (cutRegions tag text).cuts.length,
      ¬ name <:+: [] ++ maskedText (cutRegions tag text).cuts (cutRegions tag text).tail := by
    intro name hname
    rw [List.nil_append, maskedText_cutRegions]
    exact fresh_of_mem_freshNames hname
  have hiff := restore_maskedUnder_iff (length_freshNames text stamp _) hbracket hindex hfresh
  rw [List.nil_append, List.nil_append, maskedText_cutRegions] at hiff
  rw [(mask_hidden stamp tag text).1, mask_eq]
  refine ⟨hiff, fun hstamp => hiff.mpr ?_⟩
  rintro ⟨p, name⟩ hx short
  obtain ⟨hp, hname⟩ := List.of_mem_zip hx
  obtain ⟨index, rfl⟩ := hindex name hname
  have hwhole : p.whole = text := by
    rw [whole_of_mem_places hp, List.nil_append, maskedText_cutRegions]
  refine hstamp (short.stamp_infix.trans ?_)
  rw [← hwhole, Passage.whole, List.append_assoc]
  exact (List.prefix_append _ _).isInfix

/-- A text with a region behind its own placeholder, but for the last underscore: the region comes
    back in front of two underscores that stand in front of it in the text. -/
theorem restore_mask_differs :
    ¬ ∀ (stamp : Nat) (tag text : Text), (∀ c ∈ tag, c.isAlphanum = true ∨ c = '-') →
      restore (mask stamp tag text).1 (mask stamp tag text).2 = text := by
  intro h
  have hreturns := h 7 "s" "__lang_router_excluded_0_7_<s/>" (by decide)
  have hanswer : restore (mask 7 "s" "__lang_router_excluded_0_7_<s/>").1
      (mask 7 "s" "__lang_router_excluded_0_7_<s/>").2 =
        "<s/>_lang_router_excluded_0_7__".toList := by
    decide +kernel
  rw [hanswer] at hreturns
  exact absurd hreturns (by decide +kernel)

end Markup

end RouteLocalizer
