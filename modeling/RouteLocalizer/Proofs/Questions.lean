/-
  QUESTIONS are answered in step with the input.

  Program: `settle` says what one line comes to, `confirm` puts a question until a line answers it,
  and `askEach` puts three questions.  A terminal takes the same `settle` and the same `askEach`;
  here the lines come from one input (`askOptions`).

  Specification: a question is under way (`Asking`) until it is settled.  A line that says neither
  yes nor no nor nothing is REFUSED: it is consumed, and the reminder and the question follow
  (`Retry`).  A line that answers settles the question, and so does the end of the input
  (`Settles`).

  1. A retry consumes a line, so no question is refused for ever (`wellFounded_retry`), and where no
     line is refused the question is settled (`exists_settled`).
  2. What a question comes to is told from every state on the way (`Asking.outcome`), and a retry
     does not change it (`Retry.outcome_eq`).
  3. The lines of the retries are the first lines of the input (`firstLines_of_retries`).  So a
     question consumes the input through its first line that answers, and the next question goes on
     right behind it (`askOptions_inStep`).
-/
import Mathlib.Logic.Relation
import RouteLocalizer.Command.Prompt

namespace RouteLocalizer.Command

open Text

/-! ## Lines -/

/-- The next line of an input: it ends with its line feed, or with the input. -/
inductive NextLine : (input line rest : Text) → Prop where
  | ended {word rest : Text} (plain : '\n' ∉ word) :
      NextLine (word ++ '\n' :: rest) (word ++ ['\n']) rest
  | last {word : Text} (plain : '\n' ∉ word) (nonempty : word ≠ []) : NextLine word word []

/-- The first lines of an input, and what stands behind them. -/
inductive FirstLines : (input : Text) → (lines : List Text) → (rest : Text) → Prop where
  | none {input : Text} : FirstLines input [] input
  | more {input line mid rest : Text} {lines : List Text} (next : NextLine input line mid)
      (later : FirstLines mid lines rest) : FirstLines input (line :: lines) rest

/-- Text without a line feed goes to the first line. -/
theorem splitLine_of_plain {word : Text} (plain : '\n' ∉ word) (rest : Text) :
    splitLine (word ++ rest) = (word ++ (splitLine rest).1, (splitLine rest).2) := by
  induction word with
  | nil => rfl
  | cons c word ih =>
    have hc : c ≠ '\n' := fun heq => plain (by simp [heq])
    have hword : '\n' ∉ word := fun hmem => plain (List.mem_cons_of_mem _ hmem)
    rw [List.cons_append, splitLine, if_neg hc, ih hword]
    rfl

variable {input line rest : Text}

namespace NextLine

theorem splitLine_eq (h : NextLine input line rest) : splitLine input = (line, rest) := by
  cases h with
  | ended plain => exact splitLine_of_plain plain _
  | last plain =>
    have hsplit := splitLine_of_plain plain []
    rw [List.append_nil] at hsplit
    rw [hsplit, splitLine, List.append_nil]

theorem append_eq (h : NextLine input line rest) : line ++ rest = input := by
  have hwhole := splitLine_append input
  rw [h.splitLine_eq] at hwhole
  exact hwhole

theorem input_ne_nil (h : NextLine input line rest) : input ≠ [] := by
  cases h with
  | ended plain => simp
  | last plain nonempty => exact nonempty

theorem length_lt (h : NextLine input line rest) : rest.length < input.length := by
  have hlt := length_splitLine_lt h.input_ne_nil
  rw [h.splitLine_eq] at hlt
  exact hlt

end NextLine

/-- An input that is not at its end has a next line. -/
theorem exists_nextLine (h : input ≠ []) : ∃ line rest, NextLine input line rest := by
  by_cases hmem : '\n' ∈ input
  · obtain ⟨word, rest, rfl, plain⟩ := List.eq_append_cons_of_mem hmem
    exact ⟨_, _, .ended plain⟩
  · exact ⟨_, _, .last hmem h⟩

/-- **The lines and the rest put together are the input.** -/
theorem FirstLines.append_eq {lines : List Text} (h : FirstLines input lines rest) :
    lines.flatten ++ rest = input := by
  induction h with
  | none => rfl
  | more next _ ih => rw [List.flatten_cons, List.append_assoc, ih, next.append_eq]

/-! ## What a line says -/

/-- What a line says, the white space around it and its capitals apart. -/
def said (line : Text) : Text := toLowerAscii (trim line)

/-- The value that a line answers with. -/
inductive Answers (default : Bool) (line : Text) : Bool → Prop where
  | nothing (hsaid : said line = []) : Answers default line default
  | yes (hsaid : said line = ['y'] ∨ said line = ['y', 'e', 's']) : Answers default line true
  | no (hsaid : said line = ['n'] ∨ said line = ['n', 'o']) : Answers default line false

/-- A line that answers nothing. -/
def IsUnclear (line : Text) : Prop :=
  said line ∉ [[], ['y'], ['y', 'e', 's'], ['n'], ['n', 'o']]

/-- What is printed about a line that is refused: the question, and the reminder behind it. -/
def refusal (question : Text) (default : Bool) (line : Text) : Text :=
  questionText question default ++ reminder (said line)

theorem ofLine_eq (line : Text) : Answer.ofLine line =
    if said line = [] then .default
    else if said line = ['y'] ∨ said line = ['y', 'e', 's'] then .yes
    else if said line = ['n'] ∨ said line = ['n', 'o'] then .no
    else .unclear (said line) := rfl

/-- A line that answers settles the question. -/
theorem Answers.settle_eq {default value : Bool} {line : Text} (h : Answers default line value) :
    settle default line = .ok value := by
  cases h with
  | nothing hsaid => simp [settle, ofLine_eq, hsaid]
  | yes hsaid => rcases hsaid with hsaid | hsaid <;> simp [settle, ofLine_eq, hsaid]
  | no hsaid => rcases hsaid with hsaid | hsaid <;> simp [settle, ofLine_eq, hsaid]

/-- A line that answers nothing is shown in a reminder. -/
theorem IsUnclear.settle_eq {line : Text} (h : IsUnclear line) (default : Bool) :
    settle default line = .error (reminder (said line)) := by
  simp only [IsUnclear, List.mem_cons, List.not_mem_nil, or_false, not_or] at h
  simp [settle, ofLine_eq, h]

/-- Every line answers or is refused. -/
theorem answers_or_isUnclear (default : Bool) (line : Text) :
    (∃ value, Answers default line value) ∨ IsUnclear line := by
  by_cases hsaid : said line ∈ [[], ['y'], ['y', 'e', 's'], ['n'], ['n', 'o']]
  · left
    simp only [List.mem_cons, List.not_mem_nil, or_false] at hsaid
    rcases hsaid with hsaid | hsaid | hsaid | hsaid | hsaid
    · exact ⟨default, .nothing hsaid⟩
    · exact ⟨true, .yes (.inl hsaid)⟩
    · exact ⟨true, .yes (.inr hsaid)⟩
    · exact ⟨false, .no (.inl hsaid)⟩
    · exact ⟨false, .no (.inr hsaid)⟩
  · exact .inr hsaid

/-! ## One turn of the program -/

variable {question : Text} {default : Bool}

theorem confirm_nil (question : Text) (default : Bool) :
    confirm question default [] = ⟨default, [], questionText question default⟩ := by
  rw [confirm, if_pos rfl]

/-- A line that answers ends the question. -/
theorem NextLine.confirm_of_answers {value : Bool} (next : NextLine input line rest)
    (answers : Answers default line value) :
    confirm question default input = ⟨value, rest, questionText question default⟩ := by
  rw [confirm, if_neg next.input_ne_nil]
  simp only [next.splitLine_eq, answers.settle_eq]

/-- Behind a line that is refused the question is put again. -/
theorem NextLine.confirm_of_isUnclear (next : NextLine input line rest)
    (unclear : IsUnclear line) :
    confirm question default input = { confirm question default rest with
      printed := refusal question default line ++ (confirm question default rest).printed } := by
  rw [confirm, if_neg next.input_ne_nil]
  simp only [next.splitLine_eq, unclear.settle_eq]
  rfl

/-! ## A question under way -/

/-- A question under way: the input that is not read, and what was printed so far. -/
structure Asking where
  rest : Text
  printed : Text := []

/-- A line is refused, and the question is put again. -/
inductive Retry (question : Text) (default : Bool) : Asking → Asking → Prop where
  | refuse {s : Asking} {line rest : Text} (next : NextLine s.rest line rest)
      (unclear : IsUnclear line) :
      Retry question default s ⟨rest, s.printed ++ refusal question default line⟩

/-- Retries, one after another. -/
abbrev Retries (question : Text) (default : Bool) : Asking → Asking → Prop :=
  Relation.ReflTransGen (Retry question default)

/-- The question is put for the last time: a line answers it, or the input ends. -/
inductive Settles (question : Text) (default : Bool) : Asking → Asked Bool → Prop where
  | answer {s : Asking} {line rest : Text} {value : Bool} (next : NextLine s.rest line rest)
      (answers : Answers default line value) :
      Settles question default s ⟨value, rest, s.printed ++ questionText question default⟩
  | inputEnd {s : Asking} (atEnd : s.rest = []) :
      Settles question default s ⟨default, [], s.printed ++ questionText question default⟩

/-- What a question comes to, told from a state on the way. -/
def Asking.outcome (question : Text) (default : Bool) (s : Asking) : Asked Bool :=
  { confirm question default s.rest with
    printed := s.printed ++ (confirm question default s.rest).printed }

variable {s s' : Asking} {asked : Asked Bool}

namespace Retry

theorem length_lt (h : Retry question default s s') : s'.rest.length < s.rest.length := by
  cases h with
  | refuse next => exact next.length_lt

/-- **A retry does not change what the question comes to.** -/
theorem outcome_eq (h : Retry question default s s') :
    s.outcome question default = s'.outcome question default := by
  cases h with
  | refuse next unclear =>
    simp only [Asking.outcome, next.confirm_of_isUnclear unclear, List.append_assoc]

end Retry

theorem Retries.outcome_eq (h : Retries question default s s') :
    s.outcome question default = s'.outcome question default := by
  induction h with
  | refl => rfl
  | tail _ retry ih => rw [ih, retry.outcome_eq]

theorem Settles.outcome_eq (h : Settles question default s asked) :
    s.outcome question default = asked := by
  cases h with
  | answer next answers => simp only [Asking.outcome, next.confirm_of_answers answers]
  | inputEnd atEnd => simp only [Asking.outcome, atEnd, confirm_nil]

/-- **No question is refused for ever.** -/
theorem wellFounded_retry (question : Text) (default : Bool) :
    WellFounded fun s' s => Retry question default s s' :=
  Subrelation.wf Retry.length_lt (measure fun s : Asking => s.rest.length).wf

/-- **Every question is settled in the end.** -/
theorem exists_settled (question : Text) (default : Bool) (s : Asking) :
    ∃ s' asked, Retries question default s s' ∧ Settles question default s' asked := by
  induction s using (wellFounded_retry question default).induction with
  | _ s ih =>
  by_cases hend : s.rest = []
  · exact ⟨s, _, .refl, .inputEnd hend⟩
  · obtain ⟨line, rest, next⟩ := exists_nextLine hend
    rcases answers_or_isUnclear default line with ⟨value, answers⟩ | unclear
    · exact ⟨s, _, .refl, .answer next answers⟩
    · have retry : Retry question default s _ := .refuse next unclear
      obtain ⟨s', asked, retries, settles⟩ := ih _ retry
      exact ⟨s', asked, .head retry retries, settles⟩

/-- **The lines of the retries are the first lines of the input**, and each of them is answered by
    one reminder. -/
theorem firstLines_of_retries (h : Retries question default s s') :
    ∃ refused, FirstLines s.rest refused s'.rest ∧ (∀ line ∈ refused, IsUnclear line) ∧
      s'.printed = s.printed ++ refused.flatMap (refusal question default) := by
  induction h using Relation.ReflTransGen.head_induction_on with
  | refl => exact ⟨[], .none, by simp, by simp⟩
  | head retry _ ih =>
    obtain ⟨refused, lines, hunclear, hprinted⟩ := ih
    cases retry with
    | @refuse line rest next unclear =>
      refine ⟨line :: refused, .more next lines, ?_, ?_⟩
      · intro l hl
        rcases List.mem_cons.mp hl with rfl | hl
        · exact unclear
        · exact hunclear l hl
      · rw [hprinted, List.flatMap_cons, List.append_assoc]

/-! ## Questions in step with the input -/

/-- A question in step with its input: the lines that it refuses, the line that answers it, which
    is empty at the end of the input, and what the question comes to. -/
structure InStep (question : Text) (default : Bool) (input : Text) (refused : List Text)
    (answer : Text) (asked : Asked Bool) : Prop where
  /-- The lines are consumed from the front of the input, and nothing else is. -/
  whole : input = refused.flatten ++ answer ++ asked.rest
  lines : FirstLines input refused (answer ++ asked.rest)
  unclear : ∀ line ∈ refused, IsUnclear line
  /-- The next line answers, or there is none and the default holds. -/
  settled : (NextLine (answer ++ asked.rest) answer asked.rest ∧
      Answers default answer asked.value) ∨
    (answer = [] ∧ asked.rest = [] ∧ asked.value = default)
  /-- The question is printed once for each refused line, with one reminder, and once more. -/
  printed : asked.printed =
    refused.flatMap (refusal question default) ++ questionText question default
  /-- The turns of the question end with what it comes to. -/
  ends : ∃ s, Retries question default { rest := input } s ∧ Settles question default s asked

/-- A question consumes the input through its first line that answers. -/
theorem confirm_inStep (question : Text) (default : Bool) (input : Text) :
    ∃ refused answer,
      InStep question default input refused answer (confirm question default input) := by
  obtain ⟨s, asked, retries, settles⟩ := exists_settled question default { rest := input }
  have hasked : confirm question default input = asked := by
    rw [← settles.outcome_eq, ← retries.outcome_eq]
    rfl
  rw [hasked]
  obtain ⟨refused, lines, hunclear, hprinted⟩ := firstLines_of_retries retries
  have hends : ∃ s, Retries question default { rest := input } s ∧
      Settles question default s asked := ⟨s, retries, settles⟩
  cases settles with
  | @answer line rest value next answers =>
    rw [← next.append_eq] at lines next
    refine ⟨refused, line, ?_, lines, hunclear, .inl ⟨next, answers⟩, ?_, hends⟩
    · rw [List.append_assoc]
      exact lines.append_eq.symm
    · rw [hprinted]
      rfl
  | inputEnd atEnd =>
    rw [atEnd] at lines
    refine ⟨refused, [], ?_, lines, hunclear, .inr ⟨rfl, rfl, rfl⟩, ?_, hends⟩
    · rw [List.append_assoc]
      exact lines.append_eq.symm
    · rw [hprinted]
      rfl

/-- **Answers are read in step with the input.**  No question is refused for ever.  Each question
    consumes the input through its first line that answers, or all of it, and goes by that line;
    the next question reads on right behind, and the switches that are not asked for stay. -/
theorem askOptions_inStep (o : Options) (input : Text) :
    (∀ question default, WellFounded fun s' s => Retry question default s s') ∧
      ∃ template links switcher : Asked Bool,
        (∃ refused answer,
          InStep templateQuestion o.renderTemplate input refused answer template) ∧
        (∃ refused answer,
          InStep linkQuestion o.localizeLinks template.rest refused answer links) ∧
        (∃ refused answer,
          InStep switcherQuestion o.addLanguageSwitcher links.rest refused answer switcher) ∧
        (askOptions o input).value.renderTemplate = template.value ∧
        (askOptions o input).value.localizeLinks = links.value ∧
        (askOptions o input).value.addLanguageSwitcher = switcher.value ∧
        (askOptions o input).value.injectI18n = o.injectI18n ∧
        (askOptions o input).value.interactive = o.interactive ∧
        (askOptions o input).rest = switcher.rest ∧
        (askOptions o input).printed =
          template.printed ++ links.printed ++ switcher.printed := by
  refine ⟨wellFounded_retry, _, _, _, confirm_inStep _ _ _, confirm_inStep _ _ _,
    confirm_inStep _ _ _, rfl, rfl, rfl, rfl, rfl, rfl, rfl⟩

/-- The first question refuses a line, the second takes its default, and the third is answered by a
    line without a line feed. -/
example : (askOptions {} "maybe\n NO\n\nYes").value =
    { renderTemplate := false, localizeLinks := true, addLanguageSwitcher := true } := by
  decide +kernel

end RouteLocalizer.Command
