/-
  QUESTIONS asked before a pass, and how the answers are read.

  A question is asked until a line answers it: y or yes, n or no, in any case and with white space
  around, or nothing at all for the default.  Every other line gets a reminder, and the end of the
  input, which reads as an empty line, counts as the default.

  What one line comes to (`settle`) and which questions are put in which order (`askEach`) are said
  once, for a terminal, which reads a line at a time, and for an input that is there as one text,
  each question going on where the one before stopped reading.
-/
import RouteLocalizer.Settings.Basic

namespace RouteLocalizer.Command

open Text

/-- The first line of a text with its line end, and the rest. -/
def splitLine : Text → Text × Text
  | [] => ([], [])
  | c :: cs =>
    if c = '\n' then ([c], cs)
    else ((c :: (splitLine cs).1), (splitLine cs).2)

/-- What a line answers to a question. -/
inductive Answer where
  /-- Nothing: the default holds. -/
  | default
  | yes
  | no
  /-- Something else, as the reminder shows it. -/
  | unclear (shown : Text)
deriving DecidableEq, Repr

/-- Reads a line as an answer. -/
def Answer.ofLine (line : Text) : Answer :=
  let word := toLowerAscii (trim line)
  if word = [] then .default
  else if word = ['y'] ∨ word = ['y', 'e', 's'] then .yes
  else if word = ['n'] ∨ word = ['n', 'o'] then .no
  else .unclear word

/-- The question as it is put, with its default in a capital. -/
def questionText (question : Text) (default : Bool) : Text :=
  "❓ " ++ question ++ " (" ++ (if default then "Y/n" else "y/N") ++ ") "

/-- The reminder after a line that answers nothing. -/
def reminder (shown : Text) : Text := "   Please answer y or n (got \"" ++ shown ++ "\")\n"

/-- What a line comes to behind a question: the value it settles the question with, or what is
    printed before the question is put again. -/
def settle (default : Bool) (line : Text) : Except Text Bool :=
  match Answer.ofLine line with
  | .default => .ok default
  | .yes => .ok true
  | .no => .ok false
  | .unclear shown => .error (reminder shown)

/-- What asking comes to. -/
structure Asked (α : Type) where
  value : α
  /-- The input that was not read. -/
  rest : Text
  /-- Everything that was printed. -/
  printed : Text
deriving DecidableEq, Repr

theorem splitLine_append (text : Text) : (splitLine text).1 ++ (splitLine text).2 = text := by
  induction text with
  | nil => rfl
  | cons c cs ih =>
    by_cases h : c = '\n'
    · simp [splitLine, h]
    · simp [splitLine, h, ih]

theorem length_splitLine_lt {text : Text} (h : text ≠ []) :
    (splitLine text).2.length < text.length := by
  have hl := congrArg List.length (splitLine_append text)
  have hne : (splitLine text).1 ≠ [] := by
    cases text with
    | nil => exact absurd rfl h
    | cons c cs => by_cases hc : c = '\n' <;> simp [splitLine, hc]
  have := List.length_pos_iff.mpr hne
  rw [List.length_append] at hl
  omega

/-- Asks a question until it is answered. -/
def confirm (question : Text) (default : Bool) (input : Text) : Asked Bool :=
  let asked := questionText question default
  if input = [] then ⟨default, [], asked⟩
  else
    let rest := (splitLine input).2
    match settle default (splitLine input).1 with
    | .ok value => ⟨value, rest, asked⟩
    | .error note =>
      let again := confirm question default rest
      { again with printed := asked ++ note ++ again.printed }
termination_by input.length
decreasing_by exact length_splitLine_lt ‹_›

/-- Asks one question after another, each with its default. -/
def confirmAll : List (Text × Bool) → Text → Asked (List Bool)
  | [], input => ⟨[], input, []⟩
  | (question, default) :: more, input =>
    let first := confirm question default input
    let later := confirmAll more first.rest
    ⟨first.value :: later.value, later.rest, first.printed ++ later.printed⟩

/-- The question about the example files. -/
def templateQuestion : Text :=
  "Add example translation files (src/lang/translations, src/lang/localized-urls)?"

/-- The question about the link tags. -/
def linkQuestion : Text := "Replace <router-link> with <localized-link> in App.vue?"

/-- The question about the language switcher. -/
def switcherQuestion : Text :=
  "Add a <language-switcher> to the navigation in App.vue?"

/-- Puts the questions about three of the switches, with their present values as defaults.  `ask`
    puts one question. -/
def askEach {m : Type → Type} [Monad m] (ask : Text → Bool → m Bool) (o : Options) : m Options := do
  return { o with
    renderTemplate := ← ask templateQuestion o.renderTemplate
    localizeLinks := ← ask linkQuestion o.localizeLinks
    addLanguageSwitcher := ← ask switcherQuestion o.addLanguageSwitcher }

/-- An input that is there as one text, and what was printed so far. -/
structure Transcript where
  input : Text
  printed : Text := []
deriving DecidableEq, Repr

/-- Asks a question of an input, behind what was printed so far. -/
def Transcript.ask (question : Text) (default : Bool) : StateM Transcript Bool := fun t =>
  let asked := confirm question default t.input
  (asked.value, ⟨asked.rest, t.printed ++ asked.printed⟩)

/-- Asks for three of the switches. -/
def askOptions (o : Options) (input : Text) : Asked Options :=
  let (value, t) := askEach Transcript.ask o { input }
  ⟨value, t.input, t.printed⟩

end RouteLocalizer.Command
