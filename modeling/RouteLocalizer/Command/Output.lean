/-
  What the commands PRINT: the report of a pass, and the status of a project in plain words or as
  JSON.
-/
import RouteLocalizer.Json.Printer
import RouteLocalizer.Report
import RouteLocalizer.Status.Inspect

namespace RouteLocalizer.Command

open Text

/-- A count of things. -/
def pluralize (word : Text) (count : Nat) : Text :=
  if count = 1 then "1 " ++ word else ofNat count ++ " " ++ word ++ "s"

/-- The sign in front of a note. -/
def levelIcon : Level → Text
  | .info => "💡"
  | .warn => "⚠️ "
  | .error => "❌"

/-- The sign in front of a step. -/
def outcomeIcon : Outcome → Text
  | .modified => "✅"
  | .unchanged => "✔️ "
  | .skipped => "⏭️ "

/-- The sign in front of a check. -/
def checkIcon : CheckState → Text
  | .done => "✅"
  | .pending => "⏳"
  | .missing => "❌"

/-- The word for an outcome. -/
def outcomeWord : Outcome → Text
  | .modified => "Modified"
  | .unchanged => "Unchanged"
  | .skipped => "Skipped"

/-- The word for the state of a check. -/
def stateWord : CheckState → Text
  | .done => "done"
  | .pending => "pending"
  | .missing => "missing"

/-- The name of a script language. -/
def scriptName : Script → Text
  | .javascript => "JavaScript"
  | .typescript => "TypeScript"

/-- The lines, each with a line end. -/
def unlines (lines : List Text) : Text := lines.flatMap fun line => line ++ ['\n']

/-! ## The report of a pass -/

/-- The line on a step: its outcome, and the files it is about. -/
def stepLine (root : Path) (s : StepRecord) : Text :=
  let start := outcomeIcon s.outcome ++ " " ++ padRight 10 s.step.name ++ " " ++
    outcomeWord s.outcome
  if s.files.isEmpty then start
  else start ++ " (" ++ joinWith [',', ' '] (s.files.map root.shownIn) ++ ")"

/-- The line on a note. -/
def noteLine (d : Diagnostic) : Text := levelIcon d.level ++ " " ++ d.message

/-- The lines behind the notes: how many files changed, and what to do now. -/
def closingLines (r : Report) : List Text :=
  let files := pluralize "file" r.modifiedFiles.length
  let warnings := r.warnings.length
  let count : Text := if r.dryRun then "📋 Would modify " ++ files else "✨ Modified " ++ files
  count ::
    if 0 < warnings then ["⚠️  " ++ pluralize "item" warnings ++ " need manual attention"]
    else if r.dryRun then []
    else ["💡 Run \x60npm install\x60 to fetch the new dependency"]

/-- The report of a pass over the project at a root. -/
def reportLines (root : Path) (r : Report) : List Text :=
  [] :: r.steps.map (stepLine root) ++
    (if r.diagnostics.isEmpty then [] else [] :: r.diagnostics.map noteLine) ++
    [] :: closingLines r

/-! ## The status of a project -/

/-- The line on a check. -/
def checkLine (root : Path) (c : Check) : Text :=
  "  " ++ checkIcon c.state ++ " " ++ padRight 20 c.name ++ " " ++ root.shownIn c.file

/-- The status of the project at a root, in plain words. -/
def statusLines (root : Path) (s : Status) : List Text :=
  let pending := s.pending.length
  let title : Text := "🔍 Localized routing status (" ++ scriptName s.script ++ ")"
  let closing : List Text :=
    if pending = 0 then ["✅ Localized routing is fully wired"]
    else ["⏳ " ++ pluralize "check" pending ++ " pending",
      "    💡 Run 'lang-router apply' to wire the rest"]
  [title, "=================================", []] ++ s.checks.map (checkLine root) ++
    [] :: closing

/-- A check, as JSON. -/
def checkJson (c : Check) : Json :=
  .object [("name", .string c.name), ("file", .string c.file.spelling),
    ("state", .string (stateWord c.state))]

/-- The name of a script language, as JSON has it. -/
def scriptWord (s : Script) : Text := toLowerAscii (scriptName s)

/-- The status of a project, as JSON. -/
def statusJson (s : Status) : Json :=
  .object [("script", .string (scriptWord s.script)), ("checks", .array (s.checks.map checkJson))]

end RouteLocalizer.Command
