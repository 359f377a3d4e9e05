/-
  READING YAML FILES: the documents of a file, of which there should be one.

  A line of three dashes starts a document and a line of three points ends one.  A file without
  documents is an empty mapping.
-/
import RouteLocalizer.Yaml.Node

namespace RouteLocalizer.Yaml

open Text

/-- What is wrong with a file. -/
inductive FileFault where
  | malformed (fault : Fault)
  /-- It has as many documents. -/
  | notSingle (count : Nat)
deriving DecidableEq, Repr

/-- The message about a fault. -/
def FileFault.message : FileFault → Text
  | .malformed f => f.message
  | .notSingle count => "Got " ++ ofNat count ++ " YAML documents, expected 1"

/-- The draft of tokens of which none is read. -/
def Draft.ofTokens (t : Tokens) : Draft :=
  { tokens := t.tokens, ending := t.fault.getD ⟨.endOfTokens, {}⟩ }

/-- The values of the documents of a text. -/
def documents (text : Text) : Except Fault (List Yaml) :=
  let draft := Draft.ofTokens (Tokens.ofText text)
  match (Build.documents (draft.tokens.length + 1) false).run draft with
  | .error f => .error f
  | .ok (values, draft) =>
    match draft.secondKey with
    | some f => .error f
    | none => .ok values

/-- The value of a file. -/
def read (text : Text) : Except FileFault Yaml :=
  match documents text with
  | .error f => .error (.malformed f)
  | .ok [] => .ok (.mapping [])
  | .ok [v] => .ok v
  | .ok values => .error (.notSingle values.length)

end RouteLocalizer.Yaml
