/-
  The MANIFEST of a project: the members of its `package.json`, in order.

  Dependencies stand in two sections, each an object from names to version specifiers, and the
  first section that has a specifier for a name decides.  `declare` writes one specifier into the
  first section and nothing else; a section that is missing goes to the end of the manifest.
-/
import RouteLocalizer.Failure
import RouteLocalizer.Json.Reader
import RouteLocalizer.Json.Printer

namespace RouteLocalizer

/-- The language that a project is written in. -/
inductive Script where
  | javascript
  | typescript
deriving DecidableEq, Repr

/-- The ending of script files. -/
def Script.extension : Script → Text
  | .javascript => "js"
  | .typescript => "ts"

/-- The members of a project's manifest. -/
structure Manifest where
  members : Json.Members

namespace Manifest

/-- The section that new dependencies are declared in. -/
def mainSection : Text := "dependencies"

/-- The sections that name dependencies, in the order in which they are asked. -/
def sections : List Text := [mainSection, "devDependencies"]

/-- Reads the text of a manifest. -/
def parse (text : Text) : Except Failure Manifest :=
  match Json.read text with
  | .error fault => .error (.json (fault.message text))
  | .ok (.object members) => .ok ⟨members⟩
  | .ok _ => .error (.precondition "package.json must contain a JSON object")

variable (m : Manifest)

/-- What is said of a section that is no object. -/
def sectionMessage (name : Text) : Text :=
  "\"" ++ name ++ "\" in package.json is not an object"

/-- Whether a section is there without being an object. -/
def isBroken (name : Text) : Bool :=
  (Json.Members.get? name m.members).any fun v => v.members?.isNone

/-- Whether the sections, as far as they are there, are objects. -/
def checkSections : Except Failure Unit :=
  match sections.find? m.isBroken with
  | some name => .error (.precondition (sectionMessage name))
  | none => .ok ()

/-- The version specifier of a dependency. -/
def dependency (name : Text) : Option Text :=
  sections.findSome? fun part =>
    (Json.Members.get? part m.members).bind fun v => (v.member? name).bind Json.string?

/-- Whether a dependency has a version specifier. -/
def hasDependency (name : Text) : Bool := (m.dependency name).isSome

/-- Declares a dependency.  Answers the manifest, and whether it had to change. -/
def declare (name version : Text) : Except Failure (Manifest × Bool) :=
  match (Json.Members.get? mainSection m.members).getD (.object []) with
  | .object entries =>
    if (Json.Members.get? name entries).bind Json.string? = some version then .ok (m, false)
    else
      let entries := Json.Members.set name (.string version) entries
      .ok (⟨Json.Members.set mainSection (.object entries) m.members⟩, true)
  | _ => .error (.internal (sectionMessage mainSection))

/-- The language of the project, by the dependencies that a typed one has. -/
def script : Script :=
  if m.hasDependency "@vue/cli-plugin-typescript" || m.hasDependency "typescript" then .typescript
  else .javascript

/-- The text of the manifest, with a line end behind it. -/
def toText : Text := (Json.object m.members).toText ++ ['\n']

end Manifest

end RouteLocalizer
