/-
  What a project must be like BEFORE a pass touches any of its files: its manifest can be read,
  the router and the framework are among its dependencies, and the framework's version, as far as
  it can be told, is the one whose routers are installed on a host object.
-/
import RouteLocalizer.Manifest.Version
import RouteLocalizer.Project
import RouteLocalizer.Report
import RouteLocalizer.Settings.Basic
import RouteLocalizer.Store.Files

namespace RouteLocalizer.Pass

/-- The dependency that provides the stock router. -/
def routerDependency : Text := "vue-router"

/-- The dependency that provides the framework. -/
def frameworkDependency : Text := "vue"

/-- The only major version of the framework that can be wired. -/
def supportedMajor : Nat := 2

/-- A project that can be wired. -/
structure Accepted where
  project : Project
  manifest : Manifest
  notes : List Diagnostic

/-- Reads the manifest's text; a fault in it is an unmet precondition. -/
def manifestOf (root : Path) : Except FileFault Text → Except Failure Manifest
  | .error fault =>
    .error (.precondition ("Cannot read " ++ (Project.manifestAt root).spelling ++ " (" ++
      fault.message ++ "); run this inside a Vue CLI project"))
  | .ok text =>
    match Manifest.parse text with
    | .error (.json message) => .error (.precondition ("Invalid package.json: " ++ message))
    | answer => answer

/-- The note on a version that cannot be told. -/
def unreadVersion (specifier : Text) : Diagnostic :=
  ⟨.warn, "Could not read the Vue version from \"" ++ specifier ++ "\"; assuming Vue " ++
    Text.ofNat supportedMajor⟩

/-- What is said of a framework whose version is not supported. -/
def unsupported (s : Settings) (specifier : Text) : Text :=
  frameworkDependency ++ " " ++ specifier ++ " is not supported; " ++ s.dependency.name ++
    " requires Vue " ++ Text.ofNat supportedMajor

/-- Whether a manifest is the one of a project that can be wired. -/
def acceptManifest (s : Settings) (root : Path) (manifest : Manifest) : Except Failure Accepted :=
  match manifest.checkSections with
  | .error failure => .error failure
  | .ok () =>
    if !manifest.hasDependency routerDependency then
      .error (.precondition (routerDependency ++
        " is not installed; add the router plugin first (vue add router)"))
    else match manifest.dependency frameworkDependency with
      | none =>
        .error (.precondition (frameworkDependency ++ " is not a dependency of this project"))
      | some specifier =>
        let major := Manifest.majorVersion specifier
        if major.any (· != supportedMajor) then
          .error (.precondition (unsupported s specifier))
        else .ok
          { project := ⟨root, manifest.script, major⟩
            manifest := manifest
            notes := if major.isNone then [unreadVersion specifier] else [] }

/-- Whether what was read in the place of the manifest belongs to a project that can be wired. -/
def accept (s : Settings) (root : Path) (content : Except FileFault Text) :
    Except Failure Accepted :=
  match manifestOf root content with
  | .error failure => .error failure
  | .ok manifest => acceptManifest s root manifest

end RouteLocalizer.Pass
