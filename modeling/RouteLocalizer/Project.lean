/-
  A PROJECT: where it lies, the language it is written in, and the four files that a pass works
  on.
-/
import RouteLocalizer.Path
import RouteLocalizer.Manifest.Basic

namespace RouteLocalizer

/-- What is known of a project before any of its files is touched. -/
structure Project where
  root : Path
  script : Script
  /-- The major version of the framework, if its specifier names one. -/
  frameworkMajor : Option Nat := none
deriving DecidableEq, Repr

namespace Project

/-- The manifest of the project at a root. -/
def manifestAt (root : Path) : Path := root.join ⟨"package.json"⟩

variable (p : Project)

/-- A file of the source directory. -/
def sourceFile (relative : Text) : Path := (p.root.join ⟨"src"⟩).join ⟨relative⟩

/-- The script that starts the application. -/
def entryFile : Path := p.sourceFile ("main." ++ p.script.extension)

/-- The script that sets up the router. -/
def routerFile : Path :=
  (p.sourceFile "router").join ⟨"index." ++ p.script.extension⟩

/-- The component that holds the application. -/
def appFile : Path := p.sourceFile "App.vue"

/-- The manifest. -/
def manifestFile : Path := manifestAt p.root

end Project

end RouteLocalizer
