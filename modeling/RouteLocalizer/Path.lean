/-
  PATHS, and the components that they are made of.

  A path keeps the SPELLING it was given, and that spelling is what messages show.  What a path
  means are its components: a slash at the start is the root, a dot at the start the current
  directory; further empty pieces and dots between slashes are NOISE and mean nothing.  Two paths
  are the same when their components are.
-/
import RouteLocalizer.Text.Basic

namespace RouteLocalizer

open Text

/-- A path, as it is spelled. -/
structure Path where
  spelling : Text
deriving DecidableEq, Repr

/-- What a path is made of. -/
inductive Component where
  | root
  | current
  | parent
  | name (name : Text)
deriving DecidableEq, Repr

namespace Path

/-- What a piece between slashes means behind the start of a path; noise means nothing. -/
def pieceComponent (piece : Text) : Option Component :=
  if piece = [] ∨ piece = ['.'] then none
  else if piece = ['.', '.'] then some .parent
  else some (.name piece)

/-- Whether a piece means nothing. -/
def isNoise (piece : Text) : Bool := (pieceComponent piece).isNone

/-- The start of a path, with the slash or the dot that is a component of its own, and the pieces
    behind it. -/
structure Layout where
  start : Option Component
  pieces : List Text
deriving DecidableEq, Repr

/-- The layout of a spelling. -/
def layout (p : Path) : Layout :=
  match p.spelling with
  | [] => ⟨none, []⟩
  | '/' :: rest => ⟨some .root, pieces '/' rest⟩
  | text =>
    match Text.pieces '/' text with
    | ['.'] :: rest => ⟨some .current, rest⟩
    | all => ⟨none, all⟩

/-- The spelling of a layout. -/
def Layout.spelling (l : Layout) : Text :=
  let body := joinWith ['/'] l.pieces
  match l.start with
  | some .root => '/' :: body
  | some _ => if l.pieces.isEmpty then ['.'] else '.' :: '/' :: body
  | none => body

/-- The components of a path. -/
def components (p : Path) : List Component :=
  p.layout.start.toList ++ p.layout.pieces.filterMap pieceComponent

/-- Whether two paths mean the same. -/
def same (p q : Path) : Bool := p.components = q.components

/-- Whether a path starts at the root. -/
def isAbsolute (p : Path) : Bool := p.spelling.head? = some '/'

/-- The path `q`, seen from the directory `p`. -/
def join (p q : Path) : Path :=
  if q.isAbsolute ∨ p.spelling = [] then q
  else if p.spelling.getLast? = some '/' then ⟨p.spelling ++ q.spelling⟩
  else ⟨p.spelling ++ '/' :: q.spelling⟩

/-- Drops the noise at the end of a list of pieces. -/
def dropNoiseBehind (ps : List Text) : List Text := (ps.reverse.dropWhile isNoise).reverse

/-- The path without its last component. -/
def parent? (p : Path) : Option Path :=
  let l := p.layout
  match dropNoiseBehind l.pieces with
  | [] => if l.start = some .current then some ⟨[]⟩ else none
  | ps => some ⟨{ l with pieces := dropNoiseBehind ps.dropLast : Layout }.spelling⟩

/-- The name of the file, if the path ends with a name. -/
def fileName? (p : Path) : Option Text :=
  match p.components.getLast? with
  | some (.name n) => some n
  | _ => none

/-- The pieces that remain behind the given components. -/
def piecesBehind : List Text → List Component → Option (List Text)
  | ps, [] => some ps
  | [], _ :: _ => none
  | p :: ps, c :: cs =>
    match pieceComponent p with
    | none => piecesBehind ps (c :: cs)
    | some d => if d = c then piecesBehind ps cs else none

/-- The path as seen from a directory above it, without noise at its ends; nothing when the
    directory is not above it. -/
def relativeTo? (p base : Path) : Option Path :=
  let l := p.layout
  match base.components with
  | [] => some ⟨{ l with pieces := dropNoiseBehind l.pieces : Layout }.spelling⟩
  | c :: cs =>
    let behind := match l.start with
      | some s => if s = c then piecesBehind l.pieces cs else none
      | none => piecesBehind l.pieces (c :: cs)
    behind.map fun ps => ⟨joinWith ['/'] (dropNoiseBehind (ps.dropWhile isNoise))⟩

/-- How a path is shown to someone who works in a directory: as seen from there, and as it stands
    when it lies elsewhere. -/
def shownIn (root p : Path) : Text := ((p.relativeTo? root).getD p).spelling

/-- The name of a component. -/
def componentName : Component → Text
  | .root => []
  | .current => ['.']
  | .parent => ['.', '.']
  | .name n => n

/-- The components of one place as seen from another: up to where their ways part, and down. -/
def wayFrom : (here there : List Component) → List Component
  | [], there => there
  | here, [] => here.map fun _ => .parent
  | h :: here, t :: there =>
    if h = t then wayFrom here there else (h :: here).map (fun _ => .parent) ++ t :: there

/-- How a path is shown to someone who works in the directory `here`, also when it lies outside. -/
def seenFrom (here p : Path) : Text :=
  joinWith ['/'] ((wayFrom here.components (here.join p).components).map componentName)

end Path

end RouteLocalizer
