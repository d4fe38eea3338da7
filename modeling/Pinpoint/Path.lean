import Pinpoint.Text

/-!
# Paths

A path is a root and the names below it. Reading a path drops empty names and `.`, keeps `..`, and
tells two leading slashes from any other number of them.

* `Path.parse`, `Path.render` — between paths and texts.
* `Path.join` — a path that starts at its own root replaces the base.
* `Path.normalize` — resolves `..` by the names alone, whatever the entries are.
* `Path.ancestors` — the directories above a path, nearest first.
-/

namespace Pinpoint

/-- Where a path starts. Two leading slashes are a root of their own. -/
inductive Root
  | relative
  | slash
  | doubleSlash
  deriving DecidableEq, Repr

/-- The slashes that a root is written with. -/
def Root.render : Root → Text
  | .relative => []
  | .slash => ['/']
  | .doubleSlash => ['/', '/']

/-- A root and the names below it. -/
structure Path where
  root : Root
  parts : List Text
  deriving DecidableEq, Repr

namespace Path

/-- The root that a text starts with. -/
def rootOf : Text → Root
  | '/' :: '/' :: '/' :: _ => .slash
  | '/' :: '/' :: _ => .doubleSlash
  | '/' :: _ => .slash
  | _ => .relative

/-- A name that a path keeps: neither empty nor `.`. -/
def isName (part : Text) : Bool := part ≠ [] && part ≠ ['.']

/-- The names between the slashes of a text. -/
def partsOf (t : Text) : List Text := (Text.cut '/' t).filter isName

/-- Reads a path. -/
def parse (t : Text) : Path := ⟨rootOf t, partsOf t⟩

/-- The empty relative path, written `.`. -/
def here : Path := ⟨.relative, []⟩

/-- The path is the same in every working directory. -/
def isAbsolute (p : Path) : Bool := p.root ≠ .relative

/-- Writes a path. -/
def render (p : Path) : Text :=
  if p = here then ['.'] else p.root.render ++ Text.join ['/'] p.parts

/-- `p` seen from `base`. -/
def join (base p : Path) : Path :=
  if p.isAbsolute then p else ⟨base.root, base.parts ++ p.parts⟩

/-- One name below a path. -/
def child (p : Path) (name : Text) : Path := ⟨p.root, p.parts ++ [name]⟩

/-- The name of the parent directory. -/
def up : Text := ['.', '.']

/-- Adds one name to the names walked so far, the last one first. A `..` takes back the name before
it; at a root it does nothing, and a relative path keeps the ones that lead out of it. -/
def normalizeStep (root : Root) (walked : List Text) (part : Text) : List Text :=
  if part ≠ up then part :: walked
  else
    match walked with
    | [] => if root = .relative then [up] else []
    | last :: before => if last = up then up :: last :: before else before

/-- Resolves `..` by the names alone. -/
def normalize (p : Path) : Path :=
  ⟨p.root, (p.parts.foldl (normalizeStep p.root) []).reverse⟩

/-- The proper prefixes of the names, longest first, the empty one included. -/
def prefixes (parts : List Text) : List (List Text) :=
  ((List.range parts.length).map (parts.take ·)).reverse

/-- The directories above a path, nearest first: up to the root, or up to the first name of a
relative path. A root stands above itself. -/
def ancestors (p : Path) : List Path :=
  match p.root, p.parts with
  | .relative, parts => ((prefixes parts).filter (· ≠ [])).map (⟨.relative, ·⟩)
  | root, [] => [⟨root, []⟩]
  | root, parts => (prefixes parts).map (⟨root, ·⟩)

end Path

end Pinpoint
