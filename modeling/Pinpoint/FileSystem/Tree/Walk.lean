import Pinpoint.FileSystem
import Pinpoint.FileSystem.Tree
import Pinpoint.Text.Utf8

/-!
# The walk of the operating system

The operating system finds an entry name by name. Every name before the last must stand for a
directory, `.` and `..` included; a link is replaced by the names of its target, and at most 40
links are followed in all.

* `Tree.walk` — the place that names lead to.
* `Tree.stat` — the node that a path leads to, all links followed.
-/

namespace Pinpoint.Tree

/-- The longest name, in bytes. -/
def maxNameBytes : Nat := 255

/-- The longest path, in bytes. -/
def maxPathBytes : Nat := 4095

/-- The number of links that one walk may follow. -/
def maxLinks : Nat := 40

/-- Why a walk ends early. Where only the last name is missing, `free` is the place it would
have. -/
inductive WalkFault
  | noEntry (free : Option Place)
  | notDirectory
  | nameTooLong
  | tooManyLinks
  deriving DecidableEq, Repr

/-- The failure reported for a walk along `path`. -/
def WalkFault.toOsError (path : Text) : WalkFault → OsError
  | noEntry _ => .noEntry path
  | notDirectory => .notDirectory path
  | nameTooLong => .nameTooLong path
  | tooManyLinks => .tooManyLinks path

/-- The names of a link target; a slash at its end asks for a directory, as `.` does. -/
def linkNames (target : Text) : List Text :=
  let names := (Text.cut '/' target).filter (· ≠ [])
  if target.endsWith ['/'] then names ++ [['.']] else names

/-- The place that `names` lead to from `place`, following at most `links` links. -/
def walk (t : Tree) : (links : Nat) → (place : Place) → (names : List Text) →
    Except WalkFault Place
  | _, place, [] => .ok place
  | links, place, name :: rest =>
    if t.node? place ≠ some .directory then .error .notDirectory
    else if name = ['.'] then walk t links place rest
    else if name = Path.up then walk t links place.tail rest
    else if maxNameBytes < Utf8.size name then .error .nameTooLong
    else
      match t.node? (name :: place), links with
      | none, _ => .error (.noEntry (if rest = [] then some (name :: place) else none))
      | some (.link _), 0 => .error .tooManyLinks
      | some (.link target), links + 1 =>
        walk t links (if target.startsWith ['/'] then [] else place) (linkNames target ++ rest)
      | some _, links => walk t links (name :: place) rest
termination_by links _ names => (links, names.length)

/-- Where a walk along a path starts: at the root, or at the working directory. -/
def start (cwd : Place) (p : Path) : Place := if p.isAbsolute then [] else cwd

/-- Refuses a path that is too long as a whole. -/
def ensureLength (p : Path) : Except WalkFault Unit :=
  if maxPathBytes < Utf8.size p.render then .error .nameTooLong else .ok ()

/-- The place that a path leads to from the working directory. -/
def find (t : Tree) (cwd : Place) (p : Path) : Except WalkFault Place := do
  ensureLength p
  t.walk maxLinks (start cwd p) p.parts

/-- The node that a path leads to. -/
def stat (t : Tree) (cwd : Place) (p : Path) : Except OsError Node :=
  match t.find cwd p with
  | .error fault => .error (fault.toOsError p.render)
  | .ok place =>
    match t.node? place with
    | some n => .ok n
    | none => .error (.noEntry p.render)

/-- The kind of a node. -/
def Node.kind : Node → EntryKind
  | .file _ => .file
  | .directory => .directory
  | .link _ => .other
  | .pipe => .other

/-- The kind of the entry that a path leads to; one that cannot be reached is missing. -/
def kind (t : Tree) (cwd : Place) (p : Path) : EntryKind :=
  if p.parts.any (Text.nul ∈ ·) then .missing
  else
    match t.stat cwd p with
    | .ok n => Node.kind n
    | .error _ => .missing

end Pinpoint.Tree
