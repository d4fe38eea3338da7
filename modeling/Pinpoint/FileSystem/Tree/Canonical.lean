import Pinpoint.FileSystem.Tree.Walk

/-!
# Canonical paths

The canonical form of a path is found name by name, too, but with rules of its own: `..` takes
back the last name whatever it stands for, links are followed without a limit on their number, and
a link that has been resolved once is not resolved again. A link met while it is being resolved is
a loop.

**Limits.** Links may nest as deep as they like. A loop of relative links that leads out of the
working directory, and further out at every turn, never comes back to the same path: it ends where
the path has become too long to be looked at. A machine with a small stack gives up before that, and
may call it a loop.

* `Tree.canonicalWalk` — the walk, with its memory of links.
* `Tree.canonicalize` — the canonical path of an argument.
-/

namespace Pinpoint.Tree

/-- How far a walk has come: names below the root, or below the directory `ups` levels above the
working directory. The last name comes first. -/
structure Walked where
  absolute : Bool
  ups : Nat
  names : List Text
  deriving DecidableEq, Repr

namespace Walked

/-- A walk that has not left the working directory. -/
def here : Walked := ⟨false, 0, []⟩

/-- A walk that starts again at the root. -/
def root : Walked := ⟨true, 0, []⟩

/-- Goes on to a name. -/
def child (w : Walked) (name : Text) : Walked := { w with names := name :: w.names }

/-- Takes the last name back. -/
def back (w : Walked) : Walked :=
  match w.names with
  | _ :: names => { w with names }
  | [] => if w.absolute then w else { w with ups := w.ups + 1 }

/-- The place a walk has come to. -/
def place (cwd : Place) (w : Walked) : Place :=
  w.names ++ (if w.absolute then [] else cwd.drop w.ups)

/-- The path a walk has come along. -/
def path (w : Walked) : Path :=
  ⟨if w.absolute then .slash else .relative, List.replicate w.ups Path.up ++ w.names.reverse⟩

end Walked

/-- Why a path has no canonical form. -/
inductive CanonicalFault
  | os (e : OsError)
  | loop (link : Walked)
  | nulCharacter
  deriving DecidableEq, Repr

/-- The links met so far: each with what it resolves to, or with nothing while it is being
resolved. -/
abbrev Memory := List (Walked × Option Walked)

/-- Looks at one entry without following it. -/
def look (t : Tree) (cwd : Place) (w : Walked) : Except CanonicalFault Node :=
  let shown := w.path.render
  match w.names with
  | [] => .ok .directory
  | name :: _ =>
    if Text.nul ∈ name then .error .nulCharacter
    else if maxPathBytes < Utf8.size shown then .error (.os (.nameTooLong shown))
    else if t.node? (w.place cwd).tail ≠ some .directory then .error (.os (.notDirectory shown))
    else if maxNameBytes < Utf8.size name then .error (.os (.nameTooLong shown))
    else
      match t.node? (w.place cwd) with
      | none => .error (.os (.noEntry shown))
      | some n => .ok n

/-- A link was met again before it was resolved. The operating system is asked what is wrong. -/
def loopFault (t : Tree) (cwd : Place) (w : Walked) : CanonicalFault :=
  match t.find cwd w.path with
  | .ok _ => .loop w
  | .error .tooManyLinks => .loop w
  | .error fault => .os (fault.toOsError w.path.render)

/-- Walks along names. Links nest at most `depth` deep. -/
def canonicalWalk (t : Tree) (cwd : Place) : (depth : Nat) → Walked → (names : List Text) →
    Memory → Except CanonicalFault (Walked × Memory)
  | _, w, [], memory => .ok (w, memory)
  | depth, w, name :: rest, memory =>
    if name = Path.up then canonicalWalk t cwd depth w.back rest memory
    else
      let next := w.child name
      match t.look cwd next with
      | .error fault => .error fault
      | .ok (.link target) =>
        match memory.lookup next, depth with
        | some (some resolved), depth => canonicalWalk t cwd depth resolved rest memory
        | some none, _ => .error (t.loopFault cwd next)
        | none, 0 => .error (t.loopFault cwd next)
        | none, depth + 1 => do
          let from_ := if target.startsWith ['/'] then .root else w
          let (resolved, memory) ←
            canonicalWalk t cwd depth from_ (Path.partsOf target) ((next, none) :: memory)
          canonicalWalk t cwd (depth + 1) resolved rest ((next, some resolved) :: memory)
      | .ok _ => canonicalWalk t cwd depth next rest memory
termination_by depth _ names => (depth, names.length)

/-- A link is known by its absolute path, and by one path for each number of levels that lead out of
the working directory. A path of more levels than bytes is too long to be looked at, so no deeper
nesting is possible without meeting a link again. -/
def linkDepth (t : Tree) : Nat := t.linkCount * (maxPathBytes + 2) + 1

/-- The canonical path of an argument (`LocalFilesystem.canonicalize`). -/
def canonicalize (t : Tree) (cwd : Place) (arg : Text) : Except Refusal Path :=
  let p := Path.parse arg
  let from_ := if p.isAbsolute then .root else .here
  match t.canonicalWalk cwd t.linkDepth from_ p.parts [] with
  | .ok (w, _) => .ok (w.place cwd).toPath
  | .error (.os e) => .error (.os e)
  | .error (.loop w) =>
    .error (.os (.system .loop ("Symlink loop from " ++ Text.quoted w.path.render) (some arg)))
  | .error .nulCharacter => .error .nulCharacter

/-- A tree as a file system, seen from a working directory (`LocalFilesystem`). -/
def toFileSystem (t : Tree) (cwd : Place) : FileSystem where
  canonicalize := t.canonicalize cwd
  kind := t.kind cwd

end Pinpoint.Tree
