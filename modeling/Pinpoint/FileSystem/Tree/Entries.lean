import Pinpoint.FileSystem.Tree.Walk

/-!
# Changing a tree

Reading and writing files, making directories, links and pipes, and removing entries, each with
the failures that the operating system reports. Paths are taken from a working directory.
-/

namespace Pinpoint.Tree

/-- What stands under a name in the directory at a place, and where; links are not followed. -/
def lookIn (t : Tree) (above : Place) (name : Text) : Except WalkFault (Place × Option Node) :=
  if t.node? above ≠ some .directory then .error .notDirectory
  else if name = Path.up then .ok (above.tail, some .directory)
  else if maxNameBytes < Utf8.size name then .error .nameTooLong
  else .ok (name :: above, t.node? (name :: above))

/-- The place of a path's last name, which is not followed, and what stands there. A path without
a last name of its own leads to a directory. -/
def findLast (t : Tree) (cwd : Place) (p : Path) : Except WalkFault (Place × Option Node) := do
  ensureLength p
  match p.parts.getLast? with
  | none => return (start cwd p, some .directory)
  | some name => t.lookIn (← t.walk maxLinks (start cwd p) p.parts.dropLast) name

/-- Gives a walk's fault the wording of a failure on a path. -/
def onPath {α : Type} (p : Path) : Except WalkFault α → Except OsError α
  | .ok a => .ok a
  | .error fault => .error (fault.toOsError p.render)

/-- The content of the file that a path leads to. -/
def contentOf (t : Tree) (cwd : Place) (p : Path) : Except OsError (List UInt8) := do
  match ← t.stat cwd p with
  | .file content => return content
  | .directory => throw (.isDirectory p.render)
  | _ => return []

/-- Writes the file that a path leads to, or makes one in an existing directory. -/
def write (t : Tree) (cwd : Place) (p : Path) (content : List UInt8) : Except OsError Tree :=
  match t.find cwd p with
  | .ok place =>
    if t.node? place = some .directory then .error (.isDirectory p.render)
    else .ok (t.put place (.file content))
  | .error (.noEntry (some place)) => .ok (t.put place (.file content))
  | .error fault => .error (fault.toOsError p.render)

/-- Makes an entry at a path where nothing is yet. -/
def make (t : Tree) (cwd : Place) (p : Path) (n : Node) : Except OsError Tree := do
  match ← onPath p (t.findLast cwd p) with
  | (place, none) => return t.put place n
  | (_, some _) => throw (.alreadyExists p.render)

/-- The directory above a path, by the names alone. -/
def parent (p : Path) : Path := ⟨p.root, p.parts.dropLast⟩

/-- The place of the directory that is at a path already; `e` is the failure if there is none. -/
def existing (t : Tree) (cwd : Place) (p : Path) (e : OsError) : Except OsError Place :=
  match t.find cwd p with
  | .ok place => if t.node? place = some .directory then .ok place else .error e
  | .error _ => .error e

/-- Makes a directory unless there is one, given what stands at its path, and tells its place. -/
def ensureDirectory (t : Tree) (cwd : Place) (p : Path) :
    Except WalkFault (Place × Option Node) → Tree × Except OsError Place
  | .ok (place, none) => (t.put place .directory, .ok place)
  | .ok (_, some _) => (t, t.existing cwd p (.alreadyExists p.render))
  | .error fault => (t, t.existing cwd p (fault.toOsError p.render))

/-- Makes a directory and whatever is missing above it, at most `levels` levels. What has been made
stays where a lower level fails. -/
def ensureDirectoriesFrom (t : Tree) (cwd : Place) :
    (levels : Nat) → Path → Tree × Except OsError Place
  | 0, p => t.ensureDirectory cwd p (t.findLast cwd p)
  | levels + 1, p =>
    match t.findLast cwd p, p.parts.getLast? with
    | .error (.noEntry _), some name =>
      match t.ensureDirectoriesFrom cwd levels (parent p) with
      | (t, .ok above) => t.ensureDirectory cwd p (t.lookIn above name)
      | failed => failed
    | found, _ => t.ensureDirectory cwd p found

/-- Makes a directory and whatever is missing above it, and tells its place. -/
def ensureDirectories (t : Tree) (cwd : Place) (p : Path) : Tree × Except OsError Place :=
  t.ensureDirectoriesFrom cwd p.parts.length p

/-- Removes a file, a link or a pipe. -/
def unlink (t : Tree) (cwd : Place) (p : Path) : Except OsError Tree := do
  match ← onPath p (t.findLast cwd p) with
  | (_, none) => throw (.noEntry p.render)
  | (_, some .directory) => throw (.isDirectory p.render)
  | (place, some _) => return t.erase place

/-- Removes an empty directory. -/
def removeDirectory (t : Tree) (cwd : Place) (p : Path) : Except OsError Tree := do
  match ← onPath p (t.findLast cwd p) with
  | (_, none) => throw (.noEntry p.render)
  | (place, some .directory) =>
    if t.isEmptyAt place then return t.erase place else throw (.notEmpty p.render)
  | (_, some _) => throw (.notDirectory p.render)

/-- Makes the directories above a path, and then changes the tree. -/
def withParents (change : Tree → Except OsError Tree) (t : Tree) (cwd : Place) (p : Path) :
    Tree × Except OsError Unit :=
  match t.ensureDirectories cwd (parent p) with
  | (t, .error e) => (t, .error e)
  | (t, .ok _) =>
    match change t with
    | .ok t => (t, .ok ())
    | .error e => (t, .error e)

/-- Makes an entry and the directories above it. -/
def makeWithParents (t : Tree) (cwd : Place) (p : Path) (n : Node) : Tree × Except OsError Unit :=
  t.withParents (·.make cwd p n) cwd p

/-- Writes a file and makes the directories above it. -/
def writeWithParents (t : Tree) (cwd : Place) (p : Path) (content : List UInt8) :
    Tree × Except OsError Unit :=
  t.withParents (·.write cwd p content) cwd p

/-- Removes a link, a file or an empty directory. -/
def remove (t : Tree) (cwd : Place) (p : Path) : Except OsError Tree :=
  match t.findLast cwd p with
  | .ok (_, some .directory) => t.removeDirectory cwd p
  | _ => t.unlink cwd p

end Pinpoint.Tree
