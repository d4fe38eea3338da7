import Pinpoint.FileSystem

/-!
# File systems given by tables

A file system in memory, for rehearsing every answer a real one may give. Paths are normalized by
their names alone; a link redirects a whole path; any path can be made to fail, or to vanish
between the two questions.
-/

namespace Pinpoint

/-- The tables: entries and links, failures, and paths whose entry vanishes. All paths in them are
normalized; the most recent row for a path counts. -/
structure Table where
  entries : List (Path × EntryKind) := [(⟨.slash, []⟩, .directory)]
  links : List (Path × Path) := []
  failures : List (Path × OsError) := []
  vanished : List Path := []

namespace Table

/-- Rows other than those for a path. -/
def without {α : Type} (p : Path) (rows : List (Path × α)) : List (Path × α) :=
  rows.filter (·.1 ≠ p)

/-- Makes directories of `above`, nearest first, up to the first that has an entry. -/
def addAncestors (above : List Path) (entries : List (Path × EntryKind)) :
    List (Path × EntryKind) :=
  (above.takeWhile fun p => (entries.lookup p).isNone).foldl (fun es p => (p, .directory) :: es)
    entries

/-- Adds an entry and the directories above it. -/
def addEntry (p : Text) (k : EntryKind) (t : Table) : Table :=
  let n := (Path.parse p).normalize
  { t with entries := (n, k) :: without n (addAncestors n.ancestors t.entries) }

/-- Adds a link and the directories above it. -/
def addLink (p target : Text) (t : Table) : Table :=
  let n := (Path.parse p).normalize
  { t with
    entries := addAncestors n.ancestors t.entries
    links := (n, (Path.parse target).normalize) :: without n t.links }

/-- Makes the canonical form of a path fail with a number. -/
def addFailure (p : Text) (code : Errno) (t : Table) : Table :=
  let e : OsError := .system code "Permission denied" (some p)
  { t with failures := ((Path.parse p).normalize, e) :: t.failures }

/-- Makes the canonical form of a path fail with a text. -/
def addTextFailure (p text : Text) (t : Table) : Table :=
  { t with failures := ((Path.parse p).normalize, .unnumbered text) :: t.failures }

/-- Makes the entry of a path vanish between the two questions. -/
def vanish (p : Text) (t : Table) : Table :=
  { t with vanished := (Path.parse p).normalize :: t.vanished }

/-- Forgets everything about a path. -/
def remove (p : Text) (t : Table) : Table :=
  let n := (Path.parse p).normalize
  { entries := without n t.entries
    links := without n t.links
    failures := without n t.failures
    vanished := t.vanished.filter (· ≠ n) }

/-- Follows links from a path for at most `steps` steps; nothing if links are left then. -/
def follow (links : List (Path × Path)) : (steps : Nat) → Path → Option Path
  | 0, _ => none
  | steps + 1, p =>
    match links.lookup p with
    | none => some p
    | some q => follow links steps q

/-- The canonical form of a path. Whoever meets more links than there are, meets one twice. -/
def canonicalize (t : Table) (asked : Text) : Except OsError Path :=
  let n := (Path.parse asked).normalize
  match t.failures.lookup n with
  | some e => .error e
  | none =>
    match follow t.links (t.links.length + 1) n with
    | none => .error (.tooManyLinks asked)
    | some p => if (t.entries.lookup p).isSome then .ok p else .error (.noEntry asked)

/-- The kind of the entry at a path. -/
def kind (t : Table) (p : Path) : EntryKind :=
  let n := p.normalize
  if n ∈ t.vanished then .missing else (t.entries.lookup n).getD .missing

/-- The file system that the tables describe. -/
def toFileSystem (t : Table) : FileSystem where
  canonicalize asked :=
    match t.canonicalize asked with
    | .ok p => .ok p
    | .error e => .error (.os e)
  kind := t.kind

end Table

end Pinpoint
