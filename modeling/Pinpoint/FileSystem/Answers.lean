import Pinpoint.FileSystem

/-!
# Recorded answers

A computation asks a file system few questions. Once they have been answered, the answers alone
are a file system on which it comes to the same result.

* `Answers.toFileSystem` — the file system that gives recorded answers.
-/

namespace Pinpoint

/-- Answers that a file system has given. -/
structure Answers where
  canonical : List (Text × Except Refusal Path) := []
  kinds : List (Path × EntryKind) := []

namespace Answers

/-- The file system that gives recorded answers. Whatever has not been asked for is missing. -/
def toFileSystem (a : Answers) : FileSystem where
  canonicalize path := (a.canonical.lookup path).getD (.error (.os (.noEntry path)))
  kind path := (a.kinds.lookup path).getD .missing

/-- Adds the canonical form of a path. -/
def addCanonical (path : Text) (r : Except Refusal Path) (a : Answers) : Answers :=
  { a with canonical := (path, r) :: a.canonical }

/-- Adds the kind of a path. -/
def addKind (path : Path) (k : EntryKind) (a : Answers) : Answers :=
  { a with kinds := (path, k) :: a.kinds }

end Answers

end Pinpoint
