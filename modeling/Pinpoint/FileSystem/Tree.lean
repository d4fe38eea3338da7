import Pinpoint.Path

/-!
# Trees of entries

A tree holds files, directories, symbolic links and pipes, each at a place. A place is the list of
names from the entry up to the root, its own name first, so that the directory above it is the
tail of the list.
-/

namespace Pinpoint

/-- The names from an entry up to the root; the root itself has none. -/
abbrev Place := List Text

/-- What stands at a place. -/
inductive Node
  | file (content : List UInt8)
  | directory
  | link (target : Text)
  | pipe
  deriving DecidableEq, Repr

/-- Nodes by place. The root is always a directory. -/
structure Tree where
  nodes : List (Place × Node) := []

namespace Tree

/-- The node at a place. -/
def node? (t : Tree) (place : Place) : Option Node :=
  if place = [] then some .directory else t.nodes.lookup place

/-- Puts a node at a place, in the stead of whatever is there. -/
def put (t : Tree) (place : Place) (n : Node) : Tree :=
  ⟨(place, n) :: t.nodes.filter (·.1 ≠ place)⟩

/-- Takes the node at a place away. -/
def erase (t : Tree) (place : Place) : Tree := ⟨t.nodes.filter (·.1 ≠ place)⟩

/-- The directory at a place holds no entry. -/
def isEmptyAt (t : Tree) (place : Place) : Bool :=
  t.nodes.all fun (p, _) => p.tail ≠ place || p = []

/-- The number of symbolic links. -/
def linkCount (t : Tree) : Nat :=
  t.nodes.countP fun (_, n) => match n with
    | .link _ => true
    | _ => false

theorem node?_put_self (t : Tree) {place : Place} (n : Node) (h : place ≠ []) :
    (t.put place n).node? place = some n := by
  simp [node?, put, h]

end Tree

/-- The absolute path of a place. -/
def Place.toPath (place : Place) : Path := ⟨.slash, place.reverse⟩

/-- The place that an absolute path names if no name on the way is a link. -/
def Place.ofPath (p : Path) : Place := p.parts.reverse

end Pinpoint
