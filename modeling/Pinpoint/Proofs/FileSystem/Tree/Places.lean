import Mathlib.Data.List.Basic
import Pinpoint.FileSystem.Tree.Canonical
import Pinpoint.Proofs.Path.Reading

/-!
# Places without links

A place is solid if every name on the way to it stands for a directory and nothing on
the way, itself included, is a symbolic link. Solid places are what canonical paths
name. In a lawful tree all names can be written into paths, so the path of a solid
place is read back as it was written.

* `Tree.Lawful`, `Tree.Solid`, `Tree.IsWorkingDir`: what is assumed of a tree and of
  the directory that relative paths start from.
* `Tree.Solid.proper_toPath`: the path of a solid place can be written and read back.
-/

namespace Pinpoint

/-! ## Names of entries -/

/-- A name that an entry of a directory can have. -/
structure IsFileName (name : Text) : Prop where
  isName : Path.isName name = true
  ne_up : name ≠ Path.up
  slash_notMem : '/' ∉ name
  nul_notMem : Text.nul ∉ name
  size_le : Utf8.size name ≤ Tree.maxNameBytes

instance (name : Text) : Decidable (IsFileName name) :=
  decidable_of_iff
    (Path.isName name = true ∧ name ≠ Path.up ∧ '/' ∉ name ∧ Text.nul ∉ name ∧
      Utf8.size name ≤ Tree.maxNameBytes)
    ⟨fun ⟨h₁, h₂, h₃, h₄, h₅⟩ => ⟨h₁, h₂, h₃, h₄, h₅⟩,
      fun h => ⟨h.isName, h.ne_up, h.slash_notMem, h.nul_notMem, h.size_le⟩⟩

theorem IsFileName.ne_dot {name : Text} (h : IsFileName name) : name ≠ ['.'] := by
  rintro rfl
  exact absurd h.isName (by decide)

namespace Tree

variable {t : Tree} {cwd place above : Place} {name : Text}

/-- Every entry has a name that an entry can have. -/
def Lawful (t : Tree) : Prop :=
  ∀ name above n, t.node? (name :: above) = some n → IsFileName name

theorem mem_nodes_of_node? {n : Node} (h : t.node? (name :: above) = some n) :
    (name :: above, n) ∈ t.nodes := by
  rw [node?, if_neg (List.cons_ne_nil name above)] at h
  obtain ⟨before, after, hnodes, -⟩ := List.lookup_eq_some_iff.1 h
  simp [hnodes]

/-- It is enough to look at the names that are listed. -/
theorem lawful_of_nodes (h : ∀ entry ∈ t.nodes, ∀ name ∈ entry.1.head?, IsFileName name) :
    t.Lawful :=
  fun name _ _ hn => h _ (mem_nodes_of_node? hn) name rfl

/-! ## Solid places -/

/-- Every name on the way to a place stands for a directory, and there is an entry, which is no
    symbolic link. -/
def Solid (t : Tree) : Place → Prop
  | [] => True
  | name :: above =>
    t.Solid above ∧ t.node? above = some .directory ∧
      ∃ n, t.node? (name :: above) = some n ∧ ∀ target, n ≠ .link target

/-- A directory that a process can work in, known without links. -/
structure IsWorkingDir (t : Tree) (cwd : Place) : Prop where
  solid : t.Solid cwd
  directory : t.node? cwd = some .directory

instance (t : Tree) (place : Place) :
    Decidable (∃ n, t.node? place = some n ∧ ∀ target, n ≠ .link target) :=
  match h : t.node? place with
  | none => .isFalse (by simp)
  | some (.file _) => .isTrue ⟨_, rfl, by simp⟩
  | some .directory => .isTrue ⟨_, rfl, by simp⟩
  | some (.link _) => .isFalse (by simp)
  | some .pipe => .isTrue ⟨_, rfl, by simp⟩

instance decidableSolid (t : Tree) : (place : Place) → Decidable (t.Solid place)
  | [] => .isTrue trivial
  | _ :: above => @instDecidableAnd _ _ (decidableSolid t above) inferInstance

instance (t : Tree) (cwd : Place) : Decidable (t.IsWorkingDir cwd) :=
  decidable_of_iff (t.Solid cwd ∧ t.node? cwd = some .directory)
    ⟨fun ⟨h₁, h₂⟩ => ⟨h₁, h₂⟩, fun h => ⟨h.solid, h.directory⟩⟩

theorem solid_nil : t.Solid [] := trivial

theorem node?_nil (t : Tree) : t.node? [] = some .directory := rfl

theorem Solid.of_cons (h : t.Solid (name :: above)) : t.Solid above := h.1

theorem Solid.directory_of_cons (h : t.Solid (name :: above)) : t.node? above = some .directory :=
  h.2.1

theorem Solid.exists_node (h : t.Solid place) :
    ∃ n, t.node? place = some n ∧ ∀ target, n ≠ .link target := by
  cases place with
  | nil => exact ⟨.directory, rfl, by simp⟩
  | cons name above => exact h.2.2

theorem Solid.tail (h : t.Solid place) : t.Solid place.tail := by
  cases place with
  | nil => exact h
  | cons name above => exact h.of_cons

theorem Solid.of_suffix {place' : Place} (h : t.Solid place) (hsuffix : place' <:+ place) :
    t.Solid place' := by
  induction place with
  | nil =>
    rw [List.suffix_nil.1 hsuffix]
    exact solid_nil
  | cons name above ih =>
    rcases List.suffix_cons_iff.1 hsuffix with rfl | hsuffix
    · exact h
    · exact ih h.of_cons hsuffix

/-- A place is solid if all places on the way to it are directories. -/
theorem solid_of_directories (h : ∀ above, above <:+ place → t.node? above = some .directory) :
    t.Solid place := by
  induction place with
  | nil => exact solid_nil
  | cons name above ih =>
    have hsuffix : above <:+ name :: above := List.suffix_cons name above
    exact ⟨ih fun other hother => h other (hother.trans hsuffix), h above hsuffix,
      _, h _ List.suffix_rfl, fun _ => Node.noConfusion⟩

theorem Solid.isFileName (ht : t.Lawful) (h : t.Solid place) : ∀ name ∈ place, IsFileName name := by
  induction place with
  | nil => simp
  | cons first above ih =>
    obtain ⟨n, hn, -⟩ := h.exists_node
    intro name hname
    rcases List.mem_cons.1 hname with rfl | hname
    · exact ht _ _ n hn
    · exact ih h.of_cons name hname

/-! ## Paths of solid places -/

theorem Solid.proper_toPath (ht : t.Lawful) (h : t.Solid place) : place.toPath.Proper := by
  intro name hname
  have hlegal := h.isFileName ht name (List.mem_reverse.1 hname)
  exact ⟨hlegal.isName, hlegal.slash_notMem⟩

theorem Solid.parse_render_toPath (ht : t.Lawful) (h : t.Solid place) :
    Path.parse place.toPath.render = place.toPath :=
  Path.parse_render (h.proper_toPath ht)

theorem Solid.partsOf_render_toPath (ht : t.Lawful) (h : t.Solid place) :
    Path.partsOf place.toPath.render = place.reverse :=
  congrArg Path.parts (h.parse_render_toPath ht)

theorem isAbsolute_toPath (place : Place) : place.toPath.isAbsolute = true := rfl

theorem render_toPath (place : Place) :
    place.toPath.render = '/' :: Text.join ['/'] place.reverse :=
  Path.render_of_isAbsolute (isAbsolute_toPath place)

/-- One name more makes a written path longer. -/
theorem size_render_toPath_le (name : Text) (above : Place) :
    Utf8.size above.toPath.render ≤ Utf8.size (Place.toPath (name :: above)).render := by
  obtain ⟨rest, hrest⟩ : ∃ rest, (Place.toPath (name :: above)).render =
      above.toPath.render ++ rest := by
    rw [render_toPath, render_toPath, List.reverse_cons]
    by_cases habove : above = []
    · exact ⟨name, by simp [habove, Text.join]⟩
    · rw [Text.join_concat _ _ (by simpa using habove)]
      exact ⟨['/'] ++ name, rfl⟩
  rw [hrest]
  simp [Utf8.size, Utf8.encode]

end Tree

end Pinpoint
