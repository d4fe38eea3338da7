import Pinpoint.Proofs.FileSystem.Tree.Changes

/-!
# Trees without the contents of their files

Neither the walk of the operating system nor canonical paths depend on what files hold, so two trees
that only differ in that are the same file system.

* `Tree.outline`: a tree whose files are empty.
* `Tree.outline_put_file`: what a file holds is not part of it.
* `Tree.node?_outline`, `Tree.walk_outline`, `Tree.stat_outline`: how paths lead through it.
* `Tree.canonicalWalk_outline`: canonical paths in it.
* `Tree.toFileSystem_eq_of_outline`: trees with the same outline.
-/

namespace Pinpoint

/-! ## Specification -/

/-- What stands at a place, but for what a file holds. -/
def Node.emptied : Node → Node
  | .file _ => .file []
  | .directory => .directory
  | .link target => .link target
  | .pipe => .pipe

namespace Tree

variable {t t₁ t₂ : Tree} {cwd place : Place} {n : Node}

/-- A tree whose files are empty. -/
def outline (t : Tree) : Tree := ⟨t.nodes.map fun entry => (entry.1, entry.2.emptied)⟩

/-! ## Single nodes -/

/-- What a file holds is not part of the outline. -/
theorem outline_put_file (t : Tree) (place : Place) (content content' : List UInt8) :
    (t.put place (.file content)).outline = (t.put place (.file content')).outline := rfl

theorem node?_outline (t : Tree) (place : Place) :
    t.outline.node? place = (t.node? place).map Node.emptied := by
  have hlookup : ∀ nodes : List (Place × Node),
      (nodes.map fun entry => (entry.1, entry.2.emptied)).lookup place =
        (nodes.lookup place).map Node.emptied := by
    intro nodes
    induction nodes with
    | nil => rfl
    | cons entry nodes ih =>
      obtain ⟨key, n⟩ := entry
      rw [List.map_cons, List.lookup_cons, List.lookup_cons]
      cases place == key with
      | true => rfl
      | false => exact ih
  rw [node?, node?]
  split_ifs
  · rfl
  · exact hlookup t.nodes

theorem node?_outline_of_none (h : t.node? place = none) : t.outline.node? place = none := by
  rw [node?_outline, h]
  rfl

theorem node?_outline_of_some (h : t.node? place = some n) :
    t.outline.node? place = some n.emptied := by
  rw [node?_outline, h]
  rfl

theorem node?_outline_directory_iff :
    t.outline.node? place = some .directory ↔ t.node? place = some .directory := by
  rw [node?_outline]
  cases t.node? place with
  | none => simp
  | some n => cases n <;> simp [Node.emptied]

theorem linkCount_outline (t : Tree) : t.outline.linkCount = t.linkCount := by
  rw [linkCount, linkCount, outline, List.countP_map]
  congr 1
  funext entry
  obtain ⟨key, n⟩ := entry
  cases n <;> rfl

/-! ## The walk of the operating system -/

theorem walk_outline (t : Tree) (links : Nat) (place : Place) (names : List Text) :
    t.outline.walk links place names = t.walk links place names := by
  fun_induction t.walk links place names
  case case1 links place => rw [walk]
  case case2 links place name rest hdir =>
    rw [walk.eq_def]
    simp only [ne_eq, node?_outline_directory_iff, if_pos hdir]
  case case3 links place rest hdir ih =>
    rw [walk_dot (node?_outline_directory_iff.2 (not_not.1 hdir)), ih]
  case case4 links place rest hdir hdot ih =>
    rw [walk_up (node?_outline_directory_iff.2 (not_not.1 hdir)), ih]
  case case5 links place name rest hdir hdot hup hsize =>
    rw [walk.eq_def]
    simp only [ne_eq, node?_outline_directory_iff, if_neg hdir, if_neg hdot, if_neg hup,
      if_pos hsize]
  case case6 links place name rest hdir hdot hup hsize hnode =>
    have hdir' := node?_outline_directory_iff.2 (not_not.1 hdir)
    have hnode' := node?_outline_of_none hnode
    rw [walk.eq_def]
    simp only [hdir', hdot, hup, hsize, hnode', ne_eq, not_true_eq_false, if_false]
  case case7 place name rest hdir hdot hup hsize target hnode =>
    have hdir' := node?_outline_directory_iff.2 (not_not.1 hdir)
    have hnode' : t.outline.node? (name :: place) = some (.link target) :=
      node?_outline_of_some hnode
    rw [walk.eq_def]
    simp only [hdir', hdot, hup, hsize, hnode', ne_eq, not_true_eq_false, if_false]
  case case8 place name rest hdir hdot hup hsize target links hnode ih =>
    have hdir' := node?_outline_directory_iff.2 (not_not.1 hdir)
    have hnode' : t.outline.node? (name :: place) = some (.link target) :=
      node?_outline_of_some hnode
    rw [walk.eq_def]
    simp only [hdir', hdot, hup, hsize, hnode', ne_eq, not_true_eq_false, if_false]
    exact ih
  case case9 place name rest hdir hdot hup hsize n links hzero hsucc hnode ih =>
    have hdir' := node?_outline_directory_iff.2 (not_not.1 hdir)
    have hnode' := node?_outline_of_some hnode
    rw [walk.eq_def]
    simp only [hdir', hdot, hup, hsize, hnode', ne_eq, not_true_eq_false, if_false]
    cases n with
    | link target =>
      cases links with
      | zero => exact absurd rfl (hzero target rfl)
      | succ links => exact absurd rfl (hsucc target links rfl)
    | _ => exact ih

theorem find_outline (t : Tree) (cwd : Place) (p : Path) : t.outline.find cwd p = t.find cwd p := by
  simp only [find, walk_outline]

theorem stat_outline (t : Tree) (cwd : Place) (p : Path) :
    t.outline.stat cwd p = (t.stat cwd p).map Node.emptied := by
  rw [stat, stat, find_outline]
  cases t.find cwd p with
  | error fault => rfl
  | ok place =>
    dsimp only
    rw [node?_outline]
    cases t.node? place <;> rfl

theorem kind_outline (t : Tree) (cwd : Place) (p : Path) : t.outline.kind cwd p = t.kind cwd p := by
  rw [kind, kind, stat_outline]
  cases t.stat cwd p with
  | error e => rfl
  | ok n => cases n <;> rfl

/-! ## Canonical paths -/

theorem look_outline (t : Tree) (cwd : Place) (w : Walked) :
    t.outline.look cwd w = (t.look cwd w).map Node.emptied := by
  rw [look, look]
  cases w.names with
  | nil => rfl
  | cons name names =>
    dsimp only
    simp only [ne_eq, node?_outline_directory_iff]
    split_ifs
    all_goals try rfl
    rw [node?_outline]
    cases t.node? (w.place cwd) <;> rfl

theorem loopFault_outline (t : Tree) (cwd : Place) (w : Walked) :
    t.outline.loopFault cwd w = t.loopFault cwd w := by
  rw [loopFault, loopFault, find_outline]

theorem canonicalWalk_outline (t : Tree) (cwd : Place) (depth : Nat) (w : Walked)
    (names : List Text) (memory : Memory) :
    t.outline.canonicalWalk cwd depth w names memory =
      t.canonicalWalk cwd depth w names memory := by
  have hlook {w : Walked} {n : Node} (h : t.look cwd w = .ok n) :
      t.outline.look cwd w = .ok n.emptied := by
    rw [look_outline, h]
    rfl
  fun_induction t.canonicalWalk cwd depth w names memory
  case case1 => rw [canonicalWalk]
  case case2 ih => rw [canonicalWalk_up, ih]
  case case3 hup next fault hfault =>
    have hfault' : t.outline.look cwd next = .error fault := by
      rw [look_outline, hfault]
      rfl
    rw [canonicalWalk, if_neg hup]
    simp only [next] at hfault'
    simp only [hfault']
  case case4 hup next target hlink resolved depth hknown ih =>
    rw [canonicalWalk_known hup (hlook hlink) hknown, ih]
  case case5 hup next target hlink hbusy =>
    have hlink' : t.outline.look cwd next = .ok (.link target) := hlook hlink
    rw [canonicalWalk, if_neg hup]
    simp only [next] at hlink' hbusy
    simp only [hlink', hbusy, loopFault_outline, next]
  case case6 hup next target hlink hnew =>
    have hlink' : t.outline.look cwd next = .ok (.link target) := hlook hlink
    rw [canonicalWalk, if_neg hup]
    simp only [next] at hlink' hnew
    simp only [hlink', hnew, loopFault_outline, next]
  case case7 hup next target hlink depth hnew from_ ihtarget ihrest =>
    have htarget : t.outline.canonicalWalk cwd depth (Walked.restart _ target)
        (Path.partsOf target) ((next, none) :: _) = _ := ihtarget
    rw [canonicalWalk_link hup (hlook hlink) hnew, htarget]
    cases t.canonicalWalk cwd depth from_ (Path.partsOf target) ((next, none) :: _) with
    | error fault => rfl
    | ok found => exact ihrest found.1 found.2
  case case8 hup next n hn hnode ih =>
    have hn' : ∀ target, n.emptied ≠ .link target := by
      intro target htarget
      cases n with
      | link other => exact hn other rfl
      | file content => cases htarget
      | directory => cases htarget
      | pipe => cases htarget
    rw [canonicalWalk_entry hup (hlook hnode) hn', ih]

theorem canonicalize_outline (t : Tree) (cwd : Place) (arg : Text) :
    t.outline.canonicalize cwd arg = t.canonicalize cwd arg := by
  simp only [canonicalize, canonicalWalk_outline, linkDepth, linkCount_outline]

/-! ## File systems -/

theorem toFileSystem_outline (t : Tree) (cwd : Place) :
    t.outline.toFileSystem cwd = t.toFileSystem cwd := by
  rw [toFileSystem, toFileSystem, funext (canonicalize_outline t cwd),
    funext (kind_outline t cwd)]

/-- Trees that differ only in what their files hold are the same file system. -/
theorem toFileSystem_eq_of_outline (h : t₁.outline = t₂.outline) (cwd : Place) :
    t₁.toFileSystem cwd = t₂.toFileSystem cwd := by
  rw [← toFileSystem_outline t₁, h, toFileSystem_outline]

end Tree

end Pinpoint
