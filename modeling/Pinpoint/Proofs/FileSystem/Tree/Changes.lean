import Pinpoint.FileSystem.Tree.Entries
import Pinpoint.Proofs.FileSystem.Tree.Agreement

/-!
# Trees that change

A walk looks at directories and links only, so it comes to the same place in every tree
that keeps those. Writing a file, removing one and making directories keep them; what is
written into a directory that a path leads to is found under the name that it was given.

* `Tree.find_of_keeps`: walks in a changed tree.
* `Tree.find_child`, `Tree.find_child_of_missing`: one name below a path.
* `Tree.made_of_ensureDirectories`: directories that have been made are found.
* `Tree.write_child`, `Tree.unlink_child`: files of a directory.
-/

namespace Pinpoint.Tree

variable {t t' : Tree} {cwd place above r : Place} {p : Path} {name : Text}
  {names rest : List Text} {links : Nat}

/-! ## Nodes after a change -/

theorem lookup_filter_ne (nodes : List (Place × Node)) (place place' : Place) :
    (nodes.filter (·.1 ≠ place)).lookup place' =
      if place' = place then none else nodes.lookup place' := by
  induction nodes with
  | nil => simp
  | cons entry nodes ih =>
    obtain ⟨q, n⟩ := entry
    by_cases hq : q = place
    · subst hq
      rw [List.filter_cons_of_neg (by simp), ih, List.lookup_cons]
      split_ifs with h
      · rfl
      · rw [beq_eq_false_iff_ne.2 h]
    · rw [List.filter_cons_of_pos (by simpa using hq), List.lookup_cons, List.lookup_cons, ih]
      by_cases h : place' = q
      · subst h
        simp [hq]
      · rw [beq_eq_false_iff_ne.2 h]

theorem node?_put (t : Tree) (n : Node) (h : place ≠ []) (place' : Place) :
    (t.put place n).node? place' = if place' = place then some n else t.node? place' := by
  by_cases heq : place' = place
  · subst heq
    rw [if_pos rfl, node?_put_self t n h]
  · have hlookup : ((place, n) :: t.nodes.filter (·.1 ≠ place)).lookup place' =
        t.nodes.lookup place' := by
      simp only [List.lookup_cons, beq_eq_false_iff_ne.2 heq, lookup_filter_ne, if_neg heq]
    rw [if_neg heq, node?, node?, put, hlookup]

theorem node?_erase (t : Tree) (h : place ≠ []) (place' : Place) :
    (t.erase place).node? place' = if place' = place then none else t.node? place' := by
  rw [node?, node?, erase, lookup_filter_ne]
  by_cases heq : place' = place
  · subst heq
    simp [h]
  · simp [heq]

/-! ## Trees that keep directories and links -/

/-- Every directory and every link of one tree is in the other, too. -/
def Keeps (t t' : Tree) : Prop :=
  ∀ place n, t.node? place = some n → (n = .directory ∨ ∃ target, n = .link target) →
    t'.node? place = some n

/-- There is a regular file at a place, or nothing at all. -/
def IsFileOrFree (t : Tree) (place : Place) : Prop :=
  ∀ n, t.node? place = some n → ∃ content, n = .file content

theorem IsFileOrFree.of_none (h : t.node? place = none) : t.IsFileOrFree place := by
  intro n hn
  rw [h] at hn
  cases hn

theorem IsFileOrFree.ne_nil (h : t.IsFileOrFree place) : place ≠ [] := by
  rintro rfl
  obtain ⟨content, hcontent⟩ := h _ (node?_nil t)
  cases hcontent

/-- What stands where a file may be is neither a directory nor a link. -/
theorem IsFileOrFree.ne_of_kept {place' : Place} {n : Node} (h : t.IsFileOrFree place)
    (hn : t.node? place' = some n) (hkind : n = .directory ∨ ∃ target, n = .link target) :
    place' ≠ place := by
  rintro rfl
  obtain ⟨content, rfl⟩ := h n hn
  rcases hkind with hkind | ⟨target, hkind⟩ <;> cases hkind

theorem keeps_put (n : Node) (h : t.IsFileOrFree place) : t.Keeps (t.put place n) := by
  intro place' n' hn hkind
  rw [node?_put t n h.ne_nil, if_neg (h.ne_of_kept hn hkind), hn]

theorem keeps_erase (h : t.IsFileOrFree place) : t.Keeps (t.erase place) := by
  intro place' n hn hkind
  rw [node?_erase t h.ne_nil, if_neg (h.ne_of_kept hn hkind), hn]

theorem walk_dot (hdir : t.node? place = some .directory) (links : Nat) (rest : List Text) :
    t.walk links place (['.'] :: rest) = t.walk links place rest := by
  rw [walk.eq_def]
  simp only [hdir, ne_eq, not_true_eq_false, if_false, if_true]

theorem walk_up (hdir : t.node? place = some .directory) (links : Nat) (rest : List Text) :
    t.walk links place (Path.up :: rest) = t.walk links place.tail rest := by
  rw [walk.eq_def]
  simp only [hdir, show Path.up ≠ ['.'] by decide, ne_eq, not_true_eq_false, if_false, if_true]

/-- A walk that ends in a directory sees only directories and links. -/
theorem walk_of_keeps (hkeeps : t.Keeps t') (h : t.walk links place names = .ok r)
    (hr : t.node? r = some .directory) : t'.walk links place names = .ok r := by
  fun_induction walk t links place names
  case case1 links place => rw [walk]; exact h
  case case3 links place rest hdir ih =>
    rw [walk_dot (hkeeps _ _ (not_not.1 hdir) (.inl rfl))]
    exact ih h
  case case4 links place rest hdir hdot ih =>
    rw [walk_up (hkeeps _ _ (not_not.1 hdir) (.inl rfl))]
    exact ih h
  case case8 place name rest hdir hdot hup hsize target links hnode ih =>
    have hdir' := hkeeps _ _ (not_not.1 hdir) (.inl rfl)
    have hnode' := hkeeps _ _ hnode (.inr ⟨target, rfl⟩)
    rw [walk.eq_def]
    simp only [hdir', hdot, hup, hsize, hnode', ne_eq, not_true_eq_false, if_false]
    exact ih h
  case case9 place name rest hdir hdot hup hsize n links hzero hsucc hnode ih =>
    have hdir' := hkeeps _ _ (not_not.1 hdir) (.inl rfl)
    -- Whatever is neither a directory nor a link ends a walk.
    have hn : n = .directory := by
      cases rest with
      | nil =>
        rw [walk, Except.ok.injEq] at h
        rw [h, hr] at hnode
        exact (Option.some.inj hnode).symm
      | cons next rest =>
        by_contra hn
        have hne : t.node? (name :: place) ≠ some .directory := by
          rw [hnode]
          exact fun heq => hn (Option.some.inj heq)
        rw [walk.eq_def] at h
        simp only [if_pos hne] at h
        cases h
    have hnode' := hkeeps _ _ hnode (.inl hn)
    subst hn
    rw [walk.eq_def]
    simp only [hdir', hdot, hup, hsize, hnode', ne_eq, not_true_eq_false, if_false]
    exact ih h
  all_goals cases h

theorem find_of_keeps (hkeeps : t.Keeps t') (h : t.find cwd p = .ok place)
    (hdir : t.node? place = some .directory) : t'.find cwd p = .ok place := by
  obtain ⟨hsize, hwalk⟩ := find_ok_iff.1 h
  exact find_ok_iff.2 ⟨hsize, walk_of_keeps hkeeps hwalk hdir⟩

/-! ## Longer walks -/

theorem walk_append_of_ok (h : t.walk links place names = .ok above) :
    ∃ left, ∀ rest, t.walk links place (names ++ rest) = t.walk left above rest := by
  fun_induction walk t links place names
  case case1 links place =>
    cases h
    exact ⟨links, fun _ => rfl⟩
  case case3 links place rest hdir ih =>
    obtain ⟨left, hleft⟩ := ih h
    refine ⟨left, fun more => ?_⟩
    rw [← hleft, List.cons_append, walk_dot (not_not.1 hdir)]
  case case4 links place rest hdir hdot ih =>
    obtain ⟨left, hleft⟩ := ih h
    refine ⟨left, fun more => ?_⟩
    rw [← hleft, List.cons_append, walk_up (not_not.1 hdir)]
  case case8 place name rest hdir hdot hup hsize target links hnode ih =>
    simp only [dite_eq_ite] at ih
    obtain ⟨left, hleft⟩ := ih h
    refine ⟨left, fun more => ?_⟩
    rw [← hleft, List.cons_append, List.append_assoc, walk.eq_def]
    simp only [hdir, hdot, hup, hsize, hnode, if_false]
  case case9 place name rest hdir hdot hup hsize n links hzero hsucc hnode ih =>
    obtain ⟨left, hleft⟩ := ih h
    refine ⟨left, fun more => ?_⟩
    rw [← hleft, List.cons_append, walk.eq_def]
    simp only [hdir, hdot, hup, hsize, hnode, if_false]
  all_goals cases h

/-- Where a name is missing, no longer path leads anywhere. -/
theorem walk_append_of_missing {free : Option Place}
    (h : t.walk links place names = .error (.noEntry free)) (hrest : rest ≠ []) :
    t.walk links place (names ++ rest) = .error (.noEntry none) := by
  fun_induction walk t links place names
  case case3 links place names hdir ih =>
    rw [List.cons_append, walk_dot (not_not.1 hdir), ih h]
  case case4 links place names hdir hdot ih =>
    rw [List.cons_append, walk_up (not_not.1 hdir), ih h]
  case case6 links place name names hdir hdot hup hsize hnode =>
    rw [List.cons_append, walk.eq_def]
    simp only [hdir, hdot, hup, hsize, hnode, if_false, List.append_eq_nil_iff, hrest, and_false]
  case case8 place name names hdir hdot hup hsize target links hnode ih =>
    simp only [dite_eq_ite] at ih
    rw [List.cons_append, walk.eq_def]
    simp only [hdir, hdot, hup, hsize, hnode, if_false]
    rw [← List.append_assoc, ih h]
  case case9 place name names hdir hdot hup hsize n links hzero hsucc hnode ih =>
    rw [List.cons_append, walk.eq_def]
    simp only [hdir, hdot, hup, hsize, hnode, if_false]
    exact ih h
  all_goals cases h

theorem walk_missing (hdir : t.node? place = some .directory) (hname : IsFileName name)
    (hnode : t.node? (name :: place) = none) :
    t.walk links place [name] = .error (.noEntry (some (name :: place))) := by
  rw [walk.eq_def]
  simp only [hdir, hname.ne_dot, hname.ne_up, Nat.not_lt.2 hname.size_le, hnode, ne_eq,
    not_true_eq_false, if_false, if_true]

/-! ## One name below a path -/

theorem find_eq (hsize : Utf8.size p.render ≤ maxPathBytes) :
    t.find cwd p = t.walk maxLinks (start cwd p) p.parts := by
  rw [find, ensureLength, if_neg (Nat.not_lt.2 hsize)]
  rfl

theorem findLast_child (hsize : Utf8.size (p.child name).render ≤ maxPathBytes) :
    t.findLast cwd (p.child name) =
      t.walk maxLinks (start cwd p) p.parts >>= fun above => t.lookIn above name := by
  rw [findLast, ensureLength, if_neg (Nat.not_lt.2 hsize)]
  simp only [Path.child, List.getLast?_concat, List.dropLast_concat]
  rfl

theorem find_child (h : t.find cwd p = .ok above) (hdir : t.node? above = some .directory)
    (hsize : Utf8.size (p.child name).render ≤ maxPathBytes) (hname : IsFileName name)
    (hfile : t.IsFileOrFree (name :: above)) :
    t.find cwd (p.child name) =
      if (t.node? (name :: above)).isSome then .ok (name :: above)
      else .error (.noEntry (some (name :: above))) := by
  obtain ⟨left, hleft⟩ := walk_append_of_ok (find_ok_iff.1 h).2
  rw [find_eq hsize, show (p.child name).parts = p.parts ++ [name] from rfl]
  refine (hleft [name]).trans ?_
  cases hnode : t.node? (name :: above) with
  | none => exact walk_missing hdir hname hnode
  | some n =>
    obtain ⟨content, rfl⟩ := hfile n hnode
    rw [walk_entry hdir hname hnode (by simp), walk]
    rfl

theorem size_le_of_find {found : Except WalkFault Place} (h : t.find cwd p = found)
    (hfound : found ≠ .error .nameTooLong) : Utf8.size p.render ≤ maxPathBytes := by
  by_contra hsize
  rw [find, ensureLength, if_pos (Nat.lt_of_not_le hsize)] at h
  exact hfound h.symm

theorem size_le_of_findLast {found : Except WalkFault (Place × Option Node)}
    (h : t.findLast cwd p = found) (hfound : found ≠ .error .nameTooLong) :
    Utf8.size p.render ≤ maxPathBytes := by
  by_contra hsize
  rw [findLast, ensureLength, if_pos (Nat.lt_of_not_le hsize)] at h
  exact hfound h.symm

/-- A name below a path that leads nowhere leads nowhere, too. -/
theorem find_child_of_missing {free : Option Place} (h : t.find cwd p = .error (.noEntry free))
    (hsize : Utf8.size (p.child name).render ≤ maxPathBytes) :
    t.find cwd (p.child name) = .error (.noEntry none) := by
  rw [find_eq (size_le_of_find h (by simp))] at h
  rw [find_eq hsize]
  exact walk_append_of_missing h (List.cons_ne_nil name [])

/-! ## Making directories -/

/-- The names of a path are names that entries can have, or lead up. -/
def Walkable (p : Path) : Prop := p.Proper ∧ ∀ part ∈ p.parts, Text.nul ∉ part

instance (p : Path) : Decidable (Walkable p) :=
  inferInstanceAs (Decidable ((∀ part ∈ p.parts, Path.isName part = true ∧ '/' ∉ part) ∧ _))

/-- The last name of a path is missing in a directory. -/
structure LastMissing (t : Tree) (cwd : Place) (p : Path) (above : Place) (name : Text) :
    Prop where
  size_le : Utf8.size p.render ≤ maxPathBytes
  eq_child : p = (parent p).child name
  find_parent : t.walk maxLinks (start cwd (parent p)) (parent p).parts = .ok above
  directory : t.node? above = some .directory
  isFileName : IsFileName name
  missing : t.node? (name :: above) = none

theorem eq_child_of_getLast? (h : p.parts.getLast? = some name) : p = (parent p).child name := by
  obtain ⟨root, parts⟩ := p
  simp only [parent, Path.child, Path.mk.injEq, true_and]
  exact (List.dropLast_append_getLast? name h).symm

theorem lookIn_ok_none_iff :
    t.lookIn above name = .ok (place, none) ↔
      t.node? above = some .directory ∧ name ≠ Path.up ∧ Utf8.size name ≤ maxNameBytes ∧
        place = name :: above ∧ t.node? (name :: above) = none := by
  unfold lookIn
  split_ifs with hdir hup hsize
  · simp [hdir]
  · simp [hup]
  · simp [Nat.not_le.2 hsize]
  · simp_all [eq_comm]

theorem exists_lastMissing (hp : Walkable p) (h : t.findLast cwd p = .ok (place, none)) :
    ∃ above name, place = name :: above ∧ t.LastMissing cwd p above name := by
  have hsize : Utf8.size p.render ≤ maxPathBytes := size_le_of_findLast h (by simp)
  cases hlast : p.parts.getLast? with
  | none =>
    rw [findLast, ensureLength, if_neg (Nat.not_lt.2 hsize), hlast] at h
    cases h
  | some name =>
    have hchild := eq_child_of_getLast? hlast
    rw [hchild, findLast_child (hchild ▸ hsize)] at h
    cases hwalk : t.walk maxLinks (start cwd (parent p)) (parent p).parts with
    | error fault => rw [hwalk] at h; cases h
    | ok above =>
      rw [hwalk] at h
      obtain ⟨hdir, hup, hname, rfl, hnode⟩ := lookIn_ok_none_iff.1 h
      have hmem : name ∈ p.parts := List.mem_of_getLast? hlast
      exact ⟨above, name, rfl, hsize, hchild, hwalk, hdir,
        ⟨(hp.1 name hmem).1, hup, (hp.1 name hmem).2, hp.2 name hmem, hname⟩, hnode⟩

theorem LastMissing.find_eq (h : t.LastMissing cwd p above name) :
    t.find cwd p = .error (.noEntry (some (name :: above))) := by
  obtain ⟨left, hleft⟩ := walk_append_of_ok h.find_parent
  rw [Tree.find_eq h.size_le, h.eq_child]
  exact (hleft [name]).trans (walk_missing h.directory h.isFileName h.missing)

/-- A directory that has been made where the last name of a path was missing is found. -/
theorem LastMissing.find_put (h : t.LastMissing cwd p above name) :
    (t.put (name :: above) .directory).find cwd p = .ok (name :: above) := by
  have hkeeps : t.Keeps (t.put (name :: above) .directory) := keeps_put _ (.of_none h.missing)
  obtain ⟨left, hleft⟩ := walk_append_of_ok (walk_of_keeps hkeeps h.find_parent h.directory)
  rw [Tree.find_eq h.size_le, h.eq_child]
  refine (hleft [name]).trans ?_
  rw [walk_entry (hkeeps _ _ h.directory (.inl rfl)) h.isFileName
    (node?_put_self t _ (List.cons_ne_nil name above)) (by simp), walk]

theorem find_of_findLast_missing {free : Option Place}
    (h : t.findLast cwd p = .error (.noEntry free)) : t.find cwd p = .error (.noEntry none) := by
  have hsize : Utf8.size p.render ≤ maxPathBytes := size_le_of_findLast h (by simp)
  cases hlast : p.parts.getLast? with
  | none =>
    rw [findLast, ensureLength, if_neg (Nat.not_lt.2 hsize), hlast] at h
    cases h
  | some name =>
    have hchild := eq_child_of_getLast? hlast
    rw [hchild, findLast_child (hchild ▸ hsize)] at h
    rw [hchild, Tree.find_eq (hchild ▸ hsize)]
    cases hwalk : t.walk maxLinks (start cwd (parent p)) (parent p).parts with
    | error fault =>
      rw [hwalk] at h
      cases h
      exact walk_append_of_missing hwalk (List.cons_ne_nil name [])
    | ok above =>
      rw [hwalk] at h
      change t.lookIn above name = _ at h
      unfold lookIn at h
      split_ifs at h <;> cases h

/-- A path leads to a directory of a tree, which is either as before or has been made where the path
led nowhere. -/
structure Made (t t' : Tree) (cwd : Place) (p : Path) (place : Place) : Prop where
  find : t'.find cwd p = .ok place
  directory : t'.node? place = some .directory
  unmade : t' = t ∨ ∃ free, t.find cwd p = .error (.noEntry free)

theorem existing_ok_iff {e : OsError} :
    t.existing cwd p e = .ok place ↔
      t.find cwd p = .ok place ∧ t.node? place = some .directory := by
  unfold existing
  split
  · next found hfound =>
    split_ifs with hdir
    · grind
    · grind
  · simp_all

theorem made_of_ensureDirectory (hp : Walkable p)
    (h : t.ensureDirectory cwd p (t.findLast cwd p) = (t', .ok place)) :
    t.Made t' cwd p place := by
  cases hfound : t.findLast cwd p with
  | error fault =>
    rw [hfound, ensureDirectory, Prod.mk.injEq, existing_ok_iff] at h
    obtain ⟨rfl, hfind, hdir⟩ := h
    exact ⟨hfind, hdir, .inl rfl⟩
  | ok found =>
    obtain ⟨place', n⟩ := found
    cases n with
    | some n =>
      rw [hfound, ensureDirectory, Prod.mk.injEq, existing_ok_iff] at h
      obtain ⟨rfl, hfind, hdir⟩ := h
      exact ⟨hfind, hdir, .inl rfl⟩
    | none =>
      rw [hfound, ensureDirectory] at h
      cases h
      obtain ⟨above, name, rfl, hmissing⟩ := exists_lastMissing hp hfound
      exact ⟨hmissing.find_put, node?_put_self t _ (List.cons_ne_nil name above),
        .inr ⟨_, hmissing.find_eq⟩⟩

theorem walkable_parent (hp : Walkable p) : Walkable (parent p) :=
  ⟨fun part hpart => hp.1 part (List.mem_of_mem_dropLast hpart),
    fun part hpart => hp.2 part (List.mem_of_mem_dropLast hpart)⟩

/-- Below a directory that a path leads to, a name is looked up as the last name of a path. -/
theorem findLast_of_find (h : t.find cwd p = .ok above)
    (hsize : Utf8.size (p.child name).render ≤ maxPathBytes) :
    t.findLast cwd (p.child name) = t.lookIn above name := by
  rw [findLast_child hsize, (find_ok_iff.1 h).2]
  rfl

theorem made_of_ensureDirectoriesFrom {levels : Nat} (hp : Walkable p)
    (h : t.ensureDirectoriesFrom cwd levels p = (t', .ok place)) : t.Made t' cwd p place := by
  induction levels generalizing p t' place with
  | zero => exact made_of_ensureDirectory hp h
  | succ levels ih =>
    rw [ensureDirectoriesFrom] at h
    split at h
    · next free name hfound hlast =>
      split at h
      · next t₁ above hparent =>
        obtain ⟨hfind, -, -⟩ := ih (walkable_parent hp) hparent
        have hchild := eq_child_of_getLast? hlast
        have hsize : Utf8.size p.render ≤ maxPathBytes := size_le_of_findLast hfound (by simp)
        rw [← findLast_of_find hfind (hchild ▸ hsize), ← hchild] at h
        obtain ⟨hfind', hdir, -⟩ := made_of_ensureDirectory hp h
        exact ⟨hfind', hdir, .inr ⟨_, find_of_findLast_missing hfound⟩⟩
      · next failed hfailed =>
        exact absurd h (hfailed _ _)
    · exact made_of_ensureDirectory hp h

/-- Directories that have been made are found. -/
theorem made_of_ensureDirectories (hp : Walkable p)
    (h : t.ensureDirectories cwd p = (t', .ok place)) : t.Made t' cwd p place :=
  made_of_ensureDirectoriesFrom hp h

theorem ensureDirectory_of_find {found : Except WalkFault (Place × Option Node)}
    (h : t.find cwd p = .ok place) (hdir : t.node? place = some .directory)
    (hfound : ∀ place', found ≠ .ok (place', none)) :
    t.ensureDirectory cwd p found = (t, .ok place) := by
  cases found with
  | error fault => rw [ensureDirectory, existing_ok_iff.2 ⟨h, hdir⟩]
  | ok a =>
    obtain ⟨place', n⟩ := a
    cases n with
    | none => exact absurd rfl (hfound place')
    | some n => rw [ensureDirectory, existing_ok_iff.2 ⟨h, hdir⟩]

/-- Nothing is made where a directory is. -/
theorem ensureDirectories_of_find (hp : Walkable p) (h : t.find cwd p = .ok place)
    (hdir : t.node? place = some .directory) : t.ensureDirectories cwd p = (t, .ok place) := by
  have hfound : ∀ place', t.findLast cwd p ≠ .ok (place', none) := by
    intro place' hmissing
    obtain ⟨above, name, -, hlast⟩ := exists_lastMissing hp hmissing
    rw [hlast.find_eq] at h
    cases h
  rw [ensureDirectories]
  cases p.parts.length with
  | zero => exact ensureDirectory_of_find h hdir hfound
  | succ levels =>
    rw [ensureDirectoriesFrom]
    split
    · next hmissing _ =>
      rw [find_of_findLast_missing hmissing] at h
      cases h
    · exact ensureDirectory_of_find h hdir hfound

/-! ## Files of a directory -/

theorem write_child (h : t.find cwd p = .ok above) (hdir : t.node? above = some .directory)
    (hsize : Utf8.size (p.child name).render ≤ maxPathBytes) (hname : IsFileName name)
    (hfile : t.IsFileOrFree (name :: above)) (content : List UInt8) :
    t.write cwd (p.child name) content = .ok (t.put (name :: above) (.file content)) := by
  rw [write, find_child h hdir hsize hname hfile]
  cases hnode : t.node? (name :: above) with
  | none => rfl
  | some n =>
    obtain ⟨old, rfl⟩ := hfile n hnode
    simp [hnode]

theorem unlink_child {content : List UInt8} (h : t.find cwd p = .ok above)
    (hdir : t.node? above = some .directory)
    (hsize : Utf8.size (p.child name).render ≤ maxPathBytes) (hname : IsFileName name)
    (hfile : t.node? (name :: above) = some (.file content)) :
    t.unlink cwd (p.child name) = .ok (t.erase (name :: above)) := by
  have hlook : t.lookIn above name = .ok (name :: above, some (.file content)) := by
    rw [lookIn, if_neg (not_not.2 hdir), if_neg hname.ne_up, if_neg (Nat.not_lt.2 hname.size_le),
      hfile]
  rw [unlink, findLast_of_find h hsize, hlook]
  rfl

end Pinpoint.Tree
