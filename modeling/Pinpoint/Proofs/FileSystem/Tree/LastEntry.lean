import Pinpoint.Proofs.FileSystem.Tree.Changes
import Pinpoint.Proofs.Text.Utf8

/-!
# The entry at the end of a path

What stands at the last name of a path is told without following it, so that it can be compared
before and after a change. There is something exactly where the path above the name leads to a
directory that has it.

* `Tree.lastNode?`: what stands at a path.
* `Tree.lastNode?_child_eq_some_iff`: something below a directory.
* `Tree.lastNode?_child_of_unmade`: where directories cannot be made, nothing stands below them.
* `Tree.bare_of_ensureDirectories`: where they have been made, nothing does, either, unless their
  path leads up.
-/

namespace Pinpoint.Tree

variable {t t' : Tree} {cwd place above r : Place} {p : Path} {name : Text}
  {names rest : List Text} {links : Nat} {n : Node} {free : Option Place}

/-! ## Specification -/

/-- What stands at the last name of a path, which is not followed. Nothing stands where the names
    in front of it lead nowhere. -/
def lastNode? (t : Tree) (cwd : Place) (p : Path) : Option Node :=
  match t.findLast cwd p with
  | .ok (_, n) => n
  | .error _ => none

/-- A path leads to a directory. -/
def LeadsToDirectory (t : Tree) (cwd : Place) (p : Path) (place : Place) : Prop :=
  t.find cwd p = .ok place ∧ t.node? place = some .directory

/-- Everything stands in a directory. -/
def Closed (t : Tree) : Prop :=
  ∀ name above, t.node? (name :: above) ≠ none → t.node? above = some .directory

/-- Nothing stands below a place. -/
def Bare (t : Tree) (place : Place) : Prop := ∀ names, names ≠ [] → t.node? (names ++ place) = none

/-! ## Shorter walks -/

/-- A walk that fails also fails if it is to go further. -/
theorem walk_append_of_error {fault : WalkFault} (h : t.walk links place names = .error fault)
    (rest : List Text) : ∃ fault', t.walk links place (names ++ rest) = .error fault' := by
  fun_induction walk t links place names
  case case1 links place => cases h
  case case2 links place name names hdir =>
    refine ⟨.notDirectory, ?_⟩
    rw [List.cons_append, walk.eq_def]
    exact if_pos hdir
  case case3 links place names hdir ih =>
    rw [List.cons_append, walk_dot (not_not.1 hdir)]
    exact ih h
  case case4 links place names hdir hdot ih =>
    rw [List.cons_append, walk_up (not_not.1 hdir)]
    exact ih h
  case case5 links place name names hdir hdot hup hsize =>
    refine ⟨.nameTooLong, ?_⟩
    rw [List.cons_append, walk.eq_def]
    simp only [hdir, hdot, hup, hsize, if_false, if_true]
  case case6 links place name names hdir hdot hup hsize hnode =>
    refine ⟨.noEntry (if names ++ rest = [] then some (name :: place) else none), ?_⟩
    rw [List.cons_append, walk.eq_def]
    simp only [hdir, hdot, hup, hsize, hnode, if_false]
  case case7 place name names hdir hdot hup hsize target hnode =>
    refine ⟨.tooManyLinks, ?_⟩
    rw [List.cons_append, walk.eq_def]
    simp only [hdir, hdot, hup, hsize, hnode, if_false]
  case case8 place name names hdir hdot hup hsize target links hnode ih =>
    simp only [dite_eq_ite] at ih
    obtain ⟨fault', hfault'⟩ := ih h
    refine ⟨fault', ?_⟩
    rw [List.cons_append, walk.eq_def]
    simp only [hdir, hdot, hup, hsize, hnode, if_false]
    rw [← List.append_assoc, hfault']
  case case9 place name names hdir hdot hup hsize n links hzero hsucc hnode ih =>
    rw [List.cons_append, walk.eq_def]
    simp only [hdir, hdot, hup, hsize, hnode, if_false]
    exact ih h

/-- A walk that goes further has come to a directory on its way. -/
theorem exists_walk_of_append (h : t.walk links place (names ++ [name]) = .ok r) :
    ∃ above, t.walk links place names = .ok above ∧ t.node? above = some .directory := by
  cases hwalk : t.walk links place names with
  | error fault =>
    obtain ⟨fault', hfault'⟩ := walk_append_of_error hwalk [name]
    rw [hfault'] at h
    cases h
  | ok above =>
    refine ⟨above, rfl, ?_⟩
    by_contra hdir
    obtain ⟨left, hleft⟩ := walk_append_of_ok hwalk
    rw [hleft, walk.eq_def] at h
    simp only [ne_eq, hdir, not_false_eq_true, if_true] at h
    cases h

theorem ne_nil_of_getLast? (hp : Walkable p) (h : p.parts.getLast? = some name) : name ≠ [] := by
  rintro rfl
  exact absurd (hp.1 _ (List.mem_of_getLast? h)).1 (by decide)

theorem size_pos (h : name ≠ []) : 1 ≤ Utf8.size name := by
  have hencode : Utf8.encode name ≠ [] := by
    intro hnil
    have hdecode := Utf8.decode_encode name
    rw [hnil] at hdecode
    exact h (Except.ok.inj hdecode).symm
  exact List.length_pos_iff.2 hencode

/-- A path is no longer than the paths below it. -/
theorem size_render_le_child (p : Path) (hname : name ≠ []) :
    Utf8.size p.render ≤ Utf8.size (p.child name).render := by
  have hchild : p.child name ≠ Path.here := fun h =>
    absurd (congrArg Path.parts h) (List.append_ne_nil_of_right_ne_nil _ (List.cons_ne_nil _ _))
  rw [Path.render, Path.render, if_neg hchild]
  split_ifs with hp
  · have hrender : (p.child name).root.render ++ Text.join ['/'] (p.child name).parts = name := by
      rw [hp]
      simp [Path.child, Path.here, Root.render, Text.join]
    rw [hrender]
    exact size_pos hname
  · obtain ⟨rest, hrest⟩ : ∃ rest, Text.join ['/'] (p.parts ++ [name]) =
        Text.join ['/'] p.parts ++ rest := by
      by_cases hparts : p.parts = []
      · exact ⟨name, by simp [hparts, Text.join]⟩
      · exact ⟨_, Text.join_concat _ _ hparts⟩
    rw [show (p.child name).parts = p.parts ++ [name] from rfl, hrest, ← List.append_assoc]
    simp [Utf8.size, Utf8.encode, Path.child]

/-- A path that leads anywhere has a directory above its last name. -/
theorem exists_leadsToDirectory (h : t.find cwd (p.child name) = .ok r) (hname : name ≠ []) :
    ∃ above, t.LeadsToDirectory cwd p above := by
  obtain ⟨hsize, hwalk⟩ := find_ok_iff.1 h
  obtain ⟨above, hparent, hdir⟩ := exists_walk_of_append hwalk
  exact ⟨above, find_ok_iff.2 ⟨(size_render_le_child p hname).trans hsize, hparent⟩, hdir⟩

/-! ## Entries below a directory -/

theorem findLast_of_lastNode? (h : t.lastNode? cwd p = some n) :
    ∃ place, t.findLast cwd p = .ok (place, some n) := by
  unfold lastNode? at h
  split at h
  · next place n' hfound => exact ⟨place, h ▸ hfound⟩
  · cases h

theorem lookIn_of_directory (hdir : t.node? above = some .directory) (hname : IsFileName name) :
    t.lookIn above name = .ok (name :: above, t.node? (name :: above)) := by
  rw [lookIn, if_neg (not_not.2 hdir), if_neg hname.ne_up, if_neg (Nat.not_lt.2 hname.size_le)]

theorem lastNode?_child (h : t.LeadsToDirectory cwd p above)
    (hsize : Utf8.size (p.child name).render ≤ maxPathBytes) (hname : IsFileName name) :
    t.lastNode? cwd (p.child name) = t.node? (name :: above) := by
  rw [lastNode?, findLast_of_find h.1 hsize, lookIn_of_directory h.2 hname]

/-- Something stands below a path exactly where the path leads to a directory that has it. -/
theorem lastNode?_child_eq_some_iff (hname : IsFileName name) :
    t.lastNode? cwd (p.child name) = some n ↔
      Utf8.size (p.child name).render ≤ maxPathBytes ∧
        ∃ above, t.LeadsToDirectory cwd p above ∧ t.node? (name :: above) = some n := by
  constructor
  · intro h
    obtain ⟨place, hfound⟩ := findLast_of_lastNode? h
    have hsize : Utf8.size (p.child name).render ≤ maxPathBytes :=
      size_le_of_findLast hfound (by simp)
    have hne : name ≠ [] := by
      rintro rfl
      exact absurd hname.isName (by decide)
    refine ⟨hsize, ?_⟩
    rw [findLast_child hsize] at hfound
    cases hwalk : t.walk maxLinks (start cwd p) p.parts with
    | error fault =>
      rw [hwalk] at hfound
      cases hfound
    | ok above =>
      rw [hwalk] at hfound
      change t.lookIn above name = _ at hfound
      have hdir : t.node? above = some .directory := by
        by_contra hdir
        rw [lookIn, if_pos hdir] at hfound
        cases hfound
      rw [lookIn_of_directory hdir hname] at hfound
      obtain ⟨-, hnode⟩ := Prod.mk.inj (Except.ok.inj hfound)
      exact ⟨above, ⟨find_ok_iff.2 ⟨(size_render_le_child p hne).trans hsize, hwalk⟩, hdir⟩, hnode⟩
  · rintro ⟨hsize, above, habove, hnode⟩
    rw [lastNode?_child habove hsize hname, hnode]

/-- A path to an entry that is no link leads to it. -/
theorem find_child_of_node (h : t.LeadsToDirectory cwd p above)
    (hsize : Utf8.size (p.child name).render ≤ maxPathBytes) (hname : IsFileName name)
    (hnode : t.node? (name :: above) = some n) (hn : ∀ target, n ≠ .link target) :
    t.find cwd (p.child name) = .ok (name :: above) := by
  obtain ⟨left, hleft⟩ := walk_append_of_ok (find_ok_iff.1 h.1).2
  rw [find_eq hsize, show (p.child name).parts = p.parts ++ [name] from rfl]
  refine (hleft [name]).trans ?_
  rw [walk_entry h.2 hname hnode hn, walk]

/-- A directory is not removed as a file is. -/
theorem unlink_of_directory (h : t.lastNode? cwd p = some .directory) :
    t.unlink cwd p = .error (.isDirectory p.render) := by
  obtain ⟨place, hfound⟩ := findLast_of_lastNode? h
  rw [unlink, hfound]
  rfl

/-! ## Directories that cannot be made -/

theorem not_directory_of_ensureDirectory {e : OsError}
    {found : Except WalkFault (Place × Option Node)}
    (h : t.ensureDirectory cwd p found = (t', .error e)) :
    ¬ ∃ place, t'.LeadsToDirectory cwd p place := by
  have hexisting : ∀ e', t.existing cwd p e' = .error e →
      ¬ ∃ place, t.LeadsToDirectory cwd p place := by
    rintro e' he' ⟨place, hplace⟩
    rw [existing_ok_iff.2 hplace] at he'
    cases he'
  cases found with
  | error fault =>
    obtain ⟨rfl, hfault⟩ := Prod.mk.inj h
    exact hexisting _ hfault
  | ok a =>
    obtain ⟨place', n⟩ := a
    cases n with
    | none => cases (Prod.mk.inj h).2
    | some n =>
      obtain ⟨rfl, hfault⟩ := Prod.mk.inj h
      exact hexisting _ hfault

/-- Where a directory cannot be made, its path leads to none afterwards. -/
theorem not_directory_of_ensureDirectoriesFrom {levels : Nat} {e : OsError} (hp : Walkable p)
    (h : t.ensureDirectoriesFrom cwd levels p = (t', .error e)) :
    ¬ ∃ place, t'.LeadsToDirectory cwd p place := by
  induction levels generalizing p t' with
  | zero => exact not_directory_of_ensureDirectory h
  | succ levels ih =>
    rw [ensureDirectoriesFrom] at h
    split at h
    · next free name hfound hlast =>
      split at h
      · exact not_directory_of_ensureDirectory h
      · have hparent := ih (walkable_parent hp) h
        rintro ⟨place, hplace⟩
        refine hparent ?_
        have hfind := hplace.1
        rw [eq_child_of_getLast? hlast] at hfind
        exact exists_leadsToDirectory hfind (ne_nil_of_getLast? hp hlast)
    · exact not_directory_of_ensureDirectory h

/-- Where a directory cannot be made, nothing stands below it. -/
theorem lastNode?_child_of_unmade {e : OsError} (hp : Walkable p) (hname : IsFileName name)
    (h : t.ensureDirectories cwd p = (t', .error e)) : t'.lastNode? cwd (p.child name) = none := by
  rw [Option.eq_none_iff_forall_ne_some]
  intro n hn
  obtain ⟨-, above, habove, -⟩ := (lastNode?_child_eq_some_iff hname).1 hn
  exact not_directory_of_ensureDirectoriesFrom hp h ⟨above, habove⟩

/-! ## Directories that have been made -/

/-- It is enough to look at the places that are listed. -/
theorem closed_of_nodes
    (h : ∀ entry ∈ t.nodes, entry.1 = [] ∨ t.node? entry.1.tail = some .directory) : t.Closed := by
  intro name above hnode
  obtain ⟨n, hn⟩ := Option.ne_none_iff_exists'.1 hnode
  rcases h _ (mem_nodes_of_node? hn) with hnil | hdir
  · cases hnil
  · exact hdir

theorem Closed.bare (ht : t.Closed) (h : t.node? place = none) : t.Bare place := by
  have hbelow : ∀ names, t.node? (names ++ place) = none := by
    intro names
    induction names with
    | nil => exact h
    | cons name names ih =>
      by_contra hnode
      rw [ht name (names ++ place) hnode] at ih
      cases ih
  exact fun names _ => hbelow names

theorem Bare.child (h : t.Bare above) (name : Text) : t.Bare (name :: above) := by
  intro names hnames
  rw [List.append_cons]
  exact h (names ++ [name]) (List.append_ne_nil_of_left_ne_nil hnames _)

theorem Bare.put (h : t.Bare (name :: above)) (n : Node) :
    (t.put (name :: above) n).Bare (name :: above) := by
  intro names hnames
  have hne : names ++ name :: above ≠ name :: above := fun heq =>
    hnames (List.append_left_eq_self.1 heq)
  rw [node?_put t n (List.cons_ne_nil _ _), if_neg hne, h names hnames]

/-- No walk leads to a name that is missing. -/
theorem walk_ne_ok_of_missing (hdot : name ≠ ['.']) (hup : name ≠ Path.up)
    (h : t.node? (name :: above) = none) : t.walk links above [name] ≠ .ok r := by
  rw [walk.eq_def]
  simp only [hdot, hup, h, if_false]
  split_ifs <;> simp

/-- Where more than the last name of a path is missing, the path above it leads nowhere. -/
theorem find_parent_of_findLast (hp : Walkable p) (hlast : p.parts.getLast? = some name)
    (h : t.findLast cwd p = .error (.noEntry free)) :
    t.find cwd (parent p) = .error (.noEntry free) := by
  have hchild := eq_child_of_getLast? hlast
  have hsize : Utf8.size ((parent p).child name).render ≤ maxPathBytes :=
    hchild ▸ size_le_of_findLast h (by simp)
  rw [hchild, findLast_child hsize] at h
  rw [find_eq ((size_render_le_child _ (ne_nil_of_getLast? hp hlast)).trans hsize)]
  cases hwalk : t.walk maxLinks (start cwd (parent p)) (parent p).parts with
  | error fault =>
    rw [hwalk] at h
    cases h
    rfl
  | ok above =>
    rw [hwalk] at h
    change t.lookIn above name = _ at h
    unfold lookIn at h
    split_ifs at h <;> cases h

/-- A directory at a path that has led nowhere is a new one. -/
theorem ensureDirectory_of_missing {found : Except WalkFault (Place × Option Node)}
    (hmissing : ∀ r, t.find cwd p ≠ .ok r)
    (h : t.ensureDirectory cwd p found = (t', .ok place)) :
    found = .ok (place, none) ∧ t' = t.put place .directory := by
  have hexisting : ∀ e, t.existing cwd p e ≠ .ok place := fun e he =>
    hmissing place (existing_ok_iff.1 he).1
  cases found with
  | error fault => exact absurd (Prod.mk.inj h).2 (hexisting _)
  | ok a =>
    obtain ⟨place', n⟩ := a
    cases n with
    | some n => exact absurd (Prod.mk.inj h).2 (hexisting _)
    | none =>
      cases h
      exact ⟨rfl, rfl⟩

theorem bare_of_ensureDirectory (ht : t.Closed) (hp : Walkable p)
    (hmissing : t.find cwd p = .error (.noEntry free))
    (h : t.ensureDirectory cwd p (t.findLast cwd p) = (t', .ok place)) : t'.Bare place := by
  obtain ⟨hfound, rfl⟩ := ensureDirectory_of_missing (fun r hr => by
    cases hmissing.symm.trans hr) h
  obtain ⟨above, name, rfl, hlast⟩ := exists_lastMissing hp hfound
  exact (ht.bare hlast.missing).put _

/-- A directory that has been made below a bare one is bare, too. -/
theorem bare_of_ensureDirectory_below (hchild : p = (parent p).child name) (hdot : name ≠ ['.'])
    (hup : name ≠ Path.up) (hparent : t.find cwd (parent p) = .ok above) (hbare : t.Bare above)
    (h : t.ensureDirectory cwd p (t.lookIn above name) = (t', .ok place)) : t'.Bare place := by
  have hmissing : ∀ r, t.find cwd p ≠ .ok r := by
    intro r hr
    obtain ⟨left, hleft⟩ := walk_append_of_ok (find_ok_iff.1 hparent).2
    rw [hchild] at hr
    exact walk_ne_ok_of_missing hdot hup (hbare [name] (List.cons_ne_nil _ _))
      ((hleft [name]).symm.trans (find_ok_iff.1 hr).2)
  obtain ⟨hfound, rfl⟩ := ensureDirectory_of_missing hmissing h
  obtain ⟨-, -, -, rfl, -⟩ := lookIn_ok_none_iff.1 hfound
  exact (hbare.child name).put _

theorem bare_of_ensureDirectoriesFrom {levels : Nat} (ht : t.Closed) (hp : Walkable p)
    (hup : Path.up ∉ p.parts) (hmissing : t.find cwd p = .error (.noEntry free))
    (h : t.ensureDirectoriesFrom cwd levels p = (t', .ok place)) : t'.Bare place := by
  induction levels generalizing p t' place free with
  | zero => exact bare_of_ensureDirectory ht hp hmissing h
  | succ levels ih =>
    rw [ensureDirectoriesFrom] at h
    split at h
    · next free' name hfound hlast =>
      split at h
      · next t₁ above hparent =>
        have hmem : name ∈ p.parts := List.mem_of_getLast? hlast
        have hdot : name ≠ ['.'] := by
          rintro rfl
          exact absurd (hp.1 _ hmem).1 (by decide)
        have hname : name ≠ Path.up := fun heq => hup (heq ▸ hmem)
        -- The path above leads nowhere, either, so its directory is a new one, too.
        have hbare := ih (walkable_parent hp) (fun hmem => hup (List.mem_of_mem_dropLast hmem))
          (find_parent_of_findLast hp hlast hfound) hparent
        obtain ⟨hfind, -, -⟩ := made_of_ensureDirectoriesFrom (walkable_parent hp) hparent
        exact bare_of_ensureDirectory_below (eq_child_of_getLast? hlast) hdot hname hfind hbare h
      · next failed hfailed => exact absurd h (hfailed _ _)
    · exact bare_of_ensureDirectory ht hp hmissing h

/-- Nothing stands below a directory that has been made at a path without `..`. -/
theorem bare_of_ensureDirectories (ht : t.Closed) (hp : Walkable p) (hup : Path.up ∉ p.parts)
    (hmissing : t.find cwd p = .error (.noEntry free))
    (h : t.ensureDirectories cwd p = (t', .ok place)) : t'.Bare place :=
  bare_of_ensureDirectoriesFrom ht hp hup hmissing h

end Pinpoint.Tree
