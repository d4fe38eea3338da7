import Mathlib.Data.Finset.Card
import Pinpoint.Proofs.FileSystem.Tree.Places

/-!
# Canonical paths, without the memory of links

The search for a canonical path remembers the links it has met, refuses one that it
meets again too early, and nests only so deep. None of this changes what it finds:
`Traverses` is the walk that simply follows every link, and counts them. A walk that
ends cannot meet a link that it is just resolving, because the target of that link
would take fewer links than it takes. For the same reason links nest only as deep as
there are links in the tree.

* `Tree.Traverses`: a walk that follows every link, as a relation.
* `Tree.canonicalize_ok_iff`: the canonical path is the one that a traversal comes to.
* `Tree.Traverses.solid`: a traversal from a solid place comes to a solid place.
-/

namespace Pinpoint.Tree

variable {t : Tree} {cwd : Place} {w w' r r' m : Walked} {name target : Text}
  {names rest : List Text} {j k : Nat}

/-! ## Specification -/

/-- Where the names of a link target are walked from. -/
def Walked.restart (w : Walked) (target : Text) : Walked :=
  if target.startsWith ['/'] then .root else w

/-- Walking along `names` from `w` comes to `r` and follows `k` links, among them those in the
    targets of links. -/
inductive Traverses (t : Tree) (cwd : Place) : Nat → Walked → List Text → Walked → Prop
  | nil {w : Walked} : Traverses t cwd 0 w [] w
  | up {k : Nat} {w r : Walked} {rest : List Text} (hrest : Traverses t cwd k w.back rest r) :
    Traverses t cwd k w (Path.up :: rest) r
  | entry {k : Nat} {w r : Walked} {name : Text} {rest : List Text} {n : Node}
      (hup : name ≠ Path.up) (hlook : t.look cwd (w.child name) = .ok n)
      (hn : ∀ target, n ≠ .link target) (hrest : Traverses t cwd k (w.child name) rest r) :
    Traverses t cwd k w (name :: rest) r
  | link {j k : Nat} {w m r : Walked} {name target : Text} {rest : List Text}
      (hup : name ≠ Path.up) (hlook : t.look cwd (w.child name) = .ok (.link target))
      (htarget : Traverses t cwd j (w.restart target) (Path.partsOf target) m)
      (hrest : Traverses t cwd k m rest r) :
    Traverses t cwd (j + k + 1) w (name :: rest) r

/-! ## Places on the way -/

theorem place_child (w : Walked) (name : Text) :
    (w.child name).place cwd = name :: w.place cwd := rfl

theorem place_absolute (cwd place : Place) : Walked.place cwd ⟨true, 0, place⟩ = place :=
  List.append_nil place

theorem place_back (w : Walked) : w.back.place cwd = (w.place cwd).tail := by
  obtain ⟨absolute, ups, names⟩ := w
  cases names with
  | cons last before => rfl
  | nil => cases absolute <;> simp [Walked.back, Walked.place]

theorem place_restart (w : Walked) (target : Text) :
    (w.restart target).place cwd = if target.startsWith ['/'] then [] else w.place cwd := by
  unfold Walked.restart
  split <;> rfl

theorem child_inj {name' : Text} : w.child name = w'.child name' ↔ w = w' ∧ name = name' := by
  obtain ⟨absolute, ups, names⟩ := w
  obtain ⟨absolute', ups', names'⟩ := w'
  simp only [Walked.child, Walked.mk.injEq, List.cons.injEq]
  tauto

/-- An entry is seen exactly where its name and the path to it can be used and its directory is
    one. -/
theorem look_child_iff {n : Node} :
    t.look cwd (w.child name) = .ok n ↔
      Text.nul ∉ name ∧ Utf8.size (w.child name).path.render ≤ maxPathBytes ∧
        t.node? (w.place cwd) = some .directory ∧ Utf8.size name ≤ maxNameBytes ∧
        t.node? (name :: w.place cwd) = some n := by
  have hplace : ((w.child name).place cwd).tail = w.place cwd := rfl
  rw [look, show (w.child name).names = name :: w.names from rfl]
  dsimp only
  rw [hplace, place_child]
  split_ifs with hnul hpath hdir hname
  · simp [hnul]
  · simp [Nat.not_le.2 hpath]
  · simp [hdir]
  · simp [Nat.not_le.2 hname]
  · simp only [hnul, not_false_eq_true, Nat.not_lt.1 hpath, not_not.1 hdir, Nat.not_lt.1 hname,
      true_and]
    cases t.node? (name :: w.place cwd) <;> simp

theorem node?_of_look {n : Node} (h : t.look cwd (w.child name) = .ok n) :
    t.node? (name :: w.place cwd) = some n :=
  (look_child_iff.1 h).2.2.2.2

/-- In a lawful tree, an entry of a directory is seen wherever the path to it is short enough. -/
theorem look_child {n : Node} (ht : t.Lawful)
    (hshort : Utf8.size (w.child name).path.render ≤ maxPathBytes)
    (hdir : t.node? (w.place cwd) = some .directory)
    (hnode : t.node? (name :: w.place cwd) = some n) : t.look cwd (w.child name) = .ok n :=
  have hname := ht _ _ _ hnode
  look_child_iff.2 ⟨hname.nul_notMem, hshort, hdir, hname.size_le, hnode⟩

/-! ## Parts of a traversal -/

theorem Traverses.append {names' : List Text} (h : t.Traverses cwd j w names m)
    (h' : t.Traverses cwd k m names' r) : t.Traverses cwd (j + k) w (names ++ names') r := by
  induction h with
  | nil => simpa using h'
  | up _ ih => exact .up (ih h')
  | entry hup hlook hn _ ih => exact .entry hup hlook hn (ih h')
  | link hup hlook htarget _ _ ih =>
    have hrest := Traverses.link hup hlook htarget (ih h')
    rwa [show ∀ a b, a + (b + k) + 1 = a + b + 1 + k by omega] at hrest

theorem Traverses.exists_of_append {names' : List Text}
    (h : t.Traverses cwd k w (names ++ names') r) :
    ∃ i j m, t.Traverses cwd i w names m ∧ t.Traverses cwd j m names' r := by
  induction names generalizing k w with
  | nil => exact ⟨0, k, w, .nil, h⟩
  | cons name names ih =>
    cases h with
    | up hrest =>
      obtain ⟨i, j, m, hi, hj⟩ := ih hrest
      exact ⟨i, j, m, .up hi, hj⟩
    | entry hup hlook hn hrest =>
      obtain ⟨i, j, m, hi, hj⟩ := ih hrest
      exact ⟨i, j, m, .entry hup hlook hn hi, hj⟩
    | link hup hlook htarget hrest =>
      obtain ⟨i, j, m, hi, hj⟩ := ih hrest
      exact ⟨_, j, m, .link hup hlook htarget hi, hj⟩

/-- How many links are followed, and which place is come to, depends on the place alone that a
    traversal starts from. -/
theorem Traverses.place_unique (h : t.Traverses cwd j w names r) {w' r' : Walked} {k : Nat}
    (h' : t.Traverses cwd k w' names r') (hplace : w.place cwd = w'.place cwd) :
    j = k ∧ r.place cwd = r'.place cwd := by
  induction h generalizing k w' r' with
  | nil =>
    cases h'
    exact ⟨rfl, hplace⟩
  | up _ ih =>
    cases h' with
    | up hrest => exact ih hrest (by rw [place_back, place_back, hplace])
    | entry hup _ _ _ => exact absurd rfl hup
    | link hup _ _ _ => exact absurd rfl hup
  | entry hup hlook hn _ ih =>
    have hnode := node?_of_look hlook
    rw [hplace] at hnode
    cases h' with
    | up _ => exact absurd rfl hup
    | entry _ _ _ hrest => exact ih hrest (by rw [place_child, place_child, hplace])
    | link _ hlook' _ _ =>
      exact absurd (Option.some.inj (hnode.symm.trans (node?_of_look hlook'))) (hn _)
  | link hup hlook _ _ ihtarget ihrest =>
    have hnode := node?_of_look hlook
    rw [hplace] at hnode
    cases h' with
    | up _ => exact absurd rfl hup
    | entry _ hlook' hn _ =>
      exact absurd (Option.some.inj (hnode.symm.trans (node?_of_look hlook'))).symm (hn _)
    | link _ hlook' htarget hrest =>
      cases hnode.symm.trans (node?_of_look hlook')
      obtain ⟨hj, hm⟩ := ihtarget htarget (by rw [place_restart, place_restart, hplace])
      obtain ⟨hk, hr⟩ := ihrest hrest hm
      exact ⟨by rw [hj, hk], hr⟩

theorem Traverses.unique (h : t.Traverses cwd j w names r)
    (h' : t.Traverses cwd k w names r') : r = r' := by
  induction h generalizing k r' with
  | nil =>
    cases h'
    rfl
  | up _ ih =>
    cases h' with
    | up hrest => exact ih hrest
    | entry hup _ _ _ => exact absurd rfl hup
    | link hup _ _ _ => exact absurd rfl hup
  | entry hup hlook hn _ ih =>
    cases h' with
    | up _ => exact absurd rfl hup
    | entry _ _ _ hrest => exact ih hrest
    | link _ hlook' _ _ => exact absurd (Except.ok.inj (hlook.symm.trans hlook')) (hn _)
  | link hup hlook _ _ ihtarget ihrest =>
    cases h' with
    | up _ => exact absurd rfl hup
    | entry _ hlook' hn _ => exact absurd (Except.ok.inj (hlook'.symm.trans hlook)) (hn _)
    | link _ hlook' htarget hrest =>
      cases hlook.symm.trans hlook'
      obtain rfl := ihtarget htarget
      exact ihrest hrest

/-! ## Links and what they resolve to -/

/-- The entry that `link` has come to is a link, and walking along its target comes to `m` and
    follows `j` links. -/
def Resolves (t : Tree) (cwd : Place) (j : Nat) (link m : Walked) : Prop :=
  ∃ (w : Walked) (name target : Text), link = w.child name ∧
    t.look cwd (w.child name) = .ok (.link target) ∧
    t.Traverses cwd j (w.restart target) (Path.partsOf target) m

variable {link link' : Walked}

theorem Resolves.place_unique (h : t.Resolves cwd j link m) {m' : Walked}
    (h' : t.Resolves cwd k link' m') (hplace : link.place cwd = link'.place cwd) : j = k := by
  obtain ⟨w, name, target, rfl, hlook, htarget⟩ := h
  obtain ⟨w', name', target', rfl, hlook', htarget'⟩ := h'
  rw [place_child, place_child, List.cons.injEq] at hplace
  obtain ⟨rfl, hplace⟩ := hplace
  have hnode := node?_of_look hlook
  rw [hplace] at hnode
  cases hnode.symm.trans (node?_of_look hlook')
  exact (htarget.place_unique htarget' (by rw [place_restart, place_restart, hplace])).1

theorem Resolves.unique (h : t.Resolves cwd j link m) {m' : Walked}
    (h' : t.Resolves cwd k link m') : m = m' := by
  obtain ⟨w, name, target, rfl, hlook, htarget⟩ := h
  obtain ⟨w', name', target', hlink, hlook', htarget'⟩ := h'
  obtain ⟨rfl, rfl⟩ := child_inj.1 hlink
  cases hlook.symm.trans hlook'
  exact htarget.unique htarget'

theorem exists_node?_of_resolves (h : t.Resolves cwd j link m) :
    ∃ target, (link.place cwd, .link target) ∈ t.nodes := by
  obtain ⟨w, name, target, rfl, hlook, -⟩ := h
  exact ⟨target, mem_nodes_of_node? (node?_of_look hlook)⟩

open Classical in
/-- The places of the links that resolve over fewer than `k` links. -/
noncomputable def linksBelow (t : Tree) (cwd : Place) (k : Nat) : Finset Place :=
  ((t.nodes.filter fun (_, n) => match n with
    | .link _ => true
    | _ => false).map Prod.fst).toFinset.filter
    fun place => ∃ link j m, link.place cwd = place ∧ t.Resolves cwd j link m ∧ j < k

open Classical in
theorem mem_linksBelow {place : Place} :
    place ∈ t.linksBelow cwd k ↔
      ∃ link j m, link.place cwd = place ∧ t.Resolves cwd j link m ∧ j < k := by
  rw [linksBelow, Finset.mem_filter, and_iff_right_of_imp]
  rintro ⟨link, j, m, rfl, hres, -⟩
  obtain ⟨target, hmem⟩ := exists_node?_of_resolves hres
  rw [List.mem_toFinset, List.mem_map]
  exact ⟨_, List.mem_filter.2 ⟨hmem, rfl⟩, rfl⟩

open Classical in
theorem card_linksBelow_le (t : Tree) (cwd : Place) (k : Nat) :
    (t.linksBelow cwd k).card ≤ t.linkCount := by
  calc (t.linksBelow cwd k).card
    _ ≤ _ := Finset.card_filter_le _ _
    _ ≤ _ := List.toFinset_card_le _
    _ = t.linkCount := by
      rw [List.length_map, linkCount]
      exact List.countP_eq_length_filter.symm

theorem linksBelow_subset (h : j ≤ k) : t.linksBelow cwd j ⊆ t.linksBelow cwd k := by
  intro place hplace
  obtain ⟨link, i, m, hlink, hres, hi⟩ := mem_linksBelow.1 hplace
  exact mem_linksBelow.2 ⟨link, i, m, hlink, hres, by omega⟩

/-- A link itself is not among those that resolve over fewer links than it does. -/
theorem card_linksBelow_lt (h : t.Resolves cwd j link m) (hjk : j < k) :
    (t.linksBelow cwd j).card < (t.linksBelow cwd k).card := by
  refine Finset.card_lt_card ((Finset.ssubset_iff_of_subset (linksBelow_subset hjk.le)).2
    ⟨link.place cwd, mem_linksBelow.2 ⟨link, j, m, rfl, h, hjk⟩, ?_⟩)
  intro hmem
  obtain ⟨link', i, m', hplace, hres, hi⟩ := mem_linksBelow.1 hmem
  exact hi.ne (hres.place_unique h hplace)

/-! ## The memory of links -/

variable {memory memory' : Memory} {depth : Nat}

/-- What a memory tells of the links that have been resolved is true. -/
def Memory.Sound (t : Tree) (cwd : Place) (memory : Memory) : Prop :=
  ∀ link m, memory.lookup link = some (some m) → ∃ j, t.Resolves cwd j link m

/-- Every link that is being resolved takes at least `k` links. -/
def Memory.BusyFrom (t : Tree) (cwd : Place) (k : Nat) (memory : Memory) : Prop :=
  ∀ link j m, memory.lookup link = some none → t.Resolves cwd j link m → k ≤ j

theorem lookup_cons (link link' : Walked) (entry : Option Walked) (memory : Memory) :
    List.lookup link ((link', entry) :: memory) =
      if link = link' then some entry else memory.lookup link := by
  rw [List.lookup_cons]
  by_cases h : link = link'
  · simp [h]
  · rw [if_neg h, beq_eq_false_iff_ne.2 h]

theorem Memory.Sound.busy (h : memory.Sound t cwd) (link : Walked) :
    Memory.Sound t cwd ((link, none) :: memory) := by
  intro link' m hm
  rw [lookup_cons] at hm
  split_ifs at hm
  · cases hm
  · exact h link' m hm

theorem Memory.Sound.resolved (h : memory.Sound t cwd) (hlink : t.Resolves cwd j link m) :
    Memory.Sound t cwd ((link, some m) :: memory) := by
  intro link' m' hm
  rw [lookup_cons] at hm
  split_ifs at hm with heq
  · cases hm
    exact ⟨j, heq ▸ hlink⟩
  · exact h link' m' hm

theorem Memory.BusyFrom.mono (h : memory.BusyFrom t cwd k) (hjk : j ≤ k) :
    memory.BusyFrom t cwd j :=
  fun link i m hlink hres => hjk.trans (h link i m hlink hres)

theorem Memory.BusyFrom.busy (h : memory.BusyFrom t cwd j) (hlink : t.Resolves cwd j link m) :
    Memory.BusyFrom t cwd j ((link, none) :: memory) := by
  intro link' i m' hm hres
  rw [lookup_cons] at hm
  split_ifs at hm with heq
  · exact (hlink.place_unique hres (by rw [heq])).le
  · exact h link' i m' hm hres

/-! ## The search is a traversal -/

theorem canonicalWalk_up :
    t.canonicalWalk cwd depth w (Path.up :: rest) memory =
      t.canonicalWalk cwd depth w.back rest memory := by
  rw [canonicalWalk, if_pos rfl]

theorem canonicalWalk_entry {n : Node} (hup : name ≠ Path.up)
    (hlook : t.look cwd (w.child name) = .ok n) (hn : ∀ target, n ≠ .link target) :
    t.canonicalWalk cwd depth w (name :: rest) memory =
      t.canonicalWalk cwd depth (w.child name) rest memory := by
  rw [canonicalWalk, if_neg hup]
  simp only [hlook]

theorem canonicalWalk_known (hup : name ≠ Path.up)
    (hlook : t.look cwd (w.child name) = .ok (.link target))
    (hknown : memory.lookup (w.child name) = some (some m)) :
    t.canonicalWalk cwd depth w (name :: rest) memory =
      t.canonicalWalk cwd depth m rest memory := by
  rw [canonicalWalk, if_neg hup]
  simp only [hlook, hknown]

theorem canonicalWalk_link (hup : name ≠ Path.up)
    (hlook : t.look cwd (w.child name) = .ok (.link target))
    (hnew : memory.lookup (w.child name) = none) :
    t.canonicalWalk cwd (depth + 1) w (name :: rest) memory =
      (t.canonicalWalk cwd depth (w.restart target) (Path.partsOf target)
        ((w.child name, none) :: memory)).bind fun (m, memory) =>
          t.canonicalWalk cwd (depth + 1) m rest ((w.child name, some m) :: memory) := by
  rw [canonicalWalk, if_neg hup]
  simp only [hlook, hnew]
  rfl

/-- Whatever the search comes to, a traversal comes to, and the memory stays sound. -/
theorem traverses_of_canonicalWalk (hsound : memory.Sound t cwd)
    (h : t.canonicalWalk cwd depth w names memory = .ok (r, memory')) :
    (∃ k, t.Traverses cwd k w names r) ∧ memory'.Sound t cwd := by
  fun_induction canonicalWalk t cwd depth w names memory generalizing r memory'
  case case1 depth w memory =>
    cases h
    exact ⟨⟨0, .nil⟩, hsound⟩
  case case2 depth w rest memory ih =>
    obtain ⟨⟨k, hrest⟩, hsound'⟩ := ih hsound h
    exact ⟨⟨k, .up hrest⟩, hsound'⟩
  case case3 => cases h
  case case4 w name rest memory hup next target hlook m depth hknown ih =>
    obtain ⟨j, w', name', target', hlink, hlook', htarget⟩ := hsound _ _ hknown
    obtain ⟨rfl, rfl⟩ := child_inj.1 hlink
    cases hlook.symm.trans hlook'
    obtain ⟨⟨k, hrest⟩, hsound'⟩ := ih hsound h
    exact ⟨⟨_, .link hup hlook htarget hrest⟩, hsound'⟩
  case case5 => cases h
  case case6 => cases h
  case case7 w name rest memory hup next target hlook depth hnew from_ ihtarget ihrest =>
    cases hwalk : t.canonicalWalk cwd depth from_ (Path.partsOf target)
        ((next, none) :: memory) with
    | error fault =>
      rw [hwalk] at h
      cases h
    | ok found =>
      obtain ⟨m, memory₁⟩ := found
      rw [hwalk] at h
      obtain ⟨⟨j, htarget⟩, hsound₁⟩ := ihtarget (hsound.busy _) hwalk
      have hlink : t.Resolves cwd j next m := ⟨w, name, target, rfl, hlook, htarget⟩
      obtain ⟨⟨k, hrest⟩, hsound'⟩ := ihrest m memory₁ (hsound₁.resolved hlink) h
      exact ⟨⟨_, .link hup hlook htarget hrest⟩, hsound'⟩
  case case8 depth w name rest memory hup next n hn hlook ih =>
    obtain ⟨⟨k, hrest⟩, hsound'⟩ := ih hsound h
    exact ⟨⟨k, .entry hup hlook hn hrest⟩, hsound'⟩

/-- The search comes to whatever a traversal comes to, if the links that are being resolved take as
    many links as the traversal, and the nesting may be as deep as there are links that take
    fewer. No link is left in resolution that was not so before. -/
theorem canonicalWalk_of_traverses (h : t.Traverses cwd k w names r) (hsound : memory.Sound t cwd)
    (hbusy : memory.BusyFrom t cwd k) (hdepth : (t.linksBelow cwd k).card ≤ depth) :
    ∃ memory', t.canonicalWalk cwd depth w names memory = .ok (r, memory') ∧
      memory'.Sound t cwd ∧
      ∀ link, memory'.lookup link = some none → memory.lookup link = some none := by
  induction h generalizing memory depth with
  | nil =>
    rw [canonicalWalk]
    exact ⟨memory, rfl, hsound, fun _ hlink => hlink⟩
  | up _ ih =>
    rw [canonicalWalk_up]
    exact ih hsound hbusy hdepth
  | entry hup hlook hn _ ih =>
    rw [canonicalWalk_entry hup hlook hn]
    exact ih hsound hbusy hdepth
  | @link j k w m r name target rest hup hlook htarget _ ihtarget ihrest =>
    have hlink : t.Resolves cwd j (w.child name) m := ⟨w, name, target, rfl, hlook, htarget⟩
    have hdepth' : (t.linksBelow cwd k).card ≤ depth :=
      (Finset.card_le_card (linksBelow_subset (by omega))).trans hdepth
    rcases hmemory : memory.lookup (w.child name) with _ | _ | m'
    · -- The link is new. Its target takes fewer links than the whole walk does, so it may be
      -- resolved one level deeper, among links that take at least as many.
      have hlt := card_linksBelow_lt hlink (show j < j + k + 1 by omega)
      obtain ⟨depth, rfl⟩ := Nat.exists_eq_succ_of_ne_zero (show depth ≠ 0 by omega)
      obtain ⟨memory₁, hwalk₁, hsound₁, hbusy₁⟩ := ihtarget (hsound.busy (w.child name))
        ((hbusy.mono (by omega)).busy hlink) (show _ ≤ depth by omega)
      have hbusy₂ : ∀ link, List.lookup link ((w.child name, some m) :: memory₁) = some none →
          memory.lookup link = some none := by
        intro link hnone
        rw [lookup_cons] at hnone
        split_ifs at hnone with heq
        · cases hnone
        · have hold := hbusy₁ link hnone
          rwa [lookup_cons, if_neg heq] at hold
      obtain ⟨memory', hwalk', hsound', hbusy'⟩ := ihrest (hsound₁.resolved hlink)
        (fun link i m' hnone hres => (hbusy.mono (by omega)) link i m' (hbusy₂ link hnone) hres)
        hdepth'
      refine ⟨memory', ?_, hsound', fun link hnone => hbusy₂ link (hbusy' link hnone)⟩
      rw [canonicalWalk_link hup hlook hmemory, hwalk₁]
      exact hwalk'
    · -- The link is being resolved, so it would take more links than it does.
      have hle := hbusy _ _ _ hmemory hlink
      omega
    · -- The link is known, and resolves to the same as before.
      obtain ⟨i, hres⟩ := hsound _ _ hmemory
      obtain rfl := hlink.unique hres
      rw [canonicalWalk_known hup hlook hmemory]
      exact ihrest hsound (hbusy.mono (by omega)) hdepth'

/-- Where the walk along a path starts. -/
def Walked.start (p : Path) : Walked := if p.isAbsolute then .root else .here

theorem place_start (cwd : Place) (p : Path) :
    (Walked.start p).place cwd = Tree.start cwd p := by
  unfold Walked.start Tree.start
  split <;> rfl

theorem canonicalize_eq (t : Tree) (cwd : Place) (arg : Text) :
    t.canonicalize cwd arg =
      match t.canonicalWalk cwd t.linkDepth (.start (Path.parse arg)) (Path.parse arg).parts [] with
      | .ok (w, _) => .ok (w.place cwd).toPath
      | .error (.os e) => .error (.os e)
      | .error (.loop w) =>
        .error (.os (.system .loop ("Symlink loop from " ++ Text.quoted w.path.render) (some arg)))
      | .error .nulCharacter => .error .nulCharacter := rfl

/-- A path has a canonical form exactly where a traversal along it ends, which is the path of the
    place that the traversal comes to. -/
theorem canonicalize_ok_iff {arg : Text} {c : Path} :
    t.canonicalize cwd arg = .ok c ↔
      ∃ k w, t.Traverses cwd k (.start (Path.parse arg)) (Path.parse arg).parts w ∧
        c = (w.place cwd).toPath := by
  have hsound : Memory.Sound t cwd [] := fun _ _ h => by cases h
  constructor
  · intro h
    rw [canonicalize_eq] at h
    split at h
    · rename_i w memory hwalk
      obtain ⟨⟨k, hk⟩, -⟩ := traverses_of_canonicalWalk hsound hwalk
      cases h
      exact ⟨k, w, hk, rfl⟩
    all_goals cases h
  · rintro ⟨k, w, hk, rfl⟩
    have hdepth : (t.linksBelow cwd k).card ≤ t.linkDepth := by
      have hcard := card_linksBelow_le t cwd k
      have hcount : t.linkCount ≤ t.linkCount * (maxPathBytes + 2) :=
        Nat.le_mul_of_pos_right _ (by omega)
      unfold linkDepth
      omega
    obtain ⟨memory', hwalk, -⟩ :=
      canonicalWalk_of_traverses hk hsound (fun _ _ _ h => by cases h) hdepth
    rw [canonicalize_eq, hwalk]

/-! ## Where a traversal comes to -/

/-- Walking on from a solid place never leaves the solid places. -/
theorem Traverses.solid (h : t.Traverses cwd k w names r)
    (hw : t.Solid (w.place cwd)) : t.Solid (r.place cwd) := by
  induction h with
  | nil => exact hw
  | up _ ih =>
    apply ih
    rw [place_back]
    exact hw.tail
  | entry _ hlook hn _ ih =>
    obtain ⟨-, -, hdir, -, hnode⟩ := look_child_iff.1 hlook
    exact ih ⟨hw, hdir, _, hnode, hn⟩
  | link _ _ _ _ ihtarget ihrest =>
    apply ihrest
    apply ihtarget
    rw [place_restart]
    split
    · exact solid_nil
    · exact hw

end Pinpoint.Tree
