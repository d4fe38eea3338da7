import Pinpoint.Proofs.FileSystem.Tree.Canonical

/-!
# Canonical paths and the walk of the operating system

The operating system goes from entry to entry and never looks at the whole path that it
has come along; the search for the canonical path asks for each entry by that path. Both
come to the same place, unless one of those paths is too long to be asked for.

* `Tree.Spellable`: the paths that are asked for are all short enough.
* `Tree.traverses_of_walk`: where the operating system comes to, the traversal comes to.
* `Tree.probed_iff_spellable`: a probe reports what the operating system finds, exactly
  where the path is spellable.
-/

namespace Pinpoint.Tree

variable {t : Tree} {cwd place r : Place} {w v m : Walked} {name target : Text}
  {names rest : List Text} {j k links : Nat} {p : Path}

/-! ## Specification -/

/-- Walking along `names` from `w` meets the entry that `v` has come to; the names of a link target
    take the place of the link. -/
inductive Visits (t : Tree) (cwd : Place) : Walked → List Text → Walked → Prop
  | here {w : Walked} {name : Text} {rest : List Text} {n : Node} (hup : name ≠ Path.up)
      (hnode : t.node? (name :: w.place cwd) = some n) :
    Visits t cwd w (name :: rest) (w.child name)
  | up {w v : Walked} {rest : List Text} (hrest : Visits t cwd w.back rest v) :
    Visits t cwd w (Path.up :: rest) v
  | entry {w v : Walked} {name : Text} {rest : List Text} {n : Node} (hup : name ≠ Path.up)
      (hnode : t.node? (name :: w.place cwd) = some n) (hn : ∀ target, n ≠ .link target)
      (hrest : Visits t cwd (w.child name) rest v) :
    Visits t cwd w (name :: rest) v
  | link {w v : Walked} {name target : Text} {rest : List Text} (hup : name ≠ Path.up)
      (hnode : t.node? (name :: w.place cwd) = some (.link target))
      (hrest : Visits t cwd (w.restart target) (Path.partsOf target ++ rest) v) :
    Visits t cwd w (name :: rest) v

/-- The entries on the way along a path are met under paths that are short enough to be asked for,
    and so is the path of the place that it leads to. -/
structure Spellable (t : Tree) (cwd : Place) (p : Path) : Prop where
  way : ∀ v, t.Visits cwd (.start p) p.parts v → Utf8.size v.path.render ≤ maxPathBytes
  goal : ∀ place, t.find cwd p = .ok place → Utf8.size place.toPath.render ≤ maxPathBytes

/-- A probe of `p` reports an entry of kind `k` under a canonical path of that kind, and an argument
    for `p` resolves to it where `k` is a kind of specifiers. -/
structure Probed (t : Tree) (cwd : Place) (p : Text) (k : EntryKind) (c : Path) : Prop where
  canonical : t.canonicalize cwd p = .ok c
  kind : t.kind cwd c = k
  finds : (t.toFileSystem cwd).Finds p (.ofKind c k)
  wins : ∀ (ctx : Context) (arg : Text) (s : Specifier), arg ≠ [] → ctx.absolutize arg = p →
    (Probe.ofKind c k).specifier? = some s →
      (resolve ctx arg).run (t.toFileSystem cwd) = .ok (.ok s)

/-! ## Names that lead anywhere -/

/-- All names but `.`, which only asks for a directory. -/
def withoutDots (names : List Text) : List Text := names.filter (· ≠ ['.'])

theorem withoutDots_dot (rest : List Text) : withoutDots (['.'] :: rest) = withoutDots rest := by
  simp [withoutDots]

theorem withoutDots_cons (h : name ≠ ['.']) (rest : List Text) :
    withoutDots (name :: rest) = name :: withoutDots rest := by
  simp [withoutDots, h]

theorem withoutDots_append (names rest : List Text) :
    withoutDots (names ++ rest) = withoutDots names ++ withoutDots rest :=
  List.filter_append names rest

/-- The names of a link target, but for `.`, are those of the path that it is read as. -/
theorem withoutDots_linkNames (target : Text) :
    withoutDots (linkNames target) = Path.partsOf target := by
  have hnames : withoutDots ((Text.cut '/' target).filter (· ≠ [])) = Path.partsOf target := by
    rw [withoutDots, List.filter_filter, Path.partsOf]
    congr 1
    funext name
    simp [Path.isName, Bool.and_comm]
  unfold linkNames
  dsimp only
  split
  · rw [withoutDots_append, hnames, withoutDots_dot]
    exact List.append_nil _
  · exact hnames

theorem withoutDots_parts_parse (p : Text) :
    withoutDots (Path.parse p).parts = (Path.parse p).parts := by
  rw [withoutDots, List.filter_eq_self]
  intro part hpart
  have hname := (Path.proper_parse p part hpart).1
  simp only [Path.isName, Bool.and_eq_true] at hname
  exact hname.2

/-! ## Entries on the way -/

/-- A traversal asks for every entry on its way by a short path. -/
theorem Visits.size_le (h : t.Visits cwd w names v) {k : Nat} {r : Walked}
    (htraverses : t.Traverses cwd k w names r) : Utf8.size v.path.render ≤ maxPathBytes := by
  induction h generalizing k r with
  | here hup _ =>
    cases htraverses with
    | up _ => exact absurd rfl hup
    | entry _ hlook _ _ => exact (look_child_iff.1 hlook).2.1
    | link _ hlook _ _ => exact (look_child_iff.1 hlook).2.1
  | up _ ih =>
    cases htraverses with
    | up hrest => exact ih hrest
    | entry hup _ _ _ => exact absurd rfl hup
    | link hup _ _ _ => exact absurd rfl hup
  | entry hup hnode hn _ ih =>
    cases htraverses with
    | up _ => exact absurd rfl hup
    | entry _ _ _ hrest => exact ih hrest
    | link _ hlook _ _ =>
      exact absurd (Option.some.inj (hnode.symm.trans (node?_of_look hlook))) (hn _)
  | link hup hnode _ ih =>
    cases htraverses with
    | up _ => exact absurd rfl hup
    | entry _ hlook hn _ =>
      exact absurd (Option.some.inj (hnode.symm.trans (node?_of_look hlook))).symm (hn _)
    | link _ hlook htarget hrest =>
      cases hnode.symm.trans (node?_of_look hlook)
      exact ih (htarget.append hrest)

/-- The names of a solid place are met one after the other. -/
theorem Visits.of_solid (ht : t.Lawful) (h : t.Solid place)
    (hrest : t.Visits cwd ⟨true, 0, place⟩ rest v) :
    t.Visits cwd .root (place.reverse ++ rest) v := by
  induction place generalizing rest with
  | nil => exact hrest
  | cons name above ih =>
    obtain ⟨n, hnode, hn⟩ := h.exists_node
    rw [List.reverse_cons, List.append_assoc]
    exact ih h.of_cons (.entry (ht name above n hnode).ne_up (by rwa [place_absolute]) hn hrest)

theorem Visits.exists_node (h : t.Visits cwd w names v) :
    ∃ n, t.node? (v.place cwd) = some n := by
  induction h with
  | here _ hnode => exact ⟨_, hnode⟩
  | up _ ih => exact ih
  | entry _ _ _ _ ih => exact ih
  | link _ _ _ ih => exact ih

/-- From the root, the path that an entry is met under is the path of its place. -/
theorem Visits.path_eq (h : t.Visits cwd w names v) (habs : w.absolute = true) (hups : w.ups = 0) :
    v.path = (v.place cwd).toPath := by
  have hpath : ∀ u : Walked, u.absolute = true → u.ups = 0 → u.path = (u.place cwd).toPath := by
    rintro ⟨absolute, ups, names⟩ rfl rfl
    simp [Walked.path, Walked.place, Place.toPath]
  induction h with
  | here _ _ => exact hpath _ habs hups
  | @up w v rest _ ih =>
    obtain ⟨absolute, ups, names⟩ := w
    cases habs
    cases hups
    cases names <;> exact ih rfl rfl
  | entry _ _ _ _ ih => exact ih habs hups
  | @link w v name target rest _ _ _ ih =>
    unfold Walked.restart at ih
    split at ih
    · exact ih rfl rfl
    · exact ih habs hups

/-! ## The walk is a traversal -/

/-- Where the operating system comes to, a traversal comes to, if the entries on the way are met
    under short paths. -/
theorem traverses_of_walk (ht : t.Lawful) (h : t.walk links place names = .ok r)
    (hw : w.place cwd = place)
    (hshort : ∀ v, t.Visits cwd w (withoutDots names) v → Utf8.size v.path.render ≤ maxPathBytes) :
    ∃ k w', t.Traverses cwd k w (withoutDots names) w' ∧ w'.place cwd = r := by
  fun_induction walk t links place names generalizing w
  case case1 links place =>
    cases h
    exact ⟨0, w, .nil, hw⟩
  case case3 links place rest hdir ih =>
    rw [withoutDots_dot] at hshort ⊢
    exact ih h hw hshort
  case case4 links place rest hdir hdot ih =>
    rw [withoutDots_cons hdot] at hshort ⊢
    obtain ⟨k, w', hk, hw'⟩ := ih h (by rw [place_back, hw]) fun v hv => hshort v (.up hv)
    exact ⟨k, w', .up hk, hw'⟩
  case case8 place name rest hdir hdot hup hname target links hnode ih =>
    rw [withoutDots_cons hdot] at hshort ⊢
    subst hw
    have hlook : t.look cwd (w.child name) = .ok (.link target) :=
      look_child ht (hshort _ (.here hup hnode)) (not_not.1 hdir) hnode
    rw [withoutDots_append, withoutDots_linkNames] at ih
    -- The system walks on from the target in one go, a traversal only when the target is done.
    obtain ⟨k, w', hk, hw'⟩ :=
      ih h (place_restart w target) fun v hv => hshort v (.link hup hnode hv)
    obtain ⟨i, j, m, hi, hj⟩ := hk.exists_of_append
    exact ⟨_, w', .link hup hlook hi hj, hw'⟩
  case case9 place name rest hdir hdot hup hname n links hzero hsucc hnode ih =>
    rw [withoutDots_cons hdot] at hshort ⊢
    subst hw
    have hn : ∀ target, n ≠ .link target := by
      intro target hlink
      cases links with
      | zero => exact hzero target rfl hlink
      | succ links => exact hsucc target links rfl hlink
    have hlook : t.look cwd (w.child name) = .ok n :=
      look_child ht (hshort _ (.here hup hnode)) (not_not.1 hdir) hnode
    obtain ⟨k, w', hk, hw'⟩ :=
      ih h (place_child w name) fun v hv => hshort v (.entry hup hnode hn hv)
    exact ⟨k, w', .entry hup hlook hn hk, hw'⟩
  all_goals cases h

theorem walk_link (hdir : t.node? place = some .directory) (hname : IsFileName name)
    (hnode : t.node? (name :: place) = some (.link target)) :
    t.walk (links + 1) place (name :: rest) =
      t.walk links (if target.startsWith ['/'] then [] else place) (linkNames target ++ rest) := by
  rw [walk.eq_def]
  simp only [hdir, hname.ne_dot, hname.ne_up, Nat.not_lt.2 hname.size_le, hnode, ne_eq,
    not_true_eq_false, if_false]

theorem walk_entry {n : Node} (hdir : t.node? place = some .directory) (hname : IsFileName name)
    (hnode : t.node? (name :: place) = some n) (hn : ∀ target, n ≠ .link target) :
    t.walk links place (name :: rest) = t.walk links (name :: place) rest := by
  rw [walk.eq_def]
  simp only [hdir, hname.ne_dot, hname.ne_up, Nat.not_lt.2 hname.size_le, hnode, ne_eq,
    not_true_eq_false, if_false]
  cases n with
  | link target => exact absurd rfl (hn target)
  | _ => rfl

/-- The operating system comes to a solid place along its names. -/
theorem walk_of_solid (ht : t.Lawful) (h : t.Solid place) (links : Nat) (rest : List Text) :
    t.walk links [] (place.reverse ++ rest) = t.walk links place rest := by
  induction place generalizing rest with
  | nil => rfl
  | cons name above ih =>
    obtain ⟨n, hnode, hn⟩ := h.exists_node
    rw [List.reverse_cons, List.append_assoc, ih h.of_cons, List.singleton_append,
      walk_entry h.directory_of_cons (ht name above n hnode) hnode hn]

theorem find_toPath (ht : t.Lawful) (h : t.Solid place)
    (hshort : Utf8.size place.toPath.render ≤ maxPathBytes) :
    t.find cwd place.toPath = .ok place := by
  have hwalk := walk_of_solid ht h maxLinks []
  rw [List.append_nil, show t.walk maxLinks place [] = .ok place by rw [walk]] at hwalk
  exact find_ok_iff.2 ⟨hshort, hwalk⟩

/-! ## What a probe reports -/

/-- A spellable path that leads to a place is traversed to that place. -/
theorem traverses_of_find {p : Text} (ht : t.Lawful) (h : t.find cwd (Path.parse p) = .ok place)
    (hway : ∀ v, t.Visits cwd (.start (Path.parse p)) (Path.parse p).parts v →
      Utf8.size v.path.render ≤ maxPathBytes) :
    ∃ k w, t.Traverses cwd k (.start (Path.parse p)) (Path.parse p).parts w ∧
      w.place cwd = place := by
  obtain ⟨-, hwalk⟩ := find_ok_iff.1 h
  have htraverses := traverses_of_walk ht hwalk (place_start cwd (Path.parse p))
  rw [withoutDots_parts_parse] at htraverses
  exact htraverses hway

/-- The short path of a solid place has the kind of the entry there. -/
theorem kind_toPath {n : Node} (ht : t.Lawful) (h : t.Solid place)
    (hshort : Utf8.size place.toPath.render ≤ maxPathBytes) (hn : t.node? place = some n) :
    t.kind cwd place.toPath = Node.kind n := by
  refine kind_of_find (fun part hpart => ?_) (find_toPath ht h hshort) hn
  exact (h.isFileName ht part (List.mem_reverse.1 hpart)).nul_notMem

theorem nul_notMem_of_kind {p : Text} (h : t.kind cwd (Path.parse p) ≠ .missing) :
    Text.nul ∉ p := by
  obtain ⟨_, _, -, -, -, hnul⟩ := exists_find_of_kind h
  intro hp
  obtain ⟨part, hpart, hmem⟩ := Path.exists_mem_parse (by decide) (by decide) hp
  exact hnul part hpart hmem

theorem mem_absolutize_of_mem {ctx : Context} {arg : Text} {c : Char} (hslash : c ≠ '/')
    (hdot : c ≠ '.') (h : c ∈ arg) : c ∈ ctx.absolutize arg := by
  unfold Context.absolutize
  dsimp only
  split_ifs with habs
  · exact h
  · obtain ⟨part, hpart, hmem⟩ := Path.exists_mem_parse hslash hdot h
    rw [Path.mem_render_iff hslash hdot, Path.join, if_neg habs]
    exact ⟨part, List.mem_append_right _ hpart, hmem⟩

/-- What a probe reports of an absolute text, every argument for that text resolves to. -/
theorem resolve_of_finds {ctx : Context} {arg p : Text} {finding : Probe} {s : Specifier}
    (hnul : Text.nul ∉ p) (hfinds : (t.toFileSystem cwd).Finds p finding) (harg : arg ≠ [])
    (habs : ctx.absolutize arg = p) (hs : finding.specifier? = some s) :
    (resolve ctx arg).run (t.toFileSystem cwd) = .ok (.ok s) := by
  subst habs
  have hnul' : Text.nul ∉ arg := fun hmem =>
    hnul (mem_absolutize_of_mem (by decide) (by decide) hmem)
  rw [resolve_of_ne_nil ctx harg hnul']
  exact run_resolveAbsolute_of_some hfinds hs

theorem probed_of_spellable {p : Text} (ht : t.Lawful) (hcwd : t.IsWorkingDir cwd)
    (hkind : t.kind cwd (Path.parse p) ≠ .missing) (h : t.Spellable cwd (Path.parse p)) :
    ∃ c, t.Probed cwd p (t.kind cwd (Path.parse p)) c := by
  obtain ⟨place, n, hfind, hn, hkind', -⟩ := exists_find_of_kind hkind
  obtain ⟨k, w, htraverses, rfl⟩ := traverses_of_find ht hfind h.way
  have hcanonical : t.canonicalize cwd p = .ok (w.place cwd).toPath :=
    canonicalize_ok_iff.2 ⟨k, w, htraverses, rfl⟩
  have hsolid := htraverses.solid (solid_start hcwd.solid _)
  have hsame : t.kind cwd (w.place cwd).toPath = t.kind cwd (Path.parse p) := by
    rw [kind_toPath ht hsolid (h.goal _ hfind) hn, hkind']
  have hfinds : (t.toFileSystem cwd).Finds p
      (.ofKind (w.place cwd).toPath (t.kind cwd (Path.parse p))) := by
    rw [← hsame]
    exact FileSystem.finds_of_canonicalize hcanonical
  exact ⟨_, hcanonical, hsame, hfinds, fun ctx arg s harg habs hs =>
    resolve_of_finds (nul_notMem_of_kind hkind) hfinds harg habs hs⟩

theorem spellable_of_probed {p : Text} {c : Path} (ht : t.Lawful)
    (hkind : t.kind cwd (Path.parse p) ≠ .missing)
    (h : t.Probed cwd p (t.kind cwd (Path.parse p)) c) : t.Spellable cwd (Path.parse p) := by
  obtain ⟨k, w, htraverses, rfl⟩ := canonicalize_ok_iff.1 h.canonical
  have hway : ∀ v, t.Visits cwd (.start (Path.parse p)) (Path.parse p).parts v →
      Utf8.size v.path.render ≤ maxPathBytes := fun v hv => hv.size_le htraverses
  refine ⟨hway, fun place hfind => ?_⟩
  obtain ⟨k', w', htraverses', rfl⟩ := traverses_of_find ht hfind hway
  obtain rfl := htraverses.unique htraverses'
  have hpresent : t.kind cwd (w.place cwd).toPath ≠ .missing := by
    rwa [h.kind]
  obtain ⟨_, _, hfind', -⟩ := exists_find_of_kind hpresent
  exact (find_ok_iff.1 hfind').1

/-- In a tree whose entries all have short paths, every absolute path to an entry is spellable. -/
theorem spellable_of_short {p : Path} (habs : p.isAbsolute = true)
    (hshort : ∀ entry ∈ t.nodes, Utf8.size entry.1.toPath.render ≤ maxPathBytes)
    (hkind : t.kind cwd p ≠ .missing) : t.Spellable cwd p := by
  have hentry : ∀ place n, t.node? place = some n →
      Utf8.size place.toPath.render ≤ maxPathBytes := by
    intro place n hn
    cases place with
    | nil => decide
    | cons name above => exact hshort _ (mem_nodes_of_node? hn)
  constructor
  · intro v hv
    obtain ⟨n, hn⟩ := hv.exists_node
    rw [show Walked.start p = .root from if_pos habs] at hv
    rw [hv.path_eq rfl rfl]
    exact hentry _ n hn
  · intro place hfind
    obtain ⟨place', n, hfind', hn, -⟩ := exists_find_of_kind hkind
    cases hfind.symm.trans hfind'
    exact hentry _ n hn

/-- **Probes and the operating system.** Where the operating system finds an entry at a path, the
    canonicalization of that path succeeds, a probe reports the kind of the entry under a canonical
    path of that kind, and an argument for the path resolves to the entry, exactly if the path is
    spellable. -/
theorem probed_iff_spellable {t : Tree} {cwd : Place} {p : Text} (ht : t.Lawful)
    (hcwd : t.IsWorkingDir cwd) (hkind : t.kind cwd (Path.parse p) ≠ .missing) :
    (∃ c, t.Probed cwd p (t.kind cwd (Path.parse p)) c) ↔ t.Spellable cwd (Path.parse p) :=
  ⟨fun ⟨_, h⟩ => spellable_of_probed ht hkind h, probed_of_spellable ht hcwd hkind⟩

/-- A file behind a link, which leads out of its directory and back. -/
theorem probed_behind_link :
    let t : Tree := ⟨[(["work"], .directory), (["f", "work"], .file []),
      (["now"], .link "work/../work")]⟩
    t.Lawful ∧ t.IsWorkingDir ["work"] ∧ t.kind ["work"] (Path.parse "/now/f") ≠ .missing ∧
      t.Spellable ["work"] (Path.parse "/now/f") ∧ ∃ c, t.Probed ["work"] "/now/f" .file c := by
  intro t
  have ht : t.Lawful := lawful_of_nodes (by decide)
  have hcwd : t.IsWorkingDir ["work"] := by decide
  have hkind : t.kind ["work"] (Path.parse "/now/f") = .file := by cbv
  have hpresent : t.kind ["work"] (Path.parse "/now/f") ≠ .missing := by
    rw [hkind]
    decide
  have hspellable := spellable_of_short (by decide) (by decide) hpresent
  have hprobed := (probed_iff_spellable ht hcwd hpresent).2 hspellable
  rw [hkind] at hprobed
  exact ⟨ht, hcwd, hpresent, hspellable, hprobed⟩

/-! ## A file too deep to be asked for -/

/-- Ten directories with long names, one below the other. -/
def upperDirs : Place := List.replicate 10 (List.replicate 200 'd')

/-- Eleven more directories. -/
def lowerDirs : Place := List.replicate 11 (List.replicate 200 'e')

/-- The name of a link past the upper directories. -/
def linkName : Text := ['x']

/-- The name of a file in the lowest directory. -/
def fileName : Text := ['f']

/-- All these directories, the file and the link. -/
def deepTree : Tree :=
  ⟨([linkName], .link upperDirs.toPath.render) ::
    (fileName :: (lowerDirs ++ upperDirs), .file []) ::
    (lowerDirs ++ upperDirs).tails.map (·, .directory)⟩

/-- The path to the file through the link. -/
def deepPath : Text := Text.join ['/'] ([linkName] ++ lowerDirs.reverse ++ [fileName])

theorem size_replicate (n : Nat) (c : Char) :
    Utf8.size (List.replicate n c) = n * (Utf8.encodeChar c).length := by
  simp [Utf8.size, Utf8.encode]

theorem isFileName_replicate {c : Char} (h : c ∈ ['d', 'e']) :
    IsFileName (List.replicate 200 c) := by
  have hsize : Utf8.size (List.replicate 200 c) = 200 * (Utf8.encodeChar c).length :=
    size_replicate 200 c
  simp only [List.mem_cons, List.not_mem_nil, or_false] at h
  rcases h with rfl | rfl
  all_goals
    refine ⟨rfl, fun heq => absurd (List.cons.inj heq).1 (by decide), fun hmem => ?_,
      fun hmem => ?_, by rw [hsize]; decide⟩
    · exact absurd (List.eq_of_mem_replicate hmem) (by decide)
    · exact absurd (List.eq_of_mem_replicate hmem) (by decide)

/-- The names of the directories can be written, and none of them is the name of the link. -/
theorem legal_of_mem_dirs (h : name ∈ lowerDirs ++ upperDirs) :
    IsFileName name ∧ name ≠ linkName := by
  rcases List.mem_append.1 h with h | h
  · rw [List.eq_of_mem_replicate h]
    exact ⟨isFileName_replicate (by decide), by decide⟩
  · rw [List.eq_of_mem_replicate h]
    exact ⟨isFileName_replicate (by decide), by decide⟩

theorem lookup_map_of_mem {n : Node} {places : List Place} (h : place ∈ places) :
    (places.map (·, n)).lookup place = some n := by
  induction places with
  | nil => exact absurd h List.not_mem_nil
  | cons first places ih =>
    rw [List.map_cons, List.lookup_cons]
    by_cases hfirst : place = first
    · simp [hfirst]
    · rw [beq_eq_false_iff_ne.2 hfirst]
      exact ih ((List.mem_cons.1 h).resolve_left hfirst)

theorem node?_link : deepTree.node? [linkName] = some (.link upperDirs.toPath.render) := rfl

theorem node?_file : deepTree.node? (fileName :: (lowerDirs ++ upperDirs)) = some (.file []) := by
  have hlink : fileName :: (lowerDirs ++ upperDirs) ≠ [linkName] := fun h =>
    absurd (List.cons.inj h).1 (by decide)
  rw [node?, if_neg (List.cons_ne_nil _ _), deepTree, List.lookup_cons,
    beq_eq_false_iff_ne.2 hlink]
  exact List.lookup_cons_self

theorem node?_dirs (h : place <:+ lowerDirs ++ upperDirs) :
    deepTree.node? place = some .directory := by
  have hlink : place ≠ [linkName] := by
    rintro rfl
    exact (legal_of_mem_dirs (h.subset List.mem_cons_self)).2 rfl
  have hfile : place ≠ fileName :: (lowerDirs ++ upperDirs) := by
    rintro rfl
    exact absurd h.length_le (by simp)
  by_cases hroot : place = []
  · rw [hroot, node?_nil]
  · rw [node?, if_neg hroot, deepTree, List.lookup_cons, beq_eq_false_iff_ne.2 hlink]
    dsimp only
    rw [List.lookup_cons, beq_eq_false_iff_ne.2 hfile]
    exact lookup_map_of_mem ((List.mem_tails _ _).2 h)

theorem lawful_deepTree : deepTree.Lawful := by
  refine lawful_of_nodes fun entry hentry name hname => ?_
  rcases List.mem_cons.1 hentry with rfl | hentry
  · obtain rfl := Option.some.inj hname
    decide
  rcases List.mem_cons.1 hentry with rfl | hentry
  · obtain rfl := Option.some.inj hname
    decide
  · obtain ⟨place, hplace, rfl⟩ := List.mem_map.1 hentry
    have hmem := ((List.mem_tails _ _).1 hplace).subset (List.mem_of_mem_head? hname)
    exact (legal_of_mem_dirs hmem).1

theorem solid_lowerDirs : deepTree.Solid (lowerDirs ++ upperDirs) :=
  solid_of_directories fun _ => node?_dirs

theorem isFileName_of_mem_way (h : name ∈ linkName :: (lowerDirs.reverse ++ [fileName])) :
    IsFileName name := by
  simp only [List.mem_cons, List.mem_append, List.mem_reverse, List.not_mem_nil, or_false] at h
  rcases h with rfl | h | rfl
  · decide
  · exact (legal_of_mem_dirs (List.mem_append_left _ h)).1
  · decide

theorem parts_deepPath :
    (Path.parse deepPath).parts = linkName :: (lowerDirs.reverse ++ [fileName]) :=
  Path.partsOf_join fun _ hpart =>
    ⟨(isFileName_of_mem_way hpart).isName, (isFileName_of_mem_way hpart).slash_notMem⟩

theorem find_deepPath :
    deepTree.find [] (Path.parse deepPath) = .ok (fileName :: (lowerDirs ++ upperDirs)) := by
  have hx : IsFileName linkName := by decide
  have hf : IsFileName fileName := by decide
  have hdir : deepTree.node? (lowerDirs ++ upperDirs) = some .directory :=
    node?_dirs List.suffix_rfl
  have hnames : linkNames upperDirs.toPath.render = upperDirs.reverse := by decide +kernel
  have hstart : start [] (Path.parse deepPath) = [] := rfl
  have habs : Text.startsWith upperDirs.toPath.render ['/'] = true := rfl
  refine find_ok_iff.2 ⟨by decide +kernel, ?_⟩
  rw [parts_deepPath, hstart, maxLinks, walk_link (node?_nil _) hx node?_link, if_pos habs, hnames,
    ← List.append_assoc, ← List.reverse_append, walk_of_solid lawful_deepTree solid_lowerDirs,
    walk_entry hdir hf node?_file (by simp), walk]

/-- The file is met under a path that is too long. -/
theorem visits_deepPath :
    deepTree.Visits [] (.start (Path.parse deepPath)) (Path.parse deepPath).parts
      ⟨true, 0, fileName :: (lowerDirs ++ upperDirs)⟩ := by
  have hupper : deepTree.Solid upperDirs := solid_lowerDirs.of_suffix (List.suffix_append _ _)
  have hnames : Path.partsOf upperDirs.toPath.render = upperDirs.reverse :=
    hupper.partsOf_render_toPath lawful_deepTree
  have hstart : Walked.start (Path.parse deepPath) = .here := rfl
  have hrestart : Walked.here.restart upperDirs.toPath.render = .root := rfl
  rw [parts_deepPath, hstart]
  refine .link (by decide) node?_link ?_
  rw [hrestart, hnames, ← List.append_assoc, ← List.reverse_append]
  have hfile : deepTree.node? (fileName :: Walked.place [] ⟨true, 0, lowerDirs ++ upperDirs⟩) =
      some (.file []) := by
    rw [place_absolute, node?_file]
  exact .of_solid lawful_deepTree solid_lowerDirs (.here (by decide) hfile)

/-- The operating system finds a file that no canonical path leads to. -/
theorem deep_file_not_canonicalized :
    deepTree.Lawful ∧ deepTree.IsWorkingDir [] ∧
      deepTree.kind [] (Path.parse deepPath) = .file ∧
      ∀ c, deepTree.canonicalize [] deepPath ≠ .ok c := by
  have hnul : ∀ part ∈ (Path.parse deepPath).parts, Text.nul ∉ part := by
    rw [parts_deepPath]
    exact fun part hpart => (isFileName_of_mem_way hpart).nul_notMem
  refine ⟨lawful_deepTree, by decide, kind_of_find hnul find_deepPath node?_file, ?_⟩
  intro c hc
  obtain ⟨k, w, htraverses, -⟩ := canonicalize_ok_iff.1 hc
  have hshort := visits_deepPath.size_le htraverses
  exact absurd hshort (by decide +kernel)

end Pinpoint.Tree
