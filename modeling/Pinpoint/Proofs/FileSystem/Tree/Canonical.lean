import Mathlib
import Pinpoint.Proofs.FileSystem.Tree.Traversal
import Pinpoint.Proofs.Resolver.RoundTrip

/-!
# Resolved paths are canonical

What resolving finds in a tree, it finds under the canonical path of a candidate, whose
kind is asked for on its own. The canonical path is that of a solid place, and its kind
is only known if it is short enough to be asked for. Such a path is its own canonical
path.

* `Tree.exists_solid_of_canonicalize`: canonical paths name solid places.
* `Tree.canonicalize_toPath`: the short path of a solid place is canonical.
* `Tree.resolve_canonical`: the path of a specifier is canonical and free of links.
-/

namespace Pinpoint

/-- The kind of the entries that specifiers of a kind name. -/
def SpecifierKind.entryKind : SpecifierKind → EntryKind
  | .file => .file
  | .directory => .directory

theorem SpecifierKind.entryKind_ne_missing (k : SpecifierKind) : k.entryKind ≠ .missing := by
  cases k <;> decide

namespace Tree

variable {t : Tree} {cwd place : Place} {p c : Path} {arg : Text}

/-! ## Kinds -/

theorem find_ok_iff :
    t.find cwd p = .ok place ↔
      Utf8.size p.render ≤ maxPathBytes ∧ t.walk maxLinks (start cwd p) p.parts = .ok place := by
  rw [find, ensureLength]
  split_ifs with hlength
  · constructor
    · intro h
      cases h
    · rintro ⟨hle, -⟩
      omega
  · exact ⟨fun h => ⟨Nat.not_lt.1 hlength, h⟩, fun h => h.2⟩

theorem kind_of_find {n : Node} (hnul : ∀ part ∈ p.parts, Text.nul ∉ part)
    (hfind : t.find cwd p = .ok place) (hn : t.node? place = some n) :
    t.kind cwd p = Node.kind n := by
  have hparts : ¬ p.parts.any (Text.nul ∈ ·) = true := by simpa using hnul
  rw [kind, if_neg hparts, stat]
  simp only [hfind, hn]

/-- A path that is not missing leads to an entry, whose kind it has. -/
theorem exists_find_of_kind (h : t.kind cwd p ≠ .missing) :
    ∃ place n, t.find cwd p = .ok place ∧ t.node? place = some n ∧ t.kind cwd p = Node.kind n ∧
      ∀ part ∈ p.parts, Text.nul ∉ part := by
  by_cases hparts : p.parts.any (Text.nul ∈ ·) = true
  · rw [kind, if_pos hparts] at h
    exact absurd rfl h
  have hnul : ∀ part ∈ p.parts, Text.nul ∉ part := by simpa using hparts
  rw [kind, if_neg hparts, stat] at h
  cases hfind : t.find cwd p with
  | error fault => simp [hfind] at h
  | ok place =>
    cases hn : t.node? place with
    | none => simp [hfind, hn] at h
    | some n => exact ⟨place, n, rfl, hn, kind_of_find hnul hfind hn, hnul⟩

/-! ## Canonical paths and solid places -/

theorem solid_start (hcwd : t.Solid cwd) (p : Path) : t.Solid ((Walked.start p).place cwd) := by
  rw [place_start]
  unfold start
  split
  · exact solid_nil
  · exact hcwd

/-- What a canonical path names is solid. -/
theorem exists_solid_of_canonicalize (hcwd : t.Solid cwd) (h : t.canonicalize cwd arg = .ok c) :
    ∃ place, t.Solid place ∧ c = place.toPath := by
  obtain ⟨k, w, htraverses, rfl⟩ := canonicalize_ok_iff.1 h
  exact ⟨_, htraverses.solid (solid_start hcwd _), rfl⟩

/-- The names of a solid place are traversed without following a link. -/
theorem traverses_of_solid (ht : t.Lawful) (h : t.Solid place)
    (hshort : Utf8.size place.toPath.render ≤ maxPathBytes) :
    t.Traverses cwd 0 .root place.reverse ⟨true, 0, place⟩ := by
  induction place with
  | nil => exact .nil
  | cons name above ih =>
    have habove := ih h.of_cons ((size_render_toPath_le name above).trans hshort)
    obtain ⟨n, hn, hlink⟩ := h.exists_node
    have hplace := place_absolute cwd above
    have hlook : t.look cwd (Walked.child ⟨true, 0, above⟩ name) = .ok n :=
      look_child ht hshort (by rw [hplace, h.directory_of_cons]) (by rw [hplace, hn])
    rw [List.reverse_cons]
    exact habove.append (.entry (ht name above n hn).ne_up hlook hlink .nil)

/-- The path of a solid place is its own canonical path, if it is short enough to be looked at. -/
theorem canonicalize_toPath (ht : t.Lawful) (h : t.Solid place)
    (hshort : Utf8.size place.toPath.render ≤ maxPathBytes) :
    t.canonicalize cwd place.toPath.render = .ok place.toPath := by
  rw [canonicalize_ok_iff, h.parse_render_toPath ht]
  refine ⟨0, ⟨true, 0, place⟩, traverses_of_solid ht h hshort, ?_⟩
  rw [place_absolute]

/-! ## Resolving in a tree -/

theorem path?_finding (s : Specifier) : s.finding.path? = some s.path := by
  cases s <;> rfl

theorem finding_eq_ofKind_iff {s : Specifier} {k : EntryKind} :
    s.finding = .ofKind s.path k ↔ k = s.kind.entryKind := by
  cases s <;> cases k <;>
    simp [Specifier.finding, Specifier.path, Specifier.kind, Probe.ofKind,
      SpecifierKind.entryKind]

/-- **Canonical paths.** What resolving finds in a tree has an absolute path that is its own
    canonical path, in which no name is `..` and nothing on the way is a symbolic link, and the
    entry there is of the kind that is reported. Relative paths start from a directory that is
    known without links. -/
theorem resolve_canonical {t : Tree} {cwd : Place} {ctx : Context} {arg : Text} {s : Specifier}
    (ht : t.Lawful) (hcwd : t.IsWorkingDir cwd)
    (h : (resolve ctx arg).run (t.toFileSystem cwd) = .ok (.ok s)) :
    s.path.isAbsolute = true ∧ t.canonicalize cwd s.path.render = .ok s.path ∧
      (∀ name ∈ s.path.parts, name ≠ Path.up) ∧
      (∀ place, place <:+ Place.ofPath s.path →
        ∃ n, t.node? place = some n ∧ ∀ target, n ≠ .link target) ∧
      t.kind cwd s.path = s.kind.entryKind := by
  obtain ⟨candidate, hfinds⟩ := (denotes_of_run_resolve h).exists_finds
  obtain ⟨hcanonical, hfinding⟩ := hfinds.canonicalize_of_path? (path?_finding s)
  have hkind : t.kind cwd s.path = s.kind.entryKind := finding_eq_ofKind_iff.1 hfinding
  obtain ⟨place, hsolid, hplace⟩ := exists_solid_of_canonicalize hcwd.solid hcanonical
  have hpresent : t.kind cwd s.path ≠ .missing := by
    rw [hkind]
    exact s.kind.entryKind_ne_missing
  obtain ⟨_, _, hfind, -⟩ := exists_find_of_kind hpresent
  obtain ⟨hshort, -⟩ := find_ok_iff.1 hfind
  rw [hplace] at hshort hkind ⊢
  have hofPath : Place.ofPath place.toPath = place := List.reverse_reverse place
  refine ⟨isAbsolute_toPath place, canonicalize_toPath ht hsolid hshort, ?_, ?_, hkind⟩
  · intro name hname
    exact (hsolid.isFileName ht name (List.mem_reverse.1 hname)).ne_up
  · intro above habove
    rw [hofPath] at habove
    exact (hsolid.of_suffix habove).exists_node

/-- A file behind three links, one of them to a directory that the path goes back out of. -/
theorem resolve_canonical_behind_links :
    let t : Tree := ⟨[(["work"], .directory), (["a:1", "work"], .file []),
      (["now"], .link "work/../work"), (["l", "work"], .link "/now/a:1")]⟩
    let ctx : Context := ⟨⟨.slash, ["now"]⟩⟩
    let s : Specifier := .file ⟨.slash, ["work", "a:1"]⟩ (some ⟨7, 1⟩)
    t.Lawful ∧ t.IsWorkingDir ["work"] ∧
      (resolve ctx "l:7").run (t.toFileSystem ["work"]) = .ok (.ok s) ∧
      t.canonicalize ["work"] "/work/a:1" = .ok s.path ∧
      t.kind ["work"] s.path = .file := by
  intro t ctx s
  have ht : t.Lawful := lawful_of_nodes (by decide)
  have hcwd : t.IsWorkingDir ["work"] := by decide
  have hrun : (resolve ctx "l:7").run (t.toFileSystem ["work"]) = .ok (.ok s) := by cbv
  obtain ⟨-, hcanonical, -, -, hkind⟩ := resolve_canonical ht hcwd hrun
  exact ⟨ht, hcwd, hrun, hcanonical, hkind⟩

end Tree

end Pinpoint
