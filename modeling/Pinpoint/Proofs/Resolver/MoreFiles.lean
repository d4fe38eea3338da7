import Pinpoint.FileSystem.Table
import Pinpoint.Proofs.Resolver.Denotation

/-!
# Resolving with more files

Files that are added can change what an argument resolves to: a file of the very name
is preferred to a position in a shorter one, and a file in front of two numbers to one
in front of the last. They cannot make an argument fail. Whatever the search meets on
the way to a file that was there before, it either meets again or finds a file in its
place, and a file ends the search with success. A directory in its place would not: in
front of a position it ends the search with a failure.

* `FileSystem.AddsFiles`: two file systems of which the second has more files.
* `Table.addsFiles_addEntry`: such are tables before and after an entry for a file is put
  in.
* `AddsFiles.run_searchLineColumn`, `AddsFiles.run_resolveSuffix`: the first reading,
  and both together.
* `resolve_ok_of_addsFiles`: what resolves still resolves, and what was an entry without
  position stays that entry.
-/

namespace Pinpoint

/-! ## Specification -/

/-- Every path is found on the second file system as it is on the first, or else it was neither file
    nor directory there and is a file now. -/
def FileSystem.AddsFiles (fs fs' : FileSystem) : Prop :=
  ∀ path, (probe path).run fs' = (probe path).run fs ∨
    ∃ r c, fs.Finds path r ∧ r.specifier? = none ∧ fs'.Finds path (.file c)

variable {fs fs' : FileSystem} {t path : Text} {r : Probe} {s : Specifier}

/-! ## Tables with one more file -/

theorem Table.lookup_without {α : Type} (p n : Path) (rows : List (Path × α)) (h : p ≠ n) :
    (without n rows).lookup p = rows.lookup p := by
  induction rows with
  | nil => rfl
  | cons row rows ih =>
    unfold without at ih ⊢
    by_cases hrow : row.1 = n
    · have hne : (p == row.1) = false := by simpa [hrow] using h
      rw [List.filter_cons_of_neg (by simpa using hrow), ih, List.lookup_cons, hne]
    · rw [List.filter_cons_of_pos (by simpa using hrow), List.lookup_cons, List.lookup_cons, ih]

section

variable {tables : Table} {n : Path} (hn : (Path.parse path).normalize = n)
  (habove : Table.addAncestors n.ancestors tables.entries = tables.entries)
include hn habove

theorem Table.lookup_addEntry (k : EntryKind) (p : Path) :
    (tables.addEntry path k).entries.lookup p =
      if p = n then some k else tables.entries.lookup p := by
  subst hn
  change List.lookup p ((_, k) :: without _ (addAncestors _ _)) = _
  rw [habove, List.lookup_cons]
  by_cases hp : p = (Path.parse path).normalize
  · simp [hp]
  · rw [beq_false_of_ne hp, if_neg hp, lookup_without p _ _ hp]

theorem Table.kind_addEntry (k : EntryKind) (c : Path) :
    (tables.addEntry path k).kind c =
      if c.normalize = n ∧ c.normalize ∉ tables.vanished then k else tables.kind c := by
  have hkind : (tables.addEntry path k).kind c = if c.normalize ∈ tables.vanished then .missing
      else ((tables.addEntry path k).entries.lookup c.normalize).getD .missing := rfl
  rw [hkind, lookup_addEntry hn habove, kind]
  by_cases hgone : c.normalize ∈ tables.vanished
  · rw [if_pos hgone, if_pos hgone, if_neg fun h => h.2 hgone]
  · rw [if_neg hgone, if_neg hgone]
    by_cases hc : c.normalize = n
    · rw [if_pos hc, if_pos ⟨hc, hgone⟩, Option.getD_some]
    · rw [if_neg hc, if_neg fun h => hc h.1]

/-- Only the path of the new entry itself gets a canonical form. -/
theorem Table.canonicalize_addEntry (k : EntryKind) (asked : Text) :
    (tables.addEntry path k).toFileSystem.canonicalize asked =
        tables.toFileSystem.canonicalize asked ∨
      tables.toFileSystem.canonicalize asked = .error (.os (.noEntry asked)) ∧
        (tables.addEntry path k).toFileSystem.canonicalize asked = .ok n := by
  have hlookup := lookup_addEntry hn habove k
  dsimp only [toFileSystem, canonicalize]
  rw [show (tables.addEntry path k).failures = tables.failures from rfl,
    show (tables.addEntry path k).links = tables.links from rfl]
  cases tables.failures.lookup (Path.parse asked).normalize with
  | some e => exact .inl rfl
  | none =>
    cases follow tables.links (tables.links.length + 1) (Path.parse asked).normalize with
    | none => exact .inl rfl
    | some c =>
      dsimp only
      rw [hlookup]
      by_cases hc : c = n
      · subst hc
        cases tables.entries.lookup c with
        | none => exact .inr ⟨rfl, by simp⟩
        | some k => exact .inl (by simp)
      · rw [if_neg hc]
        exact .inl rfl

/-- An entry for a file where neither file nor directory was, with the directories above it in
    place, is one more file. -/
theorem Table.addsFiles_addEntry (hnormal : n.normalize = n)
    (hfree : tables.kind n ≠ .file ∧ tables.kind n ≠ .directory) :
    tables.toFileSystem.AddsFiles (tables.addEntry path .file).toFileSystem := by
  have hkind := kind_addEntry hn habove .file
  intro asked
  rcases canonicalize_addEntry hn habove .file asked with hsame | ⟨hbefore, hafter⟩
  · cases hc : tables.toFileSystem.canonicalize asked with
    | error refusal =>
      rw [hc] at hsame
      refine .inl ?_
      rw [probe, Inquiry.run, Inquiry.run, hsame, hc]
      cases refusal <;> rfl
    | ok c =>
      have hr := FileSystem.finds_of_canonicalize hc
      have hr' := FileSystem.finds_of_canonicalize (hsame.trans hc)
      rw [show (tables.addEntry path .file).toFileSystem.kind c = _ from hkind c] at hr'
      by_cases hnew : c.normalize = n ∧ c.normalize ∉ tables.vanished
      · rw [if_pos hnew] at hr'
        have hkindc : tables.kind c = tables.kind n := by rw [kind, kind, hnormal, hnew.1]
        refine .inr ⟨_, c, hr, ?_, hr'⟩
        rw [show tables.toFileSystem.kind c = tables.kind n from hkindc]
        cases hk : tables.kind n with
        | file => exact absurd hk hfree.1
        | directory => exact absurd hk hfree.2
        | other => rfl
        | missing => rfl
      · rw [if_neg hnew] at hr'
        exact .inl (Eq.trans hr' hr.symm)
  · have hr : tables.toFileSystem.Finds asked .missing := by
      rw [FileSystem.Finds, probe, Inquiry.run, hbefore]
      rfl
    have hr' := FileSystem.finds_of_canonicalize hafter
    rw [show (tables.addEntry path .file).toFileSystem.kind n = _ from hkind n] at hr'
    by_cases hgone : n ∈ tables.vanished
    · rw [hnormal, if_neg fun h => h.2 hgone, kind, hnormal, if_pos hgone] at hr'
      exact .inl (Eq.trans hr' hr.symm)
    · rw [hnormal, if_pos ⟨rfl, hgone⟩] at hr'
      exact .inr ⟨_, n, hr, rfl, hr'⟩

end

namespace FileSystem.AddsFiles

/-! ## One path -/

theorem finds_or_file (h : fs.AddsFiles fs') (hr : fs.Finds path r) :
    fs'.Finds path r ∨ ∃ c, fs'.Finds path (.file c) := by
  rcases h path with hsame | ⟨_, c, -, -, hfile⟩
  · exact .inl (hsame.trans hr)
  · exact .inr ⟨c, hfile⟩

/-- What was a file or a directory stays the same one. -/
theorem finds_of_specifier? (h : fs.AddsFiles fs') (hr : fs.Finds path r)
    (hs : r.specifier? = some s) : fs'.Finds path r := by
  rcases h path with hsame | ⟨r', _, hr', hnone, -⟩
  · exact hsame.trans hr
  · rw [hr'.unique hr, hs] at hnone
    cases hnone

theorem finds_file {c : Path} (h : fs.AddsFiles fs') (hr : fs.Finds path (.file c)) :
    fs'.Finds path (.file c) :=
  h.finds_of_specifier? hr rfl

/-! ## The search for a suffix -/

/-- Where the reading as `path:LINE:COLUMN` leaves the search open, it still does so, or it finds a
    file now. -/
theorem run_searchLineColumn (h : fs.AddsFiles fs') {pending : Pending}
    (hrun : (Straight.searchLineColumn t).run fs = .ok (.continued pending)) :
    (∃ pending', (Straight.searchLineColumn t).run fs' = .ok (.continued pending')) ∨
      ∃ path pos,
        (Straight.searchLineColumn t).run fs' = .ok (.settled (.ok (.file path (some pos)))) := by
  cases hm : lineColumn? t with
  | none =>
    rw [Straight.searchLineColumn, hm]
    exact .inl ⟨_, rfl⟩
  | some m =>
    by_cases hlo : IsOverlong m.line
    · rw [Straight.run_searchLineColumn_of_line_isOverlong fs hm hlo] at hrun
      cases hrun
    by_cases hco : IsOverlong m.column
    · rw [Straight.run_searchLineColumn_of_column_isOverlong fs hm hlo hco] at hrun
      cases hrun
    by_cases hn : IsNumber m.line ∧ IsNumber m.column
    · rw [Straight.run_searchLineColumn_of_isNumber fs hm hn.1 hn.2] at hrun
      rw [Straight.run_searchLineColumn_of_isNumber fs' hm hn.1 hn.2]
      by_cases ha : fs.Answers m.path
      · obtain ⟨r, hr⟩ := ha
        rw [run_tryPosition hr] at hrun
        -- only a vacant path leaves the search open, and a file in its place settles it
        have hvacant : r.path? = none := ofProbe_eq_continued_iff.1 ⟨_, Except.ok.inj hrun⟩
        rcases h.finds_or_file hr with hr' | ⟨c, hr'⟩
        · obtain ⟨pending', hpending'⟩ := ofProbe_eq_continued_iff.2 hvacant
          exact .inl ⟨pending', by rw [run_tryPosition hr', hpending']⟩
        · exact .inr ⟨c, _, run_tryPosition hr' _ _⟩
      · rw [run_tryPosition_of_not_answers ha] at hrun
        cases hrun
    · obtain ⟨_, -, hrun'⟩ := Straight.run_searchLineColumn_of_not fs' hm hlo hco hn
      exact .inl ⟨_, hrun'⟩

/-- A search that finds a position still finds one. -/
theorem run_resolveSuffix (h : fs.AddsFiles fs')
    (hrun : (Straight.resolveSuffix t).run fs = .ok (.ok s)) :
    ∃ path pos, (Straight.resolveSuffix t).run fs' = .ok (.ok (.file path (some pos))) := by
  simp only [run_straight_resolveSuffix_ok_iff] at hrun ⊢
  rcases hrun with hfirst | ⟨pending, hfirst, hsecond⟩
  · obtain ⟨p, l, c, path, ht, hp, hl, hc, hfile, -⟩ := run_searchLineColumn_settled_ok_iff.1 hfirst
    exact ⟨path, _, .inl (run_searchLineColumn_settled_ok_iff.2
      ⟨p, l, c, path, ht, hp, hl, hc, h.finds_file hfile, rfl⟩)⟩
  · obtain ⟨q, n, path, ht, hq, hn, hfile, -⟩ := run_resume_continued_ok_iff.1 hsecond
    rcases h.run_searchLineColumn hfirst with ⟨pending', hfirst'⟩ | ⟨path', pos, hfirst'⟩
    · exact ⟨path, _, .inr ⟨pending', hfirst', run_resume_continued_ok_iff.2
        ⟨q, n, path, ht, hq, hn, h.finds_file hfile, rfl⟩⟩⟩
    · exact ⟨path', pos, .inl hfirst'⟩

/-! ## The whole resolver -/

theorem position_of_specifier? (h : r.specifier? = some s) : s.position = none := by
  cases r <;> cases h <;> rfl

theorem position_of_run_resolveSuffix (h : (Straight.resolveSuffix t).run fs = .ok (.ok s)) :
    s.position ≠ none := by
  rcases run_straight_resolveSuffix_ok_iff.1 h with hfirst | ⟨_, -, hsecond⟩
  · obtain ⟨_, _, _, _, -, -, -, -, -, rfl⟩ := run_searchLineColumn_settled_ok_iff.1 hfirst
    exact Option.some_ne_none _
  · obtain ⟨_, _, _, -, -, -, -, rfl⟩ := run_resume_continued_ok_iff.1 hsecond
    exact Option.some_ne_none _

/-- An absolute argument that resolves still resolves: to the same specifier, or to a file where it
    was a position before. -/
theorem run_resolveAbsolute (h : fs.AddsFiles fs')
    (hrun : (resolveAbsolute t).run fs = .ok (.ok s)) :
    ∃ s', (resolveAbsolute t).run fs' = .ok (.ok s') ∧
      (s.position = none → s' = s) ∧ (s.position ≠ none → s'.kind = .file) := by
  by_cases ha : fs.Answers t
  · obtain ⟨r, hr⟩ := ha
    cases hs : r.specifier? with
    | some s₀ =>
      rw [run_resolveAbsolute_of_some hr hs] at hrun
      cases hrun
      have hpos : s.position = none := position_of_specifier? hs
      exact ⟨s, run_resolveAbsolute_of_some (h.finds_of_specifier? hr hs) hs, fun _ => rfl,
        fun hne => absurd hpos hne⟩
    | none =>
      rw [run_resolveAbsolute_of_none hr hs] at hrun
      have hpos : s.position ≠ none := position_of_run_resolveSuffix hrun
      rcases h.finds_or_file hr with hr' | ⟨c, hr'⟩
      · obtain ⟨path, pos, hrun'⟩ := h.run_resolveSuffix hrun
        exact ⟨_, (run_resolveAbsolute_of_none hr' hs).trans hrun', fun hnone => absurd hnone hpos,
          fun _ => rfl⟩
      · exact ⟨_, run_resolveAbsolute_of_some hr' rfl, fun hnone => absurd hnone hpos,
          fun _ => rfl⟩
  · rw [run_resolveAbsolute_of_not_answers ha] at hrun
    cases hrun

end FileSystem.AddsFiles

/-- **More files.** An argument that resolves on a file system resolves on every one with more
    files, in every context. What was an entry without position stays that entry, and in place of a
    position there is a file, with a position in it or without. -/
theorem resolve_ok_of_addsFiles {fs fs' : FileSystem} (h : fs.AddsFiles fs') (ctx : Context)
    (arg : Text) {s : Specifier} (hrun : (resolve ctx arg).run fs = .ok (.ok s)) :
    ∃ s', (resolve ctx arg).run fs' = .ok (.ok s') ∧
      (s.position = none → s' = s) ∧ (s.position ≠ none → s'.kind = .file) := by
  unfold resolve at hrun ⊢
  split_ifs at hrun ⊢
  · cases hrun
  · cases hrun
  · exact h.run_resolveAbsolute hrun

/-- A file in front of both numbers takes over from one whose own name ends in the first. -/
theorem shorter_file_added :
    let fs := (Table.addEntry "/work/a:3" .file {}).toFileSystem
    let more := (Table.addEntry "/work/a:3" .file {} |>.addEntry "/work/a" .file).toFileSystem
    let ctx : Context := ⟨⟨.slash, ["work"]⟩⟩
    fs.AddsFiles more ∧
      (resolve ctx "a:3:7").run fs =
        .ok (.ok (.file ⟨.slash, ["work", "a:3"]⟩ (some ⟨7, 1⟩))) ∧
      (∃ s', (resolve ctx "a:3:7").run more = .ok (.ok s') ∧ s'.kind = .file) ∧
      (resolve ctx "a:3:7").run more =
        .ok (.ok (.file ⟨.slash, ["work", "a"]⟩ (some ⟨3, 7⟩))) := by
  intro fs more ctx
  have hadds : fs.AddsFiles more :=
    Table.addsFiles_addEntry (n := ⟨.slash, ["work", "a"]⟩) (by decide) (by decide) (by decide)
      (by decide)
  have hrun : (resolve ctx "a:3:7").run fs =
      .ok (.ok (.file ⟨.slash, ["work", "a:3"]⟩ (some ⟨7, 1⟩))) := by decide
  obtain ⟨s', hs', -, hkind⟩ := resolve_ok_of_addsFiles hadds ctx "a:3:7" hrun
  exact ⟨hadds, hrun, ⟨s', hs', hkind (by decide)⟩, by decide⟩

/-- A directory in front of both numbers does not leave the argument resolvable. -/
example :
    let ctx : Context := ⟨⟨.slash, ["work"]⟩⟩
    let t : Table := Table.addEntry "/work/a:3" .file {}
    (resolve ctx "a:3:7").run (t.addEntry "/work/a" .directory).toFileSystem =
      .ok (.error (.ofNotAFile "/work/a:3:7" "/work/a")) := by
  decide

end Pinpoint
