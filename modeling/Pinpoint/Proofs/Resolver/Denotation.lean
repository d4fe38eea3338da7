import Pinpoint.Proofs.Resolver.Straight

/-!
# What an argument denotes

`Denotes fs t s` tells, without the search, which specifier a text names: the entry
of that very name, or else the file in front of `:LINE:COLUMN`, or else the file in
front of `:LINE`, if nothing stands in front of both groups.

* `resolve_ok_iff`: resolving succeeds exactly with what the argument denotes.
-/

namespace Pinpoint

/-! ## Specification -/

/-- No digits at the end of a text are too many to be converted: neither those behind the last colon
    nor those between the last two. -/
structure Convertible (t : Text) : Prop where
  last : ∀ q n, t = q ++ ':' :: n → ¬ IsOverlong n
  between : ∀ p l c, t = p ++ ':' :: l ++ ':' :: c → ':' ∉ c → ¬ IsOverlong l

theorem convertible_of_length_le {t : Text} (h : t.length ≤ Decimal.digitLimit) :
    Convertible t := by
  constructor
  · rintro q n rfl hn
    have hlt := hn.lt_length
    simp only [List.length_append, List.length_cons] at h
    omega
  · rintro p l c rfl - hl
    have hlt := hl.lt_length
    simp only [List.length_append, List.length_cons] at h
    omega

/-- Probing a path ends and finds nothing there: the path is missing or cannot be examined. -/
def FileSystem.Vacant (fs : FileSystem) (path : Text) : Prop :=
  ∃ r, fs.Finds path r ∧ r.path? = none

/-- The specifier that a text names. Each way to name one presupposes that the ways before it do
    not apply: a probe of the text itself finds neither file nor directory, and a path in front of
    two numbers is vacant. -/
inductive Denotes (fs : FileSystem) (t : Text) : Specifier → Prop
  | file {c : Path} (h : fs.Finds t (.file c)) : Denotes fs t (.file c none)
  | directory {c : Path} (h : fs.Finds t (.directory c)) : Denotes fs t (.directory c)
  | position {r : Probe} {p l c : Text} {path : Path} (hr : fs.Finds t r)
      (hs : r.specifier? = none) (ht : t = p ++ ':' :: l ++ ':' :: c) (hp : p ≠ [])
      (hl : IsNumber l) (hc : IsNumber c) (hpath : fs.Finds p (.file path)) :
    Denotes fs t (.file path (some ⟨Decimal.value l, Decimal.value c⟩))
  | line {r : Probe} {q n : Text} {path : Path} (hr : fs.Finds t r) (hs : r.specifier? = none)
      (ht : t = q ++ ':' :: n) (hq : q ≠ []) (hn : IsNumber n) (hpath : fs.Finds q (.file path))
      (hfree : ∀ p l, q = p ++ ':' :: l → p ≠ [] → IsNumber l → fs.Vacant p) :
    Denotes fs t (.file path (some ⟨Decimal.value n, 1⟩))

/-! ## The reading as `path:LINE:COLUMN` -/

variable {fs : FileSystem} {t : Text}

theorem ofProbe_eq_continued_iff {t path : Text} {pos : Position} {pending : Pending} {r : Probe} :
    (∃ pending', Trial.ofProbe t path pos pending r = .continued pending') ↔ r.path? = none := by
  cases r <;> simp [Trial.ofProbe, Probe.path?]

theorem ofProbe_eq_settled_ok_iff {t path : Text} {pos : Position} {pending : Pending} {r : Probe}
    {s : Specifier} :
    Trial.ofProbe t path pos pending r = .settled (.ok s) ↔
      ∃ c, r = .file c ∧ s = .file c (some pos) := by
  cases r <;> simp [Trial.ofProbe, eq_comm]

/-- Where the first reading does not settle the search, the path in front of two numbers is
    vacant. -/
theorem vacant_of_continued {p l c : Text} {pending : Pending}
    (h : (Straight.searchLineColumn (p ++ ':' :: l ++ ':' :: c)).run fs = .ok (.continued pending))
    (hp : p ≠ []) (hl : IsNumber l) (hc : IsNumber c) : fs.Vacant p := by
  rw [Straight.run_searchLineColumn_of_isNumber fs
    (lineColumn?_append hp hl.digits.isGroup hc.digits.isGroup) hl hc] at h
  by_cases ha : fs.Answers p
  · obtain ⟨r, hr⟩ := ha
    rw [run_tryPosition hr] at h
    exact ⟨r, hr, ofProbe_eq_continued_iff.1 ⟨pending, Except.ok.inj h⟩⟩
  · rw [run_tryPosition_of_not_answers ha] at h
    cases h

/-- Where every path in front of two numbers is vacant, the first reading leaves the search open. -/
theorem continued_of_vacant (hconv : Convertible t)
    (h : ∀ p l c, t = p ++ ':' :: l ++ ':' :: c → p ≠ [] → IsNumber l → IsNumber c → fs.Vacant p) :
    ∃ pending, (Straight.searchLineColumn t).run fs = .ok (.continued pending) := by
  have hrun := Straight.lineColumnRun fs t
  generalize (Straight.searchLineColumn t).run fs = result at hrun ⊢
  cases hrun with
  | absent _ => exact ⟨_, rfl⟩
  | probed ht hp hl hc hr =>
    obtain ⟨r, hr', hvacant⟩ := h _ _ _ ht hp hl hc
    obtain rfl := hr.unique hr'
    obtain ⟨pending, hpending⟩ := ofProbe_eq_continued_iff.2 hvacant
    exact ⟨pending, congrArg Except.ok hpending⟩
  | unanswered ht hp hl hc hr =>
    obtain ⟨r, hr', -⟩ := h _ _ _ ht hp hl hc
    exact absurd ⟨r, hr'⟩ hr
  | refused _ _ _ _ _ => exact ⟨_, rfl⟩
  | overlongLine ht _ hl hc => exact absurd hl (hconv.between _ _ _ ht hc.colon_notMem)
  | overlongColumn ht _ _ _ hc => exact absurd hc (hconv.last _ _ ht)

/-! ## The reading as `path:LINE` -/

theorem finish_eq_ok_iff {trial : Trial} {s : Specifier} :
    trial.finish t = .ok s ↔ trial = .settled (.ok s) := by
  cases trial <;> simp [Trial.finish]

/-- What the second reading finds does not depend on what is remembered of the first. -/
theorem run_resume_continued_ok_iff {pending : Pending} {s : Specifier} :
    (Trial.resume t (.continued pending)).run fs = .ok (.ok s) ↔
      ∃ q n path, t = q ++ ':' :: n ∧ q ≠ [] ∧ IsNumber n ∧ fs.Finds q (.file path) ∧
        s = .file path (some ⟨Decimal.value n, 1⟩) := by
  rw [resume_continued, Inquiry.run_bind_ok_iff]
  simp only [Inquiry.run_answer, Except.ok.injEq, finish_eq_ok_iff, exists_eq_right]
  constructor
  · intro h
    have hrun := lineRun fs t pending
    rw [h] at hrun
    generalize htrial : Trial.settled (.ok s) = trial at hrun
    cases hrun with
    | absent _ => cases htrial
    | probed ht hq hn hr =>
      obtain ⟨path, rfl, rfl⟩ := ofProbe_eq_settled_ok_iff.1 htrial.symm
      exact ⟨_, _, path, ht, hq, hn, hr, rfl⟩
    | refused _ _ _ _ _ => cases htrial
  · rintro ⟨q, n, path, rfl, hq, hn, hr, rfl⟩
    rw [run_searchLineOnly_of_isNumber fs (lineOnly?_append hq hn.digits) hn, run_tryPosition hr]
    rfl

/-! ## The whole search -/

/-- The search settles on a specifier with one of its two readings. -/
theorem run_straight_resolveSuffix_ok_iff {s : Specifier} :
    (Straight.resolveSuffix t).run fs = .ok (.ok s) ↔
      (Straight.searchLineColumn t).run fs = .ok (.settled (.ok s)) ∨
        ∃ pending, (Straight.searchLineColumn t).run fs = .ok (.continued pending) ∧
          (Trial.resume t (.continued pending)).run fs = .ok (.ok s) := by
  rw [Straight.resolveSuffix, Inquiry.bind_eq, Inquiry.run_bind_ok_iff]
  constructor
  · rintro ⟨trial, htrial, hresume⟩
    cases trial with
    | settled result =>
      rw [resume_settled, Inquiry.run_answer] at hresume
      cases hresume
      exact .inl htrial
    | continued pending => exact .inr ⟨pending, htrial, hresume⟩
  · rintro (h | ⟨pending, htrial, hresume⟩)
    · exact ⟨_, h, rfl⟩
    · exact ⟨_, htrial, hresume⟩

theorem run_searchLineColumn_settled_ok_iff {s : Specifier} :
    (Straight.searchLineColumn t).run fs = .ok (.settled (.ok s)) ↔
      ∃ p l c path, t = p ++ ':' :: l ++ ':' :: c ∧ p ≠ [] ∧ IsNumber l ∧ IsNumber c ∧
        fs.Finds p (.file path) ∧ s = .file path (some ⟨Decimal.value l, Decimal.value c⟩) := by
  constructor
  · intro h
    have hrun := Straight.lineColumnRun fs t
    rw [h] at hrun
    generalize htrial : Trial.settled (.ok s) = trial at hrun
    cases hrun with
    | absent _ => cases htrial
    | probed ht hp hl hc hr =>
      obtain ⟨path, rfl, rfl⟩ := ofProbe_eq_settled_ok_iff.1 htrial.symm
      exact ⟨_, _, _, path, ht, hp, hl, hc, hr, rfl⟩
    | refused _ _ _ _ _ => cases htrial
  · rintro ⟨p, l, c, path, rfl, hp, hl, hc, hr, rfl⟩
    rw [Straight.run_searchLineColumn_of_isNumber fs
      (lineColumn?_append hp hl.digits.isGroup hc.digits.isGroup) hl hc, run_tryPosition hr]
    rfl

/-- Whatever an absolute argument resolves to, it denotes. This needs no bound on its digits. -/
theorem denotes_of_run_resolveAbsolute {s : Specifier}
    (h : (resolveAbsolute t).run fs = .ok (.ok s)) : Denotes fs t s := by
  by_cases ha : fs.Answers t
  · obtain ⟨r, hr⟩ := ha
    cases hs : r.specifier? with
    | some s' =>
      rw [run_resolveAbsolute_of_some hr hs] at h
      cases h
      cases r <;> cases hs
      · exact .file hr
      · exact .directory hr
    | none =>
      rw [run_resolveAbsolute_of_none hr hs, run_straight_resolveSuffix_ok_iff] at h
      rcases h with h | ⟨pending, hfirst, hsecond⟩
      · obtain ⟨p, l, c, path, ht, hp, hl, hc, hpath, rfl⟩ :=
          run_searchLineColumn_settled_ok_iff.1 h
        exact .position hr hs ht hp hl hc hpath
      · obtain ⟨q, n, path, ht, hq, hn, hpath, rfl⟩ := run_resume_continued_ok_iff.1 hsecond
        refine .line hr hs ht hq hn hpath ?_
        rintro p l rfl hp hl
        rw [ht] at hfirst
        exact vacant_of_continued hfirst hp hl hn
  · rw [run_resolveAbsolute_of_not_answers ha] at h
    cases h

/-- The search finds whatever an absolute argument denotes. -/
theorem run_resolveAbsolute_of_denotes (hconv : Convertible t) {s : Specifier}
    (h : Denotes fs t s) : (resolveAbsolute t).run fs = .ok (.ok s) := by
  cases h with
  | file hr => exact run_resolveAbsolute_of_some hr rfl
  | directory hr => exact run_resolveAbsolute_of_some hr rfl
  | position hr hs ht hp hl hc hpath =>
    rw [run_resolveAbsolute_of_none hr hs, run_straight_resolveSuffix_ok_iff]
    exact .inl (run_searchLineColumn_settled_ok_iff.2 ⟨_, _, _, _, ht, hp, hl, hc, hpath, rfl⟩)
  | @line r q n path hr hs ht hq hn hpath hfree =>
    have hvacant : ∀ p l c, t = p ++ ':' :: l ++ ':' :: c → p ≠ [] → IsNumber l → IsNumber c →
        fs.Vacant p := by
      intro p l c ht' hp hl hc
      obtain ⟨hq', -⟩ :=
        append_colon_inj (ht.symm.trans ht') hn.digits.colon_notMem hc.digits.colon_notMem
      exact hfree p l hq' hp hl
    obtain ⟨pending, hpending⟩ := continued_of_vacant hconv hvacant
    rw [run_resolveAbsolute_of_none hr hs, run_straight_resolveSuffix_ok_iff]
    exact .inr ⟨pending, hpending,
      run_resume_continued_ok_iff.2 ⟨q, n, path, ht, hq, hn, hpath, rfl⟩⟩

/-- Whatever an argument resolves to, its absolute text denotes. -/
theorem denotes_of_run_resolve {ctx : Context} {arg : Text} {s : Specifier}
    (h : (resolve ctx arg).run fs = .ok (.ok s)) : Denotes fs (ctx.absolutize arg) s := by
  by_cases hne : arg = []
  · rw [resolve, if_pos hne] at h
    cases h
  by_cases hnul : Text.nul ∈ arg
  · rw [resolve, if_neg hne, if_pos hnul] at h
    cases h
  rw [resolve_of_ne_nil ctx hne hnul] at h
  exact denotes_of_run_resolveAbsolute h

/-- **Success.** Resolving a non-empty argument without NUL succeeds with a specifier exactly where
    the absolute argument denotes that specifier, on every file system and in every context, unless
    digits at the end of the argument are too many to be converted. -/
theorem resolve_ok_iff {fs : FileSystem} {ctx : Context} {arg : Text} (harg : arg ≠ [])
    (hnul : Text.nul ∉ arg) (hconv : Convertible (ctx.absolutize arg)) (s : Specifier) :
    (resolve ctx arg).run fs = .ok (.ok s) ↔ Denotes fs (ctx.absolutize arg) s := by
  rw [resolve_of_ne_nil ctx harg hnul]
  constructor
  · intro h
    exact denotes_of_run_resolveAbsolute h
  · intro h
    exact run_resolveAbsolute_of_denotes hconv h

/-- A file whose own name ends in a number, at a line: nothing stands in front of that number. -/
theorem denotes_line_of_numbered_file :
    let fs := (Table.addEntry "/work/a:1" .file {}).toFileSystem
    let ctx : Context := ⟨⟨.slash, ["work"]⟩⟩
    ("a:1:7" : Text) ≠ [] ∧ Text.nul ∉ ("a:1:7" : Text) ∧ Convertible (ctx.absolutize "a:1:7") ∧
      Denotes fs (ctx.absolutize "a:1:7") (.file ⟨.slash, ["work", "a:1"]⟩ (some ⟨7, 1⟩)) := by
  intro fs ctx
  have harg : ("a:1:7" : Text) ≠ [] := by decide
  have hnul : Text.nul ∉ ("a:1:7" : Text) := by decide
  have hconv : Convertible (ctx.absolutize "a:1:7") := convertible_of_length_le (by decide)
  exact ⟨harg, hnul, hconv, (resolve_ok_iff harg hnul hconv _).1 (by decide)⟩

end Pinpoint
