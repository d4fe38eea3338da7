import Pinpoint.Proofs.Resolver.Candidates

/-!
# What it takes that nothing matches

A search that ends without a result reports what it remembers: a fragment that is no
number, or a path that cannot be examined. It says that nothing matches only where it
has nothing to remember. One finding is never remembered, that on the argument as it
stands, so that an entry which cannot be examined passes for one that is not there.

* `resolveSuffix_noMatch`: no candidate in front of a number was unreadable.
* `noMatch_unreadable_iff`: where nothing matches, only the argument itself can be.
-/

namespace Pinpoint

variable {fs : FileSystem} {ctx : Context} {arg t path : Text} {pending : Pending} {trial : Trial}
  {f : Failure}

/-! ## Specification -/

/-- Probing a path ends with a failure other than absence. -/
def FileSystem.Unreadable (fs : FileSystem) (path : Text) : Prop := ∃ e, fs.Finds path (.error e)

/-- What is remembered says more than that nothing matches. -/
structure Pending.Telling (pending : Pending) : Prop where
  parse : ∀ f, pending.parse = some f → f.kind ≠ .noMatch
  io : ∀ f, pending.io = some f → f.kind ≠ .noMatch

/-- A failure that has settled a search, or is remembered for its end, says more than that nothing
    matches. -/
def Trial.Telling : Trial → Prop
  | settled result => ∀ f, result = .error f → f.kind ≠ .noMatch
  | continued pending => pending.Telling

/-! ## What is remembered -/

namespace Pending

theorem telling_empty : Telling {} := ⟨by simp, by simp⟩

theorem Telling.addParse (h : pending.Telling) (hf : f.kind ≠ .noMatch) :
    (pending.addParse f).Telling := by
  refine ⟨fun g hg => ?_, h.io⟩
  cases hparse : pending.parse with
  | none =>
    rw [Pending.addParse, hparse] at hg
    cases hg
    exact hf
  | some first =>
    rw [Pending.addParse, hparse] at hg
    exact h.parse g (hparse.trans hg)

theorem Telling.addIO (h : pending.Telling) (hf : f.kind ≠ .noMatch) :
    (pending.addIO f).Telling := by
  refine ⟨h.parse, fun g hg => ?_⟩
  cases hio : pending.io with
  | none =>
    rw [Pending.addIO, hio] at hg
    cases hg
    exact hf
  | some first =>
    rw [Pending.addIO, hio] at hg
    exact h.io g (hio.trans hg)

/-- Nothing matches where nothing is remembered. -/
theorem Telling.eq_empty (h : pending.Telling) (hkind : (pending.failure t).kind = .noMatch) :
    pending = {} := by
  obtain ⟨parse, io⟩ := pending
  cases parse with
  | some f => exact absurd hkind (h.parse f rfl)
  | none =>
    cases io with
    | some f => exact absurd hkind (h.io f rfl)
    | none => rfl

theorem addParse_ne_empty : pending.addParse f ≠ {} := by
  obtain ⟨parse, io⟩ := pending
  cases parse <;> simp [addParse]

theorem addIO_ne_empty : pending.addIO f ≠ {} := by
  obtain ⟨parse, io⟩ := pending
  cases io <;> simp [addIO]

end Pending

theorem GroupFailure.kind_ne {l c : Text} (h : GroupFailure t l c f) : f.kind ≠ .noMatch := by
  cases h <;> exact FailureKind.noConfusion

/-! ## The two readings -/

theorem ofProbe_telling {r : Probe} {pos : Position} (h : pending.Telling) :
    (Trial.ofProbe t path pos pending r).Telling := by
  cases r with
  | file c => exact fun _ hf => by cases hf
  | directory c =>
    rintro _ ⟨⟩
    exact FailureKind.noConfusion
  | other c =>
    rintro _ ⟨⟩
    exact FailureKind.noConfusion
  | missing => exact h
  | error e => exact h.addIO FailureKind.noConfusion

theorem searchLineColumn_telling (h : (Straight.searchLineColumn t).run fs = .ok trial) :
    trial.Telling := by
  have hrun := Straight.lineColumnRun fs t
  rw [h] at hrun
  cases hrun with
  | absent _ => exact Pending.telling_empty
  | probed _ _ _ _ _ => exact ofProbe_telling Pending.telling_empty
  | refused _ _ _ _ hf => exact Pending.telling_empty.addParse hf.kind_ne

theorem searchLineOnly_telling (hpending : pending.Telling)
    (h : (searchLineOnly t pending).run fs = .ok trial) : trial.Telling := by
  have hrun := lineRun fs t pending
  rw [h] at hrun
  cases hrun with
  | absent _ => exact hpending
  | probed _ _ _ _ => exact ofProbe_telling hpending
  | refused _ _ _ _ _ => exact hpending.addParse FailureKind.noConfusion

/-- Once something is remembered, it stays so. -/
theorem eq_empty_of_searchLineOnly
    (h : (searchLineOnly t pending).run fs = .ok (.continued {})) : pending = {} := by
  have hrun := lineRun fs t pending
  generalize hresult : (searchLineOnly t pending).run fs = result at hrun
  rw [hresult] at h
  cases hrun with
  | absent _ =>
    cases h
    rfl
  | @probed q n r _ _ _ _ =>
    cases r with
    | missing =>
      cases h
      rfl
    | error e => exact absurd (Trial.continued.inj (Except.ok.inj h)) Pending.addIO_ne_empty
    | file c => cases h
    | directory c => cases h
    | other c => cases h
  | unanswered _ _ _ _ => cases h
  | refused _ _ _ _ _ =>
    exact absurd (Trial.continued.inj (Except.ok.inj h)) Pending.addParse_ne_empty
  | overlong _ _ _ => cases h

/-- A path that cannot be examined is remembered. -/
theorem ofProbe_ne_empty {e : OsError} {pos : Position} :
    Trial.ofProbe t path pos pending (.error e) ≠ .continued {} :=
  fun h => Pending.addIO_ne_empty (Trial.continued.inj h)

theorem not_unreadable_of_position {p l c : Text} (ht : t = p ++ ':' :: l ++ ':' :: c)
    (hp : p ≠ []) (hl : IsNumber l) (hc : IsNumber c)
    (h : (Straight.searchLineColumn t).run fs = .ok (.continued {})) : ¬ fs.Unreadable p := by
  rintro ⟨e, he⟩
  have hmatch := lineColumn?_append hp hl.digits.isGroup hc.digits.isGroup
  rw [← ht] at hmatch
  rw [Straight.run_searchLineColumn_of_isNumber fs hmatch hl hc, run_tryPosition he] at h
  exact ofProbe_ne_empty (Except.ok.inj h)

theorem not_unreadable_of_line {q n : Text} (ht : t = q ++ ':' :: n) (hq : q ≠ [])
    (hn : IsNumber n) (h : (searchLineOnly t pending).run fs = .ok (.continued {})) :
    ¬ fs.Unreadable q := by
  rintro ⟨e, he⟩
  have hmatch := lineOnly?_append hq hn.digits
  rw [← ht] at hmatch
  rw [run_searchLineOnly_of_isNumber fs hmatch hn, run_tryPosition he] at h
  exact ofProbe_ne_empty (Except.ok.inj h)

/-! ## The whole search -/

/-- Nothing matches only where both readings leave nothing to remember. -/
theorem continued_of_noMatch (h : (Straight.resolveSuffix t).run fs = .ok (.error f))
    (hkind : f.kind = .noMatch) :
    (Straight.searchLineColumn t).run fs = .ok (.continued {}) ∧
      (searchLineOnly t {}).run fs = .ok (.continued {}) := by
  obtain ⟨first, hfirst, hresume⟩ := Inquiry.run_bind_ok_iff.1 h
  have htells := searchLineColumn_telling hfirst
  cases first with
  | settled result =>
    obtain rfl : result = .error f := Except.ok.inj hresume
    exact absurd hkind (htells f rfl)
  | continued pending =>
    rw [resume_continued] at hresume
    obtain ⟨second, hsecond, hfinish⟩ := Inquiry.run_bind_ok_iff.1 hresume
    have htells' := searchLineOnly_telling htells hsecond
    have hfailure := Except.ok.inj hfinish
    cases second with
    | settled result => exact absurd hkind (htells' f hfailure)
    | continued pending' =>
      obtain rfl : pending'.failure t = f := Except.error.inj hfailure
      obtain rfl := Pending.Telling.eq_empty htells' hkind
      obtain rfl := eq_empty_of_searchLineOnly hsecond
      exact ⟨hfirst, hsecond⟩

/-- Where nothing matches, every candidate could be examined. -/
theorem resolveSuffix_noMatch (h : (Straight.resolveSuffix t).run fs = .ok (.error f))
    (hkind : f.kind = .noMatch) (hpath : Candidate t path) : ¬ fs.Unreadable path := by
  obtain ⟨hfirst, hsecond⟩ := continued_of_noMatch h hkind
  cases hpath with
  | position ht hp hl hc => exact not_unreadable_of_position ht hp hl hc hfirst
  | line ht hq hn => exact not_unreadable_of_line ht hq hn hsecond

/-- An argument of which nothing is found to match has been tried as it stands, and then with its
    suffixes. -/
theorem run_resolveSuffix_of_noMatch (h : (resolve ctx arg).run fs = .ok (.error f))
    (hkind : f.kind = .noMatch) :
    ctx.absolutize arg ∈ (resolve ctx arg).calls fs ∧
      (Straight.resolveSuffix (ctx.absolutize arg)).run fs = .ok (.error f) := by
  unfold resolve at h ⊢
  split_ifs at h ⊢ with hempty hnul
  · obtain rfl := Except.error.inj (Except.ok.inj h)
    exact FailureKind.noConfusion hkind
  · obtain rfl := Except.error.inj (Except.ok.inj h)
    exact FailureKind.noConfusion hkind
  · refine ⟨?_, ?_⟩
    · rw [resolveAbsolute, Inquiry.bind_eq, Inquiry.mem_calls_bind, calls_probe]
      exact .inl List.mem_cons_self
    · obtain ⟨r, hr, hrest⟩ := Inquiry.run_bind_ok_iff.1 h
      rw [← run_resolveSuffix]
      cases r with
      | file c => cases hrest
      | directory c => cases hrest
      | other c => exact hrest
      | missing => exact hrest
      | error e => exact hrest

/-- **Nothing matches.** Where an argument fails for the reason that nothing matches, every path
    that was probed could be examined, the absolute argument itself excepted. So a failure other
    than absence is passed over exactly where probing that argument ends with one. -/
theorem noMatch_unreadable_iff {fs : FileSystem} {ctx : Context} {arg : Text} {f : Failure}
    (h : (resolve ctx arg).run fs = .ok (.error f)) (hkind : f.kind = .noMatch) :
    (∀ path ∈ (resolve ctx arg).calls fs, fs.Unreadable path → path = ctx.absolutize arg) ∧
      ((∃ path ∈ (resolve ctx arg).calls fs, fs.Unreadable path) ↔
        fs.Unreadable (ctx.absolutize arg)) := by
  obtain ⟨hmem, hsuffix⟩ := run_resolveSuffix_of_noMatch h hkind
  have honly : ∀ path ∈ (resolve ctx arg).calls fs, fs.Unreadable path →
      path = ctx.absolutize arg := by
    intro path hpath hunreadable
    rcases mem_calls_resolve hpath with heq | hcandidate
    · exact heq
    · exact absurd hunreadable (resolveSuffix_noMatch hsuffix hkind hcandidate)
  refine ⟨honly, ?_, fun hunreadable => ⟨_, hmem, hunreadable⟩⟩
  rintro ⟨path, hpath, hunreadable⟩
  exact honly path hpath hunreadable ▸ hunreadable

/-- Nothing is there, and two candidates are probed. -/
theorem noMatch_of_missing_position :
    let fs := Table.toFileSystem {}
    let ctx : Context := ⟨⟨.slash, ["work"]⟩⟩
    (resolve ctx "a:5:5").run fs =
        .ok (.error { kind := .noMatch, argument := "/work/a:5:5".toList }) ∧
      (resolve ctx "a:5:5").calls fs =
        ["/work/a:5:5".toList, "/work/a".toList, "/work/a:5".toList, "/work/a:5".toList] ∧
      ∀ path ∈ (resolve ctx "a:5:5").calls fs,
        fs.Unreadable path → path = "/work/a:5:5".toList := by
  intro fs ctx
  have hrun : (resolve ctx "a:5:5").run fs =
      .ok (.error { kind := .noMatch, argument := "/work/a:5:5".toList }) := by decide
  exact ⟨hrun, by decide, (noMatch_unreadable_iff hrun rfl).1⟩

/-- A file that may not be examined passes for one that is not there. -/
theorem denied_file_passes_for_missing :
    let fs := (Table.addFailure "/work/a" ⟨13⟩ {}).toFileSystem
    let ctx : Context := ⟨⟨.slash, ["work"]⟩⟩
    (resolve ctx "a").run fs = .ok (.error { kind := .noMatch, argument := "/work/a".toList }) ∧
      "/work/a".toList ∈ (resolve ctx "a").calls fs ∧ fs.Unreadable "/work/a" := by
  intro fs ctx
  exact ⟨by decide, by decide, _, rfl⟩

end Pinpoint
