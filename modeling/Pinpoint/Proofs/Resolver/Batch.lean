import Mathlib.Data.List.Forall2
import Pinpoint.Proofs.Path.Characters
import Pinpoint.Proofs.Resolver.Straight

/-!
# Batches

A batch resolves its arguments one after the other and keeps what each comes to. It
is lost as a whole where a single argument ends in a crash instead of a specifier or
a failure. On a file system that fails only with errors of the operating system one
kind of argument does that: one at whose end more digits stand than are converted.

* `run_resolve_of_spoils`, `run_resolve_of_not_spoils`: which arguments crash.
* `run_resolveEach_ok_iff`, `run_resolveEach_error_iff`: what a batch comes to, by
  what its arguments come to alone.
* `resolveAll_spoiled_or_settled`: a batch settles every argument unless one of them
  spoils it.
-/

namespace Pinpoint

/-! ## Specification -/

/-- A file system that fails only with errors of the operating system. Of a path with a NUL
    character nothing is promised. -/
def FileSystem.Reliable (fs : FileSystem) : Prop := ∀ path, Text.nul ∉ path → fs.Answers path

/-- More digits than are converted stand at the end of a text: as the number of `path:LINE`, or as
    the line group of `path:LINE:COLUMN`. -/
def HitsLimit (t : Text) : Prop :=
  (∃ q n, t = q ++ ':' :: n ∧ q ≠ [] ∧ IsOverlong n) ∨
    ∃ p l c, t = p ++ ':' :: l ++ ':' :: c ∧ p ≠ [] ∧ IsOverlong l ∧ IsGroup c

/-- An argument that ends the whole batch. -/
structure Spoils (fs : FileSystem) (ctx : Context) (arg : Text) : Prop where
  ne_nil : arg ≠ []
  nul_notMem : Text.nul ∉ arg
  undetermined : ∀ r, fs.Finds (ctx.absolutize arg) r → r.specifier? = none
  hitsLimit : HitsLimit (ctx.absolutize arg)

/-- An outcome keeps its argument and has the result of resolving it alone. -/
structure Settles (fs : FileSystem) (ctx : Context) (arg : Text) (o : Outcome) : Prop where
  argument_eq : o.argument = arg
  run_eq : (resolve ctx arg).run fs = .ok o.result

/-! ## The search -/

variable {fs : FileSystem} {ctx : Context} {t arg : Text}

theorem HitsLimit.lt_length (h : HitsLimit t) : Decimal.digitLimit < t.length := by
  rcases h with ⟨q, n, rfl, -, hn⟩ | ⟨p, l, c, rfl, -, hl, -⟩
  · have hlt := hn.lt_length
    simp only [List.length_append, List.length_cons]
    omega
  · have hlt := hl.lt_length
    simp only [List.length_append, List.length_cons]
    omega

/-- An overlong number at the very end is met by one reading or the other. -/
theorem run_straight_resolveSuffix_of_last_isOverlong {q n : Text} (ht : t = q ++ ':' :: n)
    (hq : q ≠ []) (hn : IsOverlong n) :
    ∃ digits, (Straight.resolveSuffix t).run fs = .error (.digitLimit digits) := by
  have hline : lineOnly? t = some ⟨t, q, n⟩ := ht ▸ lineOnly?_append hq hn.digits
  have hresume : ∀ pending,
      (Trial.resume t (.continued pending)).run fs = .error (.digitLimit n.length) :=
    fun pending =>
      Inquiry.run_bind_of_error (run_searchLineOnly_of_isOverlong fs hline hn pending)
  -- No number stands in front of the end, so the first reading has nothing to probe.
  have hlast : ∀ {p l c : Text}, t = p ++ ':' :: l ++ ':' :: c → ¬ IsNumber c := by
    intro p l c ht' hc
    obtain ⟨-, rfl⟩ :=
      append_colon_inj (ht.symm.trans ht') hn.digits.colon_notMem hc.digits.colon_notMem
    exact hc.not_isOverlong hn
  have hrun := Straight.lineColumnRun fs t
  unfold Straight.resolveSuffix
  rw [Inquiry.bind_eq]
  generalize hfirst : (Straight.searchLineColumn t).run fs = result at hrun
  cases hrun with
  | absent _ => exact ⟨_, (Inquiry.run_bind_of_ok hfirst).trans (hresume _)⟩
  | probed ht' _ _ hc _ => exact absurd hc (hlast ht')
  | unanswered ht' _ _ hc _ => exact absurd hc (hlast ht')
  | refused _ _ _ _ _ => exact ⟨_, (Inquiry.run_bind_of_ok hfirst).trans (hresume _)⟩
  | overlongLine _ _ _ _ => exact ⟨_, Inquiry.run_bind_of_error hfirst⟩
  | overlongColumn _ _ _ _ _ => exact ⟨_, Inquiry.run_bind_of_error hfirst⟩

theorem run_straight_resolveSuffix_of_hitsLimit (h : HitsLimit t) :
    ∃ digits, (Straight.resolveSuffix t).run fs = .error (.digitLimit digits) := by
  rcases h with ⟨q, n, ht, hq, hn⟩ | ⟨p, l, c, rfl, hp, hl, hc⟩
  · exact run_straight_resolveSuffix_of_last_isOverlong ht hq hn
  · have hfirst := Straight.run_searchLineColumn_of_line_isOverlong fs
      (lineColumn?_append hp hl.digits.isGroup hc) hl
    exact ⟨_, Inquiry.run_bind_of_error hfirst⟩

/-- Without overlong digits, the first reading ends wherever the file system answers. -/
theorem run_searchLineColumn_of_not_hitsLimit (hfs : ∀ path, path <+: t → fs.Answers path)
    (h : ¬ HitsLimit t) : ∃ trial, (Straight.searchLineColumn t).run fs = .ok trial := by
  have hrun := Straight.lineColumnRun fs t
  generalize (Straight.searchLineColumn t).run fs = result at hrun ⊢
  cases hrun with
  | absent _ => exact ⟨_, rfl⟩
  | probed _ _ _ _ _ => exact ⟨_, rfl⟩
  | @unanswered p l c ht _ _ _ hr =>
    exact absurd (hfs p ⟨':' :: l ++ ':' :: c, by simp [ht]⟩) hr
  | refused _ _ _ _ _ => exact ⟨_, rfl⟩
  | overlongLine ht hp hl hc => exact absurd (.inr ⟨_, _, _, ht, hp, hl, hc⟩) h
  | overlongColumn ht hp _ _ hc => exact absurd (.inl ⟨_, _, ht, by simp, hc⟩) h

theorem run_searchLineOnly_of_not_hitsLimit (hfs : ∀ path, path <+: t → fs.Answers path)
    (h : ¬ HitsLimit t) (pending : Pending) :
    ∃ trial, (searchLineOnly t pending).run fs = .ok trial := by
  have hrun := lineRun fs t pending
  generalize (searchLineOnly t pending).run fs = result at hrun ⊢
  cases hrun with
  | absent _ => exact ⟨_, rfl⟩
  | probed _ _ _ _ => exact ⟨_, rfl⟩
  | @unanswered q n ht _ _ hr => exact absurd (hfs q ⟨':' :: n, ht.symm⟩) hr
  | refused _ _ _ _ _ => exact ⟨_, rfl⟩
  | overlong ht hq ho => exact absurd (.inl ⟨_, _, ht, hq, ho⟩) h

theorem run_straight_resolveSuffix_of_not_hitsLimit (hfs : ∀ path, path <+: t → fs.Answers path)
    (h : ¬ HitsLimit t) : ∃ result, (Straight.resolveSuffix t).run fs = .ok result := by
  obtain ⟨first, hfirst⟩ := run_searchLineColumn_of_not_hitsLimit hfs h
  cases first with
  | settled result => exact ⟨result, run_straight_resolveSuffix_of_settled hfirst⟩
  | continued pending =>
    obtain ⟨second, hsecond⟩ := run_searchLineOnly_of_not_hitsLimit hfs h pending
    exact ⟨_, run_straight_resolveSuffix_of_continued hfirst hsecond⟩

/-! ## One argument -/

/-- Making an argument absolute adds only characters of the working directory. -/
theorem mem_of_mem_absolutize {a : Char} (hslash : a ≠ '/') (hdot : a ≠ '.')
    (h : a ∈ ctx.absolutize arg) : a ∈ ctx.workingDir.render ∨ a ∈ arg := by
  unfold Context.absolutize at h
  dsimp only at h
  split_ifs at h with habs
  · exact .inr h
  · rw [Path.mem_render_iff hslash hdot, Path.join, if_neg habs] at h
    obtain ⟨part, hpart, ha⟩ := h
    rcases List.mem_append.1 hpart with hpart | hpart
    · exact .inl ((Path.mem_render_iff hslash hdot).2 ⟨part, hpart, ha⟩)
    · exact .inr (Path.mem_of_mem_parse hpart ha)

theorem nul_notMem_absolutize (hdir : Text.nul ∉ ctx.workingDir.render) (hnul : Text.nul ∉ arg) :
    Text.nul ∉ ctx.absolutize arg := by
  intro h
  rcases mem_of_mem_absolutize (by decide) (by decide) h with h | h
  · exact hdir h
  · exact hnul h

/-- A reliable file system answers for every path that stands in front of a suffix. -/
theorem FileSystem.Reliable.answers_of_prefix (hfs : fs.Reliable) (hnul : Text.nul ∉ t) :
    ∀ path, path <+: t → fs.Answers path :=
  fun path hpath => hfs path fun h => hnul (hpath.subset h)

section Reliable

variable (hfs : fs.Reliable) (hdir : Text.nul ∉ ctx.workingDir.render)

include hfs hdir

theorem run_resolve_of_spoils (h : Spoils fs ctx arg) :
    ∃ digits, (resolve ctx arg).run fs = .error (.digitLimit digits) := by
  obtain ⟨r, hr⟩ := hfs _ (nul_notMem_absolutize hdir h.nul_notMem)
  rw [resolve_of_ne_nil ctx h.ne_nil h.nul_notMem,
    run_resolveAbsolute_of_none hr (h.undetermined r hr)]
  exact run_straight_resolveSuffix_of_hitsLimit h.hitsLimit

/-- Every other argument comes to a specifier or to a failure. -/
theorem run_resolve_of_not_spoils (h : ¬ Spoils fs ctx arg) :
    ∃ result, (resolve ctx arg).run fs = .ok result := by
  by_cases hne : arg = []
  · rw [resolve, if_pos hne]
    exact ⟨_, rfl⟩
  by_cases hnul : Text.nul ∈ arg
  · rw [resolve, if_neg hne, if_pos hnul]
    exact ⟨_, rfl⟩
  have habs := nul_notMem_absolutize hdir hnul
  obtain ⟨r, hr⟩ := hfs _ habs
  rw [resolve_of_ne_nil ctx hne hnul]
  cases hs : r.specifier? with
  | some s => exact ⟨_, run_resolveAbsolute_of_some hr hs⟩
  | none =>
    rw [run_resolveAbsolute_of_none hr hs]
    apply run_straight_resolveSuffix_of_not_hitsLimit (hfs.answers_of_prefix habs)
    exact fun hlimit => h ⟨hne, hnul, fun r' hr' => hr.unique hr' ▸ hs, hlimit⟩

end Reliable

/-! ## Many arguments -/

/-- One step of a batch. -/
theorem run_resolveEach_cons {args : List Text} {result : Except Failure Specifier}
    (h : (resolve ctx arg).run fs = .ok result) :
    (resolveEach ctx (arg :: args)).run fs =
      ((resolveEach ctx args).bind fun outcomes => .answer (⟨arg, result⟩ :: outcomes)).run fs :=
  Inquiry.run_bind_of_ok h

/-- A batch answers exactly with the outcomes of its arguments alone. -/
theorem run_resolveEach_ok_iff {args : List Text} {outcomes : List Outcome} :
    (resolveEach ctx args).run fs = .ok outcomes ↔ List.Forall₂ (Settles fs ctx) args outcomes := by
  induction args generalizing outcomes with
  | nil => rw [List.forall₂_nil_left_iff, resolveEach, Inquiry.run_answer, Except.ok.injEq, eq_comm]
  | cons arg args ih =>
    rw [List.forall₂_cons_left_iff]
    constructor
    · intro h
      obtain ⟨result, hresult, hrest⟩ := Inquiry.run_bind_ok_iff.1 h
      obtain ⟨rest, hargs, houtcomes⟩ := Inquiry.run_bind_ok_iff.1 hrest
      obtain rfl := Except.ok.inj houtcomes
      exact ⟨⟨arg, result⟩, rest, ⟨rfl, hresult⟩, ih.1 hargs, rfl⟩
    · rintro ⟨⟨a, result⟩, rest, ⟨harg, hresult⟩, hargs, rfl⟩
      obtain rfl : a = arg := harg
      rw [run_resolveEach_cons hresult, Inquiry.run_bind_of_ok (ih.2 hargs), Inquiry.run_answer]

theorem exists_settles_of_mem {args : List Text} {outcomes : List Outcome}
    (h : List.Forall₂ (Settles fs ctx) args outcomes) (harg : arg ∈ args) :
    ∃ o, Settles fs ctx arg o := by
  induction h with
  | nil => exact absurd harg List.not_mem_nil
  | cons hfirst _ ih =>
    rcases List.mem_cons.1 harg with rfl | hrest
    · exact ⟨_, hfirst⟩
    · exact ih hrest

/-- A batch crashes exactly as the first of its arguments that crashes. -/
theorem run_resolveEach_error_iff {args : List Text} {crash : Crash} :
    (resolveEach ctx args).run fs = .error crash ↔
      ∃ before arg after, args = before ++ arg :: after ∧
        (∀ a ∈ before, ∃ result, (resolve ctx a).run fs = .ok result) ∧
        (resolve ctx arg).run fs = .error crash := by
  induction args with
  | nil => simp [resolveEach]
  | cons first args ih =>
    constructor
    · intro h
      rcases Inquiry.run_bind_error_iff.1 h with hfirst | ⟨result, hresult, hrest⟩
      · exact ⟨[], first, args, rfl, by simp, hfirst⟩
      · rcases Inquiry.run_bind_error_iff.1 hrest with hargs | ⟨rest, -, hdone⟩
        · obtain ⟨before, arg, after, rfl, hbefore, hcrash⟩ := ih.1 hargs
          refine ⟨first :: before, arg, after, rfl, ?_, hcrash⟩
          rintro a (_ | ⟨_, ha⟩)
          · exact ⟨result, hresult⟩
          · exact hbefore a ha
        · cases hdone
    · rintro ⟨before, arg, after, hargs, hbefore, hcrash⟩
      cases before with
      | nil =>
        obtain ⟨rfl, rfl⟩ := List.cons.inj hargs
        exact Inquiry.run_bind_of_error hcrash
      | cons a before =>
        obtain ⟨rfl, rfl⟩ := List.cons.inj hargs
        obtain ⟨result, hresult⟩ := hbefore first List.mem_cons_self
        rw [run_resolveEach_cons hresult]
        refine Inquiry.run_bind_of_error (ih.2 ⟨before, arg, after, rfl, ?_, hcrash⟩)
        exact fun b hb => hbefore b (List.mem_cons_of_mem _ hb)

/-- The number of workers decides nothing but whether there are any. -/
theorem resolveAll_eq_resolveEach (ctx : Context) (args : List Text) {workers : Option Int}
    (h : ∀ n, workers = some n → 1 ≤ n) : resolveAll ctx args workers = resolveEach ctx args := by
  unfold resolveAll
  split
  · rfl
  · rfl
  · rename_i n _
    have hn := h n rfl
    rw [if_neg (by omega)]

/-- **Batches.** On a file system that fails only with errors of the operating system, from a
    working directory without NUL and with at least one worker, a batch answers with one outcome for
    each argument, in order, and each with the result that its argument has alone, as long as no
    argument spoils the batch. Where one does, nothing of the batch is left. -/
theorem resolveAll_settles_unless_spoiled {fs : FileSystem} {ctx : Context} (args : List Text)
    {workers : Option Int} (hfs : fs.Reliable) (hdir : Text.nul ∉ ctx.workingDir.render)
    (hworkers : ∀ n, workers = some n → 1 ≤ n) :
    ((∀ arg ∈ args, ¬ Spoils fs ctx arg) →
      ∃ outcomes, (resolveAll ctx args workers).run fs = .ok outcomes ∧
        List.Forall₂ (Settles fs ctx) args outcomes) ∧
    ((∃ arg ∈ args, Spoils fs ctx arg) →
      ∃ digits, (resolveAll ctx args workers).run fs = .error (.digitLimit digits)) := by
  rw [resolveAll_eq_resolveEach ctx args hworkers]
  cases hrun : (resolveEach ctx args).run fs with
  | ok outcomes =>
    have hsettles := run_resolveEach_ok_iff.1 hrun
    refine ⟨fun _ => ⟨outcomes, rfl, hsettles⟩, ?_⟩
    rintro ⟨arg, harg, hspoils⟩
    obtain ⟨o, ho⟩ := exists_settles_of_mem hsettles harg
    obtain ⟨digits, hcrash⟩ := run_resolve_of_spoils hfs hdir hspoils
    exact absurd (hcrash.symm.trans ho.run_eq) (by simp)
  | error crash =>
    obtain ⟨before, arg, after, rfl, -, hcrash⟩ := run_resolveEach_error_iff.1 hrun
    have hspoils : Spoils fs ctx arg := by
      by_contra h
      obtain ⟨result, hresult⟩ := run_resolve_of_not_spoils hfs hdir h
      exact absurd (hcrash.symm.trans hresult) (by simp)
    obtain ⟨digits, hlimit⟩ := run_resolve_of_spoils hfs hdir hspoils
    constructor
    · intro h
      exact absurd hspoils (h arg (by simp))
    · rintro -
      obtain rfl := Except.error.inj (hcrash.symm.trans hlimit)
      exact ⟨digits, rfl⟩

/-- A batch of short arguments is settled, whatever the file system holds. -/
theorem short_arguments_settle :
    let fs := (Table.addEntry "/work/a" .file {}).toFileSystem
    let ctx : Context := ⟨⟨.slash, ["work"]⟩⟩
    fs.Reliable ∧ Text.nul ∉ ctx.workingDir.render ∧ (∀ n, some (2 : Int) = some n → 1 ≤ n) ∧
      (∀ arg ∈ (["a:7", ""] : List Text), ¬ Spoils fs ctx arg) ∧
      ∃ outcomes, (resolveAll ctx ["a:7", ""] (some 2)).run fs = .ok outcomes ∧
        List.Forall₂ (Settles fs ctx) ["a:7", ""] outcomes := by
  intro fs ctx
  have hfs : fs.Reliable := fun path _ => Table.answers _ path
  have hdir : Text.nul ∉ ctx.workingDir.render := by decide
  have hworkers : ∀ n, some (2 : Int) = some n → 1 ≤ n := by rintro n ⟨⟩; decide
  have hshort : ∀ arg ∈ (["a:7", ""] : List Text),
      (ctx.absolutize arg).length ≤ Decimal.digitLimit := by decide
  have hnone : ∀ arg ∈ (["a:7", ""] : List Text), ¬ Spoils fs ctx arg := fun arg harg h =>
    absurd h.hitsLimit.lt_length (Nat.not_lt.2 (hshort arg harg))
  exact ⟨hfs, hdir, hworkers, hnone,
    (resolveAll_settles_unless_spoiled _ hfs hdir hworkers).1 hnone⟩

/-- Where nothing is at all, a long line of nines spoils a batch. -/
theorem spoils_nines (ctx : Context) {n : Nat} (hn : Decimal.digitLimit < n) :
    Spoils (Table.toFileSystem { entries := [] }) ctx
      ('/' :: 'a' :: ':' :: List.replicate n '9') := by
  refine ⟨by simp, by simp [Text.nul], fun r hr => ?_, ?_⟩
  · have hmissing : (Table.toFileSystem { entries := [] }).Finds
        (ctx.absolutize ('/' :: 'a' :: ':' :: List.replicate n '9')) .missing := rfl
    rw [hr.unique hmissing]
    rfl
  · exact .inl ⟨['/', 'a'], _, rfl, by simp, isOverlong_replicate (by decide) hn⟩

/-- One argument with a long line of nines loses the failure that the other one has alone. -/
theorem batch_lost_to_nines :
    let fs := Table.toFileSystem { entries := [] }
    let ctx : Context := ⟨⟨.slash, ["work"]⟩⟩
    let args : List Text := ["b", '/' :: 'a' :: ':' :: List.replicate 4301 '9']
    fs.Reliable ∧ Text.nul ∉ ctx.workingDir.render ∧
      (resolve ctx "b").run fs = .ok (.error { kind := .noMatch, argument := "/work/b".toList }) ∧
      ¬ ∃ outcomes, (resolveAll ctx args (some 2)).run fs = .ok outcomes := by
  intro fs ctx args
  have hfs : fs.Reliable := fun path _ => Table.answers _ path
  have hdir : Text.nul ∉ ctx.workingDir.render := by decide
  have hspoils := spoils_nines ctx (show Decimal.digitLimit < 4301 by decide)
  refine ⟨hfs, hdir, by decide, ?_⟩
  rintro ⟨outcomes, hrun⟩
  obtain ⟨o, ho⟩ := exists_settles_of_mem (run_resolveEach_ok_iff.1 hrun)
    (List.mem_cons_of_mem _ List.mem_cons_self)
  obtain ⟨digits, hcrash⟩ := run_resolve_of_spoils hfs hdir hspoils
  exact absurd (hcrash.symm.trans ho.run_eq) (by simp)

end Pinpoint
