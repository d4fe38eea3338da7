import Mathlib.Data.List.Perm.Basic
import Pinpoint.Proofs.Resolver.Batch
import Pinpoint.Proofs.Resolver.Candidates
import Pinpoint.Resolver.Workers

/-!
# Workers in any order

What a pool of workers does is settled before it starts: each argument comes with its turns, those
that resolving it alone takes. A schedule decides only the order in which they are done. So
whatever the schedule, the outcomes are those of the arguments alone, and each question is asked as
often as by resolving one argument after the other.

* `Pool.step_outstanding`: one turn does one of the events that are left.
* `Pool.follow_outstanding`: whatever the schedule, what is done and what is left are the same
  altogether.
* `Pool.isFinished_iff`: workers stop only where nothing is left to do.
* `Pool.finished_eq_sequential`: what a pool comes to, whatever the schedule.
-/

namespace Pinpoint

/-! ## Specification -/

/-- The turns that a computation takes on an unchanging file system. -/
def Inquiry.turns (fs : FileSystem) (index : Nat) :
    Inquiry (Except Failure Specifier) → List Event
  | answer result => [.ended index (.ok result)]
  | crash c => [.ended index (.error c)]
  | canonicalize path next => .canonicalized path :: (next (fs.canonicalize path)).turns fs index
  | kind path next => .examined path :: (next (fs.kind path)).turns fs index

/-- The turns that are left of what a worker is busy with. -/
def Task.turns? (fs : FileSystem) : Option Task → List Event
  | none => []
  | some task => task.rest.turns fs task.index

/-- The turns for an argument at a place of the batch: taking it, then resolving it. -/
def argumentTurns (fs : FileSystem) (ctx : Context) (a : Text × Nat) : List Event :=
  .taken a.2 :: (resolve ctx a.1).turns fs a.2

/-- The turns that are left to a pool. -/
def Pool.outstanding (fs : FileSystem) (ctx : Context) (p : Pool) : List Event :=
  p.workers.flatMap (Task.turns? fs) ++ p.waiting.flatMap (argumentTurns fs ctx)

/-! ## The turns of a computation -/

variable {fs : FileSystem} {ctx : Context}

section Turns

variable {x : Inquiry (Except Failure Specifier)} {index : Nat}

theorem Inquiry.filterMap_path?_turns (fs : FileSystem) (x : Inquiry (Except Failure Specifier))
    (index : Nat) : (x.turns fs index).filterMap Event.path? = x.calls fs := by
  induction x with
  | answer result => rfl
  | crash c => rfl
  | canonicalize path next ih => exact congrArg (path :: ·) (ih _)
  | kind path next ih => exact ih _

/-- A computation puts down its result, and nothing else. -/
theorem Inquiry.ended_mem_turns_iff {i : Nat} {result : Except Crash (Except Failure Specifier)} :
    .ended i result ∈ x.turns fs index ↔ i = index ∧ result = x.run fs := by
  induction x with
  | answer r => simp [turns]
  | crash c => simp [turns]
  | canonicalize path next ih => simp [turns, run, ih]
  | kind path next ih => simp [turns, run, ih]

/-- A turn of a task does the first of the turns that are left of it. -/
theorem Task.turns?_some (fs : FileSystem) (task : Task) :
    turns? fs (some task) = (task.turn fs).1 :: turns? fs (task.turn fs).2 := by
  obtain ⟨index, rest⟩ := task
  cases rest <;> rfl

end Turns

namespace Pool

open scoped List

variable {p p' : Pool} {worker : Nat} {schedule : List Nat} {args : List Text}

/-! ## One turn -/

/-- The turns that are left to one worker, and those left to the others, which stay where that
    worker gets another task. -/
theorem exists_others (fs : FileSystem) {workers : List (Option Task)} {task : Option Task}
    (h : workers[worker]? = some task) :
    ∃ others, workers.flatMap (Task.turns? fs) ~ Task.turns? fs task ++ others ∧
      ∀ task', (workers.set worker task').flatMap (Task.turns? fs) ~
        Task.turns? fs task' ++ others := by
  obtain ⟨hlt, rfl⟩ := List.getElem?_eq_some_iff.1 h
  refine ⟨(workers.eraseIdx worker).flatMap (Task.turns? fs), ?_, fun task' => ?_⟩
  · exact (List.getElem_cons_eraseIdx_perm hlt).symm.flatMap_right _
  · exact (List.set_perm_cons_eraseIdx hlt task').flatMap_right _

/-- **One turn.** A turn does one event, and what was left to do is that event and what is left
    after it. -/
theorem step_outstanding (h : p.step fs ctx worker = some p') :
    ∃ event, p'.history = p.history ++ [event] ∧
      p.outstanding fs ctx ~ event :: p'.outstanding fs ctx := by
  unfold step at h
  split at h
  · cases h
  · next hidle =>
    obtain ⟨others, hbefore, hafter⟩ := exists_others fs hidle
    split at h
    · cases h
    · next arg index waiting hwaiting =>
      obtain rfl := Option.some.inj h
      refine ⟨_, rfl, ?_⟩
      rw [outstanding, hwaiting]
      calc p.workers.flatMap (Task.turns? fs) ++
            .taken index :: ((resolve ctx arg).turns fs index ++
              waiting.flatMap (argumentTurns fs ctx))
        _ ~ others ++ .taken index :: ((resolve ctx arg).turns fs index ++
              waiting.flatMap (argumentTurns fs ctx)) := hbefore.append_right _
        _ ~ .taken index :: (others ++ ((resolve ctx arg).turns fs index ++
              waiting.flatMap (argumentTurns fs ctx))) := List.perm_middle
        _ ~ .taken index :: ((resolve ctx arg).turns fs index ++ others ++
              waiting.flatMap (argumentTurns fs ctx)) := by
          rw [← List.append_assoc]
          exact (List.perm_append_comm.append_right _).cons _
        _ ~ _ := ((hafter (some ⟨index, resolve ctx arg⟩)).symm.append_right _).cons _
  · next task hbusy =>
    obtain ⟨others, hbefore, hafter⟩ := exists_others fs hbusy
    obtain rfl := Option.some.inj h
    refine ⟨_, rfl, ?_⟩
    rw [Task.turns?_some] at hbefore
    exact (hbefore.trans (.cons _ (hafter _).symm)).append_right _

theorem step_workers_length (h : p.step fs ctx worker = some p') :
    p'.workers.length = p.workers.length := by
  unfold step at h
  split at h
  · cases h
  · split at h
    · cases h
    · obtain rfl := Option.some.inj h
      exact List.length_set
  · obtain rfl := Option.some.inj h
    exact List.length_set

/-- A worker with a task has a turn to take. -/
theorem step_of_busy (fs : FileSystem) (ctx : Context) {task : Task}
    (h : p.workers[worker]? = some (some task)) :
    ∃ p', p.step fs ctx worker = some p' := by
  rw [step, h]
  exact ⟨_, rfl⟩

/-- An idle worker has a turn to take as long as an argument waits. -/
theorem step_of_idle (fs : FileSystem) (ctx : Context)
    (h : p.workers[worker]? = some none) (hwaiting : p.waiting ≠ []) :
    ∃ p', p.step fs ctx worker = some p' := by
  obtain ⟨⟨arg, index⟩, waiting, hcons⟩ := List.exists_cons_of_ne_nil hwaiting
  rw [step, h, hcons]
  exact ⟨_, rfl⟩

/-- Workers stop exactly where nothing is left to do. -/
theorem isFinished_iff (hworkers : p.workers ≠ []) :
    p.IsFinished fs ctx ↔ p.outstanding fs ctx = [] := by
  constructor
  · intro h
    have hidle : ∀ task ∈ p.workers, task = none := by
      intro task htask
      obtain ⟨worker, hworker⟩ := List.getElem?_of_mem htask
      cases task with
      | none => rfl
      | some task =>
        obtain ⟨p', hp'⟩ := step_of_busy fs ctx hworker
        exact absurd ((h worker).symm.trans hp') (by simp)
    have hwaiting : p.waiting = [] := by
      by_contra hne
      obtain ⟨task, workers, hcons⟩ := List.exists_cons_of_ne_nil hworkers
      obtain rfl : task = none := hidle task (hcons ▸ List.mem_cons_self)
      have hfirst : p.workers[0]? = some none := by rw [hcons]; rfl
      obtain ⟨p', hp'⟩ := step_of_idle fs ctx hfirst hne
      exact absurd ((h 0).symm.trans hp') (by simp)
    rw [outstanding, hwaiting, List.flatMap_nil, List.append_nil, List.flatMap_eq_nil_iff]
    rintro task htask
    rw [hidle task htask, Task.turns?]
  · intro h worker
    cases hstep : p.step fs ctx worker with
    | none => rfl
    | some p' =>
      obtain ⟨event, -, hperm⟩ := step_outstanding hstep
      exact absurd (h ▸ hperm).nil_eq (by simp)

/-! ## A schedule -/

/-- **A schedule.** What is done and what is left stay the same altogether. -/
theorem follow_outstanding (h : follow fs ctx schedule p = some p') :
    p'.history ++ p'.outstanding fs ctx ~ p.history ++ p.outstanding fs ctx := by
  induction schedule generalizing p with
  | nil =>
    obtain rfl := Option.some.inj h
    exact .refl _
  | cons worker schedule ih =>
    obtain ⟨q, hstep, hrest⟩ := Option.bind_eq_some_iff.1 h
    obtain ⟨event, hhistory, hperm⟩ := step_outstanding hstep
    have hafter := ih hrest
    rw [hhistory, List.append_assoc] at hafter
    exact hafter.trans (hperm.symm.append_left _)

theorem follow_workers_length (h : follow fs ctx schedule p = some p') :
    p'.workers.length = p.workers.length := by
  induction schedule generalizing p with
  | nil =>
    obtain rfl := Option.some.inj h
    rfl
  | cons worker schedule ih =>
    obtain ⟨q, hstep, hrest⟩ := Option.bind_eq_some_iff.1 h
    exact (ih hrest).trans (step_workers_length hstep)

/-- No worker is lost on the way. -/
theorem workers_ne_nil {n : Nat} (hn : 1 ≤ n)
    (h : follow fs ctx schedule (start args n) = some p) : p.workers ≠ [] := by
  rw [← List.length_pos_iff, follow_workers_length h, start, List.length_replicate]
  exact hn

/-- Workers get to the end from wherever they are: while something is left to do, one of them
    can take a turn, and every turn leaves less to do. -/
theorem exists_follow_isFinished (hworkers : p.workers ≠ []) :
    ∃ schedule p', follow fs ctx schedule p = some p' ∧ p'.IsFinished fs ctx := by
  induction hn : (p.outstanding fs ctx).length generalizing p with
  | zero =>
    exact ⟨[], p, rfl, (isFinished_iff hworkers).2 (List.length_eq_zero_iff.1 hn)⟩
  | succ n ih =>
    have hleft : ¬ p.IsFinished fs ctx := by
      rw [isFinished_iff hworkers, ← List.length_eq_zero_iff, hn]
      exact Nat.succ_ne_zero n
    obtain ⟨worker, hworker⟩ := not_forall.1 hleft
    obtain ⟨q, hstep⟩ := Option.ne_none_iff_exists'.1 hworker
    obtain ⟨event, -, hperm⟩ := step_outstanding hstep
    have hlength := hperm.length_eq
    rw [hn, List.length_cons] at hlength
    have hsame := step_workers_length hstep
    have hq : q.workers ≠ [] := by
      rw [← List.length_pos_iff, hsame, List.length_pos_iff]
      exact hworkers
    obtain ⟨schedule, p', hfollow, hfinished⟩ := ih hq (by omega)
    exact ⟨worker :: schedule, p', Option.bind_eq_some_iff.2 ⟨q, hstep, hfollow⟩, hfinished⟩

/-! ## What a pool comes to -/

/-- The turns of a batch, one argument after the other. -/
theorem outstanding_start (fs : FileSystem) (ctx : Context) (args : List Text) (n : Nat) :
    (start args n).outstanding fs ctx = args.zipIdx.flatMap (argumentTurns fs ctx) := by
  have hidle : (List.replicate n none).flatMap (Task.turns? fs) = [] := by
    rw [List.flatMap_eq_nil_iff]
    intro task htask
    rw [List.eq_of_mem_replicate htask, Task.turns?]
  rw [outstanding, start, hidle, List.nil_append]

/-- At the end the turns of all arguments are done, in whatever order. -/
theorem history_perm {n : Nat} (hn : 1 ≤ n) (h : follow fs ctx schedule (start args n) = some p)
    (hfinished : p.IsFinished fs ctx) :
    p.history ~ args.zipIdx.flatMap (argumentTurns fs ctx) := by
  have hperm := follow_outstanding h
  rw [(isFinished_iff (workers_ne_nil hn h)).1 hfinished, List.append_nil, outstanding_start]
    at hperm
  exact hperm

/-- The questions of all arguments, one after the other. -/
theorem filterMap_path?_argumentTurns (fs : FileSystem) (ctx : Context) (args : List Text) :
    (args.zipIdx.flatMap (argumentTurns fs ctx)).filterMap Event.path? =
      args.flatMap fun arg => (resolve ctx arg).calls fs := by
  have hone : ∀ a : Text × Nat, (argumentTurns fs ctx a).filterMap Event.path? =
      (resolve ctx a.1).calls fs := fun a => Inquiry.filterMap_path?_turns fs _ _
  rw [List.filterMap_flatMap, funext hone]
  conv_rhs => rw [← List.zipIdx_map_fst 0 args, List.flatMap_map]

/-- Only the results of the arguments alone are put down, each in its place. -/
theorem ended_mem_argumentTurns_iff {i : Nat} {result : Except Crash (Except Failure Specifier)} :
    .ended i result ∈ args.zipIdx.flatMap (argumentTurns fs ctx) ↔
      ∃ arg, args[i]? = some arg ∧ result = (resolve ctx arg).run fs := by
  simp only [List.mem_flatMap, argumentTurns, List.mem_cons, reduceCtorEq, false_or,
    Inquiry.ended_mem_turns_iff, Prod.exists, List.mem_zipIdx_iff_getElem?]
  constructor
  · rintro ⟨arg, index, harg, rfl, rfl⟩
    exact ⟨arg, harg, rfl⟩
  · rintro ⟨arg, harg, rfl⟩
    exact ⟨arg, i, harg, rfl, rfl⟩

/-- The result known for a place is that of the argument there. -/
theorem result?_eq_some {arg : Text} {i : Nat}
    (h : p.history ~ args.zipIdx.flatMap (argumentTurns fs ctx)) (harg : args[i]? = some arg) :
    p.result? i = some ((resolve ctx arg).run fs) := by
  have hmem : .ended i ((resolve ctx arg).run fs) ∈ p.history :=
    h.mem_iff.2 (ended_mem_argumentTurns_iff.2 ⟨arg, harg, rfl⟩)
  cases hfound : p.result? i with
  | none =>
    have hnone := List.findSome?_eq_none_iff.1 hfound _ hmem
    rw [Event.result?, if_pos rfl] at hnone
    cases hnone
  | some result =>
    obtain ⟨event, hevent, hresult⟩ := List.exists_of_findSome?_eq_some hfound
    cases event with
    | ended j r =>
      obtain ⟨rfl, hr⟩ := Option.ite_none_right_eq_some.1 hresult
      obtain rfl := Option.some.inj hr
      obtain ⟨arg', harg', rfl⟩ := ended_mem_argumentTurns_iff.1 (h.mem_iff.1 hevent)
      obtain rfl := Option.some.inj (harg.symm.trans harg')
      rfl
    | taken j => cases hresult
    | canonicalized path => cases hresult
    | examined path => cases hresult

/-- Where every result is known, they are collected as if the arguments had been resolved one
    after the other. -/
theorem collect_eq_run {pairs : List (Text × Nat)}
    (h : ∀ a ∈ pairs, p.result? a.2 = some ((resolve ctx a.1).run fs)) :
    p.collect pairs = some ((resolveEach ctx (pairs.map Prod.fst)).run fs) := by
  induction pairs with
  | nil => rfl
  | cons a pairs ih =>
    have hrest := ih fun b hb => h b (List.mem_cons_of_mem _ hb)
    rw [collect, h a List.mem_cons_self, List.map_cons, resolveEach, Inquiry.bind_eq,
      Inquiry.run_bind]
    cases (resolve ctx a.1).run fs with
    | error crash => rfl
    | ok result =>
      dsimp only
      rw [hrest, Option.map_some, Inquiry.bind_eq, Inquiry.run_bind]
      cases (resolveEach ctx (pairs.map Prod.fst)).run fs <;> rfl

/-- With a worker there, a batch is resolved. -/
theorem resolveAll_of_pos {n : Nat} (hn : 1 ≤ n) :
    resolveAll ctx args (some n) = resolveEach ctx args := by
  refine resolveAll_eq_resolveEach ctx args ?_
  rintro m ⟨⟩
  exact_mod_cast hn

/-- A batch answers where none of its arguments crashes. -/
theorem exists_run_resolveEach
    (h : ∀ arg ∈ args, ∃ result, (resolve ctx arg).run fs = .ok result) :
    ∃ outcomes, (resolveEach ctx args).run fs = .ok outcomes := by
  cases hrun : (resolveEach ctx args).run fs with
  | ok outcomes => exact ⟨outcomes, rfl⟩
  | error crash =>
    obtain ⟨before, arg, after, rfl, -, hcrash⟩ := run_resolveEach_error_iff.1 hrun
    obtain ⟨result, hresult⟩ := h arg (by simp)
    exact absurd (hcrash.symm.trans hresult) (by simp)

/-- What is collected at the end is what resolving the batch comes to, a crash included. -/
theorem collect_eq_run_of_isFinished {n : Nat} (hn : 1 ≤ n)
    (h : follow fs ctx schedule (start args n) = some p) (hfinished : p.IsFinished fs ctx) :
    p.collect args.zipIdx = some ((resolveAll ctx args (some n)).run fs) := by
  have hhistory := history_perm hn h hfinished
  have hresults : ∀ a ∈ args.zipIdx, p.result? a.2 = some ((resolve ctx a.1).run fs) :=
    fun a ha => result?_eq_some hhistory (List.mem_zipIdx_iff_getElem?.1 ha)
  rw [collect_eq_run hresults, List.zipIdx_map_fst, resolveAll_of_pos hn]

/-- **Any order.** However the turns of at least one worker are mixed, they can be carried on to
    the end. At the end the outcomes are those of the arguments alone, in the order of the
    arguments, as long as each of them comes to a specifier or a failure. The questions asked are
    those of resolving one argument after the other, in another order. -/
theorem finished_eq_sequential {fs : FileSystem} {ctx : Context} {args : List Text} {n : Nat}
    (hn : 1 ≤ n) (hargs : ∀ arg ∈ args, ∃ result, (resolve ctx arg).run fs = .ok result) :
    (∀ schedule p, follow fs ctx schedule (start args n) = some p →
      ∃ more q, follow fs ctx more p = some q ∧ q.IsFinished fs ctx) ∧
    ∀ schedule p, follow fs ctx schedule (start args n) = some p → p.IsFinished fs ctx →
      ∃ outcomes, p.collect args.zipIdx = some (.ok outcomes) ∧
        (resolveAll ctx args (some n)).run fs = .ok outcomes ∧
        List.Forall₂ (Settles fs ctx) args outcomes ∧
        p.log ~ args.flatMap fun arg => (resolve ctx arg).calls fs := by
  refine ⟨fun schedule p h => exists_follow_isFinished (workers_ne_nil hn h),
    fun schedule p h hfinished => ?_⟩
  · obtain ⟨outcomes, hrun⟩ := exists_run_resolveEach hargs
    have hall : (resolveAll ctx args (some n)).run fs = .ok outcomes := by
      rw [resolveAll_of_pos hn, hrun]
    refine ⟨outcomes, ?_, hall, run_resolveEach_ok_iff.1 hrun, ?_⟩
    · rw [collect_eq_run_of_isFinished hn h hfinished, hall]
    · rw [log, ← filterMap_path?_argumentTurns]
      exact (history_perm hn h hfinished).filterMap _

/-- Two workers: the second one is done with its argument before the first one goes on. -/
theorem two_workers_in_turn :
    let fs := (Table.addEntry "/work/a" .file {}).toFileSystem
    let ctx : Context := ⟨⟨.slash, ["work"]⟩⟩
    let args : List Text := ["a:7", "b"]
    1 ≤ 2 ∧ (∀ arg ∈ args, ∃ result, (resolve ctx arg).run fs = .ok result) ∧
      ∃ p outcomes, follow fs ctx [0, 1, 0, 1, 1, 0, 0, 0] (start args 2) = some p ∧
        p.IsFinished fs ctx ∧ p.log = ["/work/a:7".toList, "/work/b".toList, "/work/a".toList] ∧
        p.collect args.zipIdx = some (.ok outcomes) ∧
        List.Forall₂ (Settles fs ctx) args outcomes := by
  intro fs ctx args
  have hargs : ∀ arg ∈ (["a:7", "b"] : List Text),
      ∃ result, (resolve ctx arg).run fs = .ok result := by
    rintro arg (_ | ⟨_, _ | ⟨_, ⟨⟩⟩⟩)
    · exact ⟨.ok (.file ⟨.slash, ["work", "a"]⟩ (some ⟨7, 1⟩)), rfl⟩
    · exact ⟨.error { kind := .noMatch, argument := "/work/b" }, rfl⟩
  have hfollow : follow fs ctx [0, 1, 0, 1, 1, 0, 0, 0] (start args 2) = some
      { waiting := []
        workers := [none, none]
        history :=
          [.taken 0, .taken 1, .canonicalized "/work/a:7", .canonicalized "/work/b",
            .ended 1 (.ok (.error { kind := .noMatch, argument := "/work/b" })),
            .canonicalized "/work/a", .examined ⟨.slash, ["work", "a"]⟩,
            .ended 0 (.ok (.ok (.file ⟨.slash, ["work", "a"]⟩ (some ⟨7, 1⟩))))] } := rfl
  have hfinished : ∀ history, IsFinished fs ctx ⟨[], [none, none], history⟩ :=
    fun history => (isFinished_iff (List.cons_ne_nil _ _)).2 rfl
  obtain ⟨outcomes, hcollect, -, hsettles, -⟩ :=
    (finished_eq_sequential (by decide) hargs).2 _ _ hfollow (hfinished _)
  exact ⟨by decide, hargs, _, outcomes, hfollow, hfinished _, rfl, hcollect, hsettles⟩

end Pool

end Pinpoint
