import Pinpoint.Proofs.FileSystem.Findings

/-!
# Computations that probe

A computation that asks a file system by probing alone is known by the paths that it
may probe, and by how many of them it probes one after the other. Both are known
whatever is found, so they say what it asks for on every file system, and it comes to
the same on file systems that find the same at these paths.

* `Inquiry.calls_bind`: what a computation asks for that goes on with another one.
* `Inquiry.Probing`: a computation that probes at most some number of certain paths.
* `Probing.mem_calls`, `Probing.length_calls_le`: what it asks for, and how often.
* `Probing.run_congr`, `Probing.calls_congr`: two file systems that it cannot tell apart.
-/

namespace Pinpoint

namespace Inquiry

variable {α β : Type} {fs fs' : FileSystem} {x : Inquiry α} {f : α → Inquiry β} {path : Text}
  {P Q : Text → Prop} {m n : Nat}

/-! ## Specification -/

/-- A computation asks a file system nothing but what probing finds at paths with a property, at
    most `n` times in a row, whatever is found. -/
inductive Probing (P : Text → Prop) {α : Type} : Nat → Inquiry α → Prop
  | answer (n : Nat) (a : α) : Probing P n (.answer a)
  | crash (n : Nat) (c : Crash) : Probing P n (.crash c)
  | probe {n : Nat} {path : Text} {f : Probe → Inquiry α} (hpath : P path)
      (hnext : ∀ r, Probing P n (f r)) : Probing P (n + 1) ((probe path).bind f)

/-! ## Calls of a computation that goes on -/

@[simp] theorem calls_answer (fs : FileSystem) (a : α) : (answer a).calls fs = [] := rfl

@[simp] theorem calls_crash (fs : FileSystem) (c : Crash) :
    (crash c : Inquiry α).calls fs = [] := rfl

theorem calls_bind (fs : FileSystem) (x : Inquiry α) (f : α → Inquiry β) :
    (x.bind f).calls fs =
      x.calls fs ++ match x.run fs with
        | .ok a => (f a).calls fs
        | .error _ => [] := by
  induction x with
  | answer a => rfl
  | crash c => rfl
  | canonicalize path next ih => exact congrArg (path :: ·) (ih _)
  | kind path next ih => exact ih _

theorem calls_bind_of_ok {a : α} (h : x.run fs = .ok a) :
    (x.bind f).calls fs = x.calls fs ++ (f a).calls fs := by
  rw [calls_bind, h]

theorem mem_calls_bind :
    path ∈ (x.bind f).calls fs ↔
      path ∈ x.calls fs ∨ ∃ a, x.run fs = .ok a ∧ path ∈ (f a).calls fs := by
  rw [calls_bind, List.mem_append]
  cases x.run fs with
  | ok a => simp
  | error c => simp

end Inquiry

theorem calls_probe (fs : FileSystem) (path : Text) : (probe path).calls fs = [path] := by
  rw [probe, Inquiry.calls]
  cases fs.canonicalize path with
  | ok c => rfl
  | error refusal => cases refusal <;> rfl

/-! ## Building a computation that probes -/

namespace Inquiry

namespace Probing

theorem mono (h : Probing P m x) (hmn : m ≤ n) : Probing P n x := by
  induction h generalizing n with
  | answer m a => exact .answer n a
  | crash m c => exact .crash n c
  | probe hpath _ ih =>
    obtain ⟨k, rfl⟩ : ∃ k, n = k + 1 := ⟨n - 1, by omega⟩
    exact .probe hpath fun r => ih r (by omega)

theorem imp (h : Probing P n x) (hPQ : ∀ path, P path → Q path) : Probing Q n x := by
  induction h with
  | answer n a => exact .answer n a
  | crash n c => exact .crash n c
  | probe hpath _ ih => exact .probe (hPQ _ hpath) ih

/-- One after the other, two computations probe as often as both together. -/
theorem bind (hx : Probing P m x) (hf : ∀ a, Probing P n (f a)) : Probing P (m + n) (x.bind f) := by
  induction hx with
  | answer m a => exact (hf a).mono (Nat.le_add_left n m)
  | crash m c => exact .crash (m + n) c
  | @probe m path next hpath _ ih =>
    rw [bind_assoc, Nat.add_right_comm]
    exact .probe hpath ih

/-! ## What it asks for -/

theorem mem_calls (h : Probing P n x) (hpath : path ∈ x.calls fs) : P path := by
  induction h with
  | answer n a => cases hpath
  | crash n c => cases hpath
  | probe hprobed _ ih =>
    rw [mem_calls_bind, calls_probe] at hpath
    rcases hpath with hpath | ⟨r, -, hpath⟩
    · exact List.mem_singleton.1 hpath ▸ hprobed
    · exact ih r hpath

theorem length_calls_le (h : Probing P n x) (fs : FileSystem) : (x.calls fs).length ≤ n := by
  induction h with
  | answer n a => exact Nat.zero_le n
  | crash n c => exact Nat.zero_le n
  | @probe n path next _ _ ih =>
    rw [calls_bind, calls_probe, List.singleton_append, List.length_cons, Nat.add_le_add_iff_right]
    cases (Pinpoint.probe path).run fs with
    | ok r => exact ih r
    | error c => exact Nat.zero_le n

/-! ## File systems that find the same -/

/-- On file systems that find the same at the paths that it may probe, it comes to the same. -/
theorem run_congr (h : Probing P n x)
    (hsame : ∀ path, P path → (Pinpoint.probe path).run fs = (Pinpoint.probe path).run fs') :
    x.run fs = x.run fs' := by
  induction h with
  | answer n a => rfl
  | crash n c => rfl
  | @probe n path next hpath _ ih =>
    rw [run_bind, run_bind, hsame path hpath]
    cases (Pinpoint.probe path).run fs' with
    | ok r => exact ih r
    | error c => rfl

/-- And it asks for the same. -/
theorem calls_congr (h : Probing P n x)
    (hsame : ∀ path, P path → (Pinpoint.probe path).run fs = (Pinpoint.probe path).run fs') :
    x.calls fs = x.calls fs' := by
  induction h with
  | answer n a => rfl
  | crash n c => rfl
  | @probe n path next hpath _ ih =>
    rw [calls_bind, calls_bind, calls_probe, calls_probe, hsame path hpath]
    cases (Pinpoint.probe path).run fs' with
    | ok r => exact congrArg ([path] ++ ·) (ih r)
    | error c => rfl

end Probing

end Inquiry

end Pinpoint
