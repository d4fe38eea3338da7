import Mathlib.Logic.Basic
import Pinpoint.FileSystem.Table

/-!
# Findings on an unchanging file system

What a computation comes to on a file system is put together from what its parts
come to (`run_bind_of_ok`, `run_bind_of_error`, `run_bind_ok_iff`,
`run_bind_error_iff`). The part that every resolution is made of is the probe of a
candidate: `fs.Finds path r` says that it ends and finds `r`, and `fs.Answers path`
that it ends at all. A file system that fails only with errors of the operating
system answers for every path; tables do (`Table.answers`).
-/

namespace Pinpoint

namespace Inquiry

variable {α β γ : Type} {fs : FileSystem} {x : Inquiry α} {f g : α → Inquiry β}

/-! ## Running a computation that goes on -/

theorem bind_assoc (x : Inquiry α) (f : α → Inquiry β) (k : β → Inquiry γ) :
    (x.bind f).bind k = x.bind fun a => (f a).bind k := by
  induction x with
  | answer a => rfl
  | crash c => rfl
  | canonicalize path next ih => exact congrArg (canonicalize path) (funext ih)
  | kind path next ih => exact congrArg (kind path) (funext ih)

@[simp] theorem run_answer (fs : FileSystem) (a : α) : (answer a).run fs = .ok a := rfl

@[simp] theorem run_crash (fs : FileSystem) (c : Crash) :
    (crash c : Inquiry α).run fs = .error c := rfl

theorem run_bind_of_ok {a : α} (h : x.run fs = .ok a) : (x.bind f).run fs = (f a).run fs := by
  rw [run_bind, h]

theorem run_bind_of_error {c : Crash} (h : x.run fs = .error c) :
    (x.bind f).run fs = .error c := by
  rw [run_bind, h]

/-- How a computation goes on matters only for the answers that it can give. -/
theorem run_bind_congr (h : ∀ a, x.run fs = .ok a → (f a).run fs = (g a).run fs) :
    (x.bind f).run fs = (x.bind g).run fs := by
  rw [run_bind, run_bind]
  cases hx : x.run fs with
  | ok a => exact h a hx
  | error c => rfl

theorem run_bind_ok_iff {b : β} :
    (x.bind f).run fs = .ok b ↔ ∃ a, x.run fs = .ok a ∧ (f a).run fs = .ok b := by
  rw [run_bind]
  cases x.run fs with
  | ok a => simp
  | error c => simp

theorem run_bind_error_iff {c : Crash} :
    (x.bind f).run fs = .error c ↔
      x.run fs = .error c ∨ ∃ a, x.run fs = .ok a ∧ (f a).run fs = .error c := by
  rw [run_bind]
  cases x.run fs with
  | ok a => simp
  | error c' => simp

end Inquiry

/-! ## Probes -/

namespace FileSystem

/-- Probing a path ends and finds `r`. -/
def Finds (fs : FileSystem) (path : Text) (r : Probe) : Prop := (probe path).run fs = .ok r

/-- Probing a path ends: with an entry, or with an error of the operating system. -/
def Answers (fs : FileSystem) (path : Text) : Prop := ∃ r, fs.Finds path r

variable {fs : FileSystem} {path : Text}

theorem Finds.unique {r r' : Probe} (h : fs.Finds path r) (h' : fs.Finds path r') : r = r' :=
  Except.ok.inj (h.symm.trans h')

theorem Finds.iff {r r' : Probe} (h : fs.Finds path r) : fs.Finds path r' ↔ r' = r :=
  ⟨fun h' => h'.unique h, fun hr => hr ▸ h⟩

/-- Only a refusal for a NUL character keeps a probe from ending. -/
theorem answers_iff : fs.Answers path ↔ fs.canonicalize path ≠ .error .nulCharacter := by
  unfold Answers Finds probe
  rw [Inquiry.run]
  cases fs.canonicalize path with
  | ok p => exact ⟨fun _ => by simp, fun _ => ⟨_, rfl⟩⟩
  | error refusal =>
    cases refusal with
    | os e => exact ⟨fun _ => by simp, fun _ => ⟨_, rfl⟩⟩
    | nulCharacter => simp

theorem run_probe_of_not_answers (h : ¬ fs.Answers path) :
    (probe path).run fs = .error .nulCharacter := by
  rw [answers_iff, not_not] at h
  rw [probe, Inquiry.run, h]
  rfl

/-- A probe finds an entry of the kind that its canonical path has. -/
theorem finds_of_canonicalize {c : Path} (h : fs.canonicalize path = .ok c) :
    fs.Finds path (.ofKind c (fs.kind c)) := by
  rw [Finds, probe, Inquiry.run, h]
  rfl

theorem Finds.canonicalize_of_path? {r : Probe} {c : Path} (h : fs.Finds path r)
    (hc : r.path? = some c) : fs.canonicalize path = .ok c ∧ r = .ofKind c (fs.kind c) := by
  cases hcanonical : fs.canonicalize path with
  | ok c' =>
    obtain rfl := h.unique (finds_of_canonicalize hcanonical)
    cases hkind : fs.kind c' <;> rw [hkind] at hc <;> cases hc <;> exact ⟨rfl, by rw [hkind]⟩
  | error refusal =>
    rw [Finds, probe, Inquiry.run, hcanonical] at h
    cases refusal with
    | os e =>
      cases h
      split at hc <;> cases hc
    | nulCharacter => cases h

end FileSystem

/-- Tables fail only with errors of the operating system. -/
theorem Table.answers (t : Table) (path : Text) : t.toFileSystem.Answers path := by
  rw [FileSystem.answers_iff, toFileSystem]
  dsimp only
  split <;> simp

end Pinpoint
