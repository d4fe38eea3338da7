import Mathlib.Data.List.Basic
import Mathlib.Tactic.Push

/-!
# Steps that may fail

One step after another fails at the first one that does. What can go wrong in the steps can go wrong
in the whole, and if the whole goes wrong in another way, so does one of them.

* `exists_mapM_ok_iff`: several steps that go well.
* `mapM_error_iff`, `foldlM_error_iff`: the first of several steps that fails.
* `FailsOnly`: what can go wrong; one step after another keeps it so.
* `not_failsOnly_bind_iff`, `not_failsOnly_mapM_iff`, `not_failsOnly_foldlM_iff`: the step that goes
  wrong in another way.
-/

namespace Pinpoint

variable {α β ε : Type} {P : ε → Prop}

/-- Nothing but a `P` goes wrong. -/
def FailsOnly (P : ε → Prop) (r : Except ε α) : Prop := ∀ e, r = .error e → P e

/-! ## The first failure -/

/-- The first step fails, or the second one does. -/
theorem bind_error_iff {r : Except ε α} {f : α → Except ε β} {e : ε} :
    r >>= f = .error e ↔ r = .error e ∨ ∃ a, r = .ok a ∧ f a = .error e := by
  cases r <;> simp [bind, Except.bind]

theorem bind_ok_iff {r : Except ε α} {f : α → Except ε β} {b : β} :
    r >>= f = .ok b ↔ ∃ a, r = .ok a ∧ f a = .ok b := by
  cases r <;> simp [bind, Except.bind]

/-- A list goes well if every item of it does. -/
theorem exists_mapM_ok_iff {f : α → Except ε β} {l : List α} :
    (∃ bs, l.mapM f = .ok bs) ↔ ∀ a ∈ l, ∃ b, f a = .ok b := by
  induction l with
  | nil => simp [pure, Except.pure]
  | cons a l ih =>
    rw [List.forall_mem_cons, ← ih, List.mapM_cons]
    cases f a <;> cases l.mapM f <;> simp [bind, Except.bind, pure, Except.pure]

/-- A list fails at the first item that does. -/
theorem mapM_error_iff {f : α → Except ε β} {l : List α} {e : ε} :
    l.mapM f = .error e ↔
      ∃ before a after, l = before ++ a :: after ∧ (∀ b ∈ before, ∃ c, f b = .ok c) ∧
        f a = .error e := by
  induction l with
  | nil => simp [pure, Except.pure]
  | cons a l ih =>
    have hcons : (a :: l).mapM f = .error e ↔
        f a = .error e ∨ (∃ b, f a = .ok b) ∧ l.mapM f = .error e := by
      rw [List.mapM_cons]
      cases f a <;> cases l.mapM f <;> simp [bind, Except.bind, pure, Except.pure]
    rw [hcons, ih]
    constructor
    · rintro (ha | ⟨ha, before, b, after, rfl, hbefore, hb⟩)
      · exact ⟨[], a, l, rfl, by simp, ha⟩
      · exact ⟨a :: before, b, after, rfl, List.forall_mem_cons.2 ⟨ha, hbefore⟩, hb⟩
    · rintro ⟨before, b, after, hl, hbefore, hb⟩
      cases before with
      | nil =>
        obtain ⟨rfl, -⟩ := List.cons.inj hl
        exact .inl hb
      | cons c before =>
        obtain ⟨rfl, rfl⟩ := List.cons.inj hl
        obtain ⟨ha, hbefore⟩ := List.forall_mem_cons.1 hbefore
        exact .inr ⟨ha, before, b, after, rfl, hbefore, hb⟩

/-- Steps from one value to the next fail at the first one that does. -/
theorem foldlM_error_iff {f : β → α → Except ε β} {l : List α} {b : β} {e : ε} :
    l.foldlM f b = .error e ↔
      ∃ before a after c, l = before ++ a :: after ∧ before.foldlM f b = .ok c ∧
        f c a = .error e := by
  induction l generalizing b with
  | nil => simp [pure, Except.pure]
  | cons a l ih =>
    rw [List.foldlM_cons, bind_error_iff]
    constructor
    · rintro (ha | ⟨b', hb', hl⟩)
      · exact ⟨[], a, l, b, rfl, rfl, ha⟩
      · obtain ⟨before, a', after, c, rfl, hbefore, hc⟩ := ih.1 hl
        refine ⟨a :: before, a', after, c, rfl, ?_, hc⟩
        rw [List.foldlM_cons, hb']
        exact hbefore
    · rintro ⟨before, a', after, c, hl, hbefore, hc⟩
      cases before with
      | nil =>
        obtain ⟨rfl, -⟩ := List.cons.inj hl
        cases hbefore
        exact .inl hc
      | cons a'' before =>
        obtain ⟨rfl, rfl⟩ := List.cons.inj hl
        rw [List.foldlM_cons, bind_ok_iff] at hbefore
        obtain ⟨b', hb', hbefore⟩ := hbefore
        exact .inr ⟨b', hb', ih.2 ⟨before, a', after, c, rfl, hbefore, hc⟩⟩

/-! ## What goes wrong -/

theorem failsOnly_ok (a : α) : FailsOnly P (.ok a) := fun _ h => by cases h

theorem failsOnly_error {e : ε} (h : P e) : FailsOnly P (.error e : Except ε α) := by
  rintro _ ⟨⟩
  exact h

theorem FailsOnly.bind {r : Except ε α} {f : α → Except ε β} (hr : FailsOnly P r)
    (hf : ∀ a, FailsOnly P (f a)) : FailsOnly P (r >>= f) := by
  cases r with
  | ok a => exact hf a
  | error e => exact failsOnly_error (hr e rfl)

theorem not_failsOnly_iff {r : Except ε α} :
    ¬ FailsOnly P r ↔ ∃ e, r = .error e ∧ ¬ P e := by
  unfold FailsOnly
  push Not
  rfl

theorem not_failsOnly_error_iff {e : ε} : ¬ FailsOnly P (.error e : Except ε α) ↔ ¬ P e :=
  not_congr ⟨fun h => h e rfl, failsOnly_error⟩

/-- The first step fails with something else, or the second one does. -/
theorem not_failsOnly_bind_iff {r : Except ε α} {f : α → Except ε β} :
    ¬ FailsOnly P (r >>= f) ↔ ¬ FailsOnly P r ∨ ∃ a, r = .ok a ∧ ¬ FailsOnly P (f a) := by
  cases r with
  | ok a =>
    change ¬ FailsOnly P (f a) ↔ _
    simp [failsOnly_ok]
  | error e =>
    change ¬ FailsOnly P (.error e : Except ε β) ↔ _
    simp [not_failsOnly_error_iff]

/-- The first item of a list that fails does so with something else. -/
theorem not_failsOnly_mapM_iff {f : α → Except ε β} {l : List α} :
    ¬ FailsOnly P (l.mapM f) ↔
      ∃ before a after, l = before ++ a :: after ∧ (∀ b ∈ before, ∃ c, f b = .ok c) ∧
        ¬ FailsOnly P (f a) := by
  simp only [not_failsOnly_iff, mapM_error_iff]
  constructor
  · rintro ⟨e, ⟨before, a, after, hl, hbefore, ha⟩, he⟩
    exact ⟨before, a, after, hl, hbefore, e, ha, he⟩
  · rintro ⟨before, a, after, hl, hbefore, e, ha, he⟩
    exact ⟨e, ⟨before, a, after, hl, hbefore, ha⟩, he⟩

/-- The first of several steps that fails does so with something else. -/
theorem not_failsOnly_foldlM_iff {f : β → α → Except ε β} {l : List α} {b : β} :
    ¬ FailsOnly P (l.foldlM f b) ↔
      ∃ before a after c, l = before ++ a :: after ∧ before.foldlM f b = .ok c ∧
        ¬ FailsOnly P (f c a) := by
  simp only [not_failsOnly_iff, foldlM_error_iff]
  constructor
  · rintro ⟨e, ⟨before, a, after, c, hl, hbefore, ha⟩, he⟩
    exact ⟨before, a, after, c, hl, hbefore, e, ha, he⟩
  · rintro ⟨before, a, after, c, hl, hbefore, e, ha, he⟩
    exact ⟨e, ⟨before, a, after, c, hl, hbefore, ha⟩, he⟩

end Pinpoint
