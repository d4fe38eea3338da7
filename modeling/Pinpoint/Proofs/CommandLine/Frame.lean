import Pinpoint.Proofs.CommandLine.Talking

/-!
# What commands leave alone

Most steps of a command print or complain. They leave the tree of the settings and the list of
started programs as they are, however they end.

* `Action.Keeps`: an action leaves something of what has been done as it is.
* `Action.Keeps.bind`: so do two such actions, one after the other.
* `Lasting`, `Action.Talks.keeps`: the texts that are printed have no part in it, so that actions
  which only talk leave it as it is.
* `Lasting.keeps_say`, `Lasting.keeps_fail`, …: steps that commands have in common.
-/

namespace Pinpoint.CommandLine

variable {α β γ ε : Type} {f : Journal → γ}

/-! ## Specification -/

/-- However an action ends, it leaves something of what has been done as it is. -/
def Action.Keeps (f : Journal → γ) (x : Action α) : Prop :=
  ∀ around j, f (x.run around j).1 = f j

/-- Something of what has been done that texts have no part in. -/
structure Lasting (f : Journal → γ) : Prop where
  printed : ∀ j t, f { j with printed := t } = f j
  complained : ∀ j t, f { j with complained := t } = f j

theorem lasting_tree : Lasting Journal.tree := ⟨fun _ _ => rfl, fun _ _ => rfl⟩

theorem lasting_started : Lasting Journal.started := ⟨fun _ _ => rfl, fun _ _ => rfl⟩

/-! ## One action after another -/

namespace Action

theorem keeps_pure (f : Journal → γ) (a : α) : Keeps f (pure a) := fun _ _ => rfl

theorem keeps_stop (f : Journal → γ) (s : Stop) : Keeps f (stop s : Action α) := fun _ _ => rfl

theorem keeps_around (f : Journal → γ) : Keeps f around := fun _ _ => rfl

theorem Keeps.bind {x : Action α} {g : α → Action β} (hx : Keeps f x) (hg : ∀ a, Keeps f (g a)) :
    Keeps f (x >>= g) := by
  intro around j
  have hfirst := hx around j
  rw [bind_run]
  split
  · next j' a hrun =>
    rw [hrun] at hfirst
    exact (hg a around j').trans hfirst
  · next j' s hrun =>
    rw [hrun] at hfirst
    exact hfirst

theorem keeps_orUncaught (f : Journal → γ) (cause : ε → Uncaught) (r : Except ε α) :
    Keeps f (orUncaught cause r) := by
  cases r <;> exact fun _ _ => rfl

theorem keeps_openSettings (f : Journal → γ) : Keeps f openSettings := fun _ _ => rfl

theorem keeps_orReported {isReported : Settings.Fault → Bool} {report : Settings.Fault → Action α}
    (h : ∀ fault, Keeps f (report fault)) (r : Except Settings.Fault α) :
    Keeps f (orReported isReported report r) := by
  cases r with
  | ok a => exact keeps_pure f a
  | error fault =>
    rw [orReported]
    split_ifs
    · exact h fault
    · exact keeps_stop f _

theorem keeps_ite {p : Prop} [Decidable p] {x y : Action α} (hx : Keeps f x) (hy : Keeps f y) :
    Keeps f (if p then x else y) := by
  split_ifs
  · exact hx
  · exact hy

theorem journal_report (x : Action Unit) (around : Surroundings) (tree : Tree) :
    (x.report around tree).journal = (x.run around { tree }).1 := by
  rw [report]
  split <;> next h => rw [h]

end Action

/-! ## Steps of a command -/

/-- Whatever printing and complaining have no part in stays as it is. -/
theorem Action.Talks.keeps {x : Action α} (h : Talks x) (hf : Lasting f) : Keeps f x := by
  intro around j
  obtain ⟨printed, complained, result, hrun⟩ := h around j.logger
  rw [hrun j rfl]
  exact (hf.complained { j with printed := j.printed ++ printed } _).trans (hf.printed j _)

namespace Lasting

open Pinpoint.CommandLine.Action

variable (hf : Lasting f)

include hf

theorem keeps_write (t : Text) : Keeps f (write t) := (talks_write t).keeps hf

theorem keeps_say (markup : Text) : Keeps f (say markup) := (talks_say markup).keeps hf

theorem keeps_fail (message : Points) : Keeps f (fail message : Action α) :=
  (talks_fail message).keeps hf

theorem keeps_printCommandLine (line : Points) : Keeps f (printCommandLine line) :=
  (talks_printCommandLine line).keeps hf

theorem keeps_contextOf (cwd : Option Path) : Keeps f (contextOf cwd) :=
  (talks_contextOf cwd).keeps hf

end Lasting

end Pinpoint.CommandLine
