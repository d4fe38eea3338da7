import Pinpoint.Proofs.CommandLine.Action

/-!
# Actions that only talk

Reading a command line, printing and complaining change nothing but what has been printed and
complained of, and what is said does not depend on what has been done before, the logger apart.

* `Action.Talks`: an action only talks.
* `Action.Talks.bind`, `Action.talks_forM`: so do such actions, one after the other.
* `talks_read`, `talks_resolveArgs`, …: reading a command line.
* `talks_printCommandLine`, `talks_contextOf`, `talks_printOutcomes`: steps of a command.
-/

namespace Pinpoint.CommandLine

variable {α β ε : Type}

/-! ## Specification -/

/-- What has been done, with something more printed and complained of. -/
def Journal.heard (j : Journal) (printed complained : Text) : Journal :=
  { j with printed := j.printed ++ printed, complained := j.complained ++ complained }

/-- An action only talks: what it prints, what it complains of and how it ends follow from what is
    around it and from the logger, and it does nothing else. -/
def Action.Talks (x : Action α) : Prop :=
  ∀ around logger, ∃ printed complained result, ∀ j : Journal, j.logger = logger →
    x.run around j = (j.heard printed complained, result)

/-! ## What has been heard -/

theorem Journal.heard_nil (j : Journal) : j.heard [] [] = j := by
  simp [heard]

theorem Journal.heard_heard (j : Journal) (printed complained printed' complained' : Text) :
    (j.heard printed complained).heard printed' complained' =
      j.heard (printed ++ printed') (complained ++ complained') := by
  simp [heard]

/-! ## One action after another -/

namespace Action

theorem talks_of_run {x : Action α} {result : Except Stop α}
    (h : ∀ around j, x.run around j = (j, result)) : Talks x := fun around _ =>
  ⟨[], [], result, fun j _ => (h around j).trans (by rw [Journal.heard_nil])⟩

theorem talks_pure (a : α) : Talks (pure a) := talks_of_run fun _ _ => rfl

theorem talks_stop (s : Stop) : Talks (stop s : Action α) := talks_of_run fun _ _ => rfl

theorem talks_around : Talks around := fun a _ =>
  ⟨[], [], .ok a, fun j _ => by rw [around_run, Journal.heard_nil]⟩

theorem Talks.bind {x : Action α} {g : α → Action β} (hx : Talks x) (hg : ∀ a, Talks (g a)) :
    Talks (x >>= g) := by
  intro around logger
  obtain ⟨printed, complained, result, hrun⟩ := hx around logger
  cases result with
  | error s => exact ⟨printed, complained, .error s, fun j hj => run_bind_of_error (hrun j hj)⟩
  | ok a =>
    obtain ⟨printed', complained', result, hrun'⟩ := hg a around logger
    refine ⟨printed ++ printed', complained ++ complained', result, fun j hj => ?_⟩
    rw [run_bind_of_ok (hrun j hj), hrun' (j.heard printed complained) hj, Journal.heard_heard]

theorem talks_forM {f : α → Action Unit} {l : List α} (h : ∀ a ∈ l, Talks (f a)) :
    Talks (l.forM f) := by
  induction l with
  | nil => exact talks_pure _
  | cons a l ih =>
    obtain ⟨ha, hl⟩ := List.forall_mem_cons.1 h
    exact ha.bind fun _ => ih hl

/-! ## Steps of a command -/

theorem talks_orUncaught (cause : ε → Uncaught) (r : Except ε α) : Talks (orUncaught cause r) := by
  cases r with
  | ok a => exact talks_pure a
  | error e => exact talks_stop _

theorem talks_orMisuse (r : Except Misuse α) : Talks (orMisuse r) := by
  cases r with
  | ok a => exact talks_pure a
  | error fault => exact talks_stop _

theorem talks_write (t : Text) : Talks (write t) := fun _ _ =>
  ⟨t, [], .ok (), fun j _ => by simp [Journal.heard]⟩

theorem talks_say (markup : Text) : Talks (say markup) :=
  talks_around.bind fun _ => (talks_orUncaught _ _).bind talks_write

theorem talks_sayUnbroken (markup : Text) : Talks (sayUnbroken markup) :=
  talks_around.bind fun _ => (talks_orUncaught _ _).bind talks_write

theorem talks_complain (markup : Text) : Talks (complain markup) :=
  talks_around.bind fun _ => (talks_orUncaught _ _).bind fun t _ _ =>
    ⟨[], t, .ok (), fun j _ => by simp [Journal.heard]⟩

/-- What is said of a text is said, and what is said of surrogates stops the command. -/
theorem talks_sayOf (shape : Text → Text) (p : Points) : Talks (sayOf shape p) := by
  rw [sayOf]
  split
  · exact talks_say _
  · exact talks_around.bind fun _ => (talks_orUncaught _ _).bind fun _ => talks_stop _

theorem talks_log (level : Logging.Level) (message : Text) : Talks (log level message) := by
  intro around logger
  by_cases hshows : logger.shows Logging.loggerName level.number
  · refine ⟨[], Console.printMessage around.width level.name message, .ok (), fun j hj => ?_⟩
    rw [log, run_bind_of_ok around_run, record_run, if_pos (hj ▸ hshows)]
    simp [Journal.heard]
  · refine ⟨[], [], .ok (), fun j hj => ?_⟩
    rw [log, run_bind_of_ok around_run, record_run, if_neg (hj ▸ hshows), Journal.heard_nil]

theorem talks_fail (message : Points) : Talks (fail message : Action α) :=
  (talks_sayOf _ _).bind fun _ => talks_stop _

theorem talks_showUsage (synopsis : Text) : Talks (showUsage synopsis : Action α) :=
  (talks_write _).bind fun _ => talks_stop _

end Action

open Pinpoint.CommandLine.Action

theorem talks_complainAndExit (message : Text) : Talks (complainAndExit message : Action α) :=
  (talks_complain _).bind fun _ => talks_stop _

/-! ## Reading a command line -/

/-- How a command is used is shown instead of anything else. -/
theorem talks_unlessHelp {help : Bool} {synopsis : Text} {rest : Unit → Action α}
    (h : ∀ u, Talks (rest u)) :
    Talks (if help then showUsage synopsis >>= rest else rest ()) := by
  split_ifs
  · exact (talks_showUsage synopsis).bind h
  · exact h ()

theorem talks_read (args : List Text) : Talks (Request.read args) := by
  refine (talks_orMisuse _).bind fun p => talks_unlessHelp fun _ => ?_
  split
  · exact talks_stop _
  · split
    · exact talks_stop _
    · exact talks_pure _

theorem talks_initArgs (args : List Text) : Talks (InitArgs.read args) := by
  refine (talks_orMisuse _).bind fun p => talks_unlessHelp fun _ => ?_
  split
  · exact talks_pure _
  · exact talks_stop _

theorem talks_checkResolveOption (p : Parsed ResolveOption) (option : ResolveOption) :
    Talks (checkResolveOption p option) := by
  cases option with
  | jobs => exact (talks_orMisuse _).bind fun _ => talks_pure _
  | cwd =>
    rw [checkResolveOption]
    split_ifs
    · exact talks_stop _
    · exact talks_pure _
  | format => exact talks_pure _
  | help => exact talks_pure _

theorem talks_resolveArgs (args : List Text) : Talks (ResolveArgs.read args) := by
  refine (talks_orMisuse _).bind fun p => talks_unlessHelp fun _ => ?_
  refine (talks_forM fun option _ => talks_checkResolveOption p option).bind fun _ => ?_
  dsimp only
  split_ifs
  · exact (talks_stop _).bind fun _ => talks_pure _
  · exact talks_pure _

theorem talks_openArgs (args : List Text) : Talks (OpenArgs.read args) := by
  refine (talks_orMisuse _).bind fun p => talks_unlessHelp fun _ => ?_
  split
  · exact talks_stop _
  · exact talks_pure _
  · exact talks_stop _

/-! ## Steps of opening -/

theorem talks_printCommandLine (line : Points) : Talks (printCommandLine line) := by
  rw [printCommandLine]
  split
  · exact talks_write _
  · exact talks_fail _

/-! ## Steps of resolving -/

theorem talks_contextOf (cwd : Option Path) : Talks (contextOf cwd) := by
  refine talks_around.bind fun around => ?_
  split
  · exact talks_pure _
  · exact (talks_log _ _).bind fun _ => talks_pure _
  · split_ifs
    · exact talks_pure _
    · split
      · exact talks_pure _
      · exact talks_stop _

theorem talks_printOutcomes (format : Text) (outcomes : List Outcome) :
    Talks (printOutcomes format outcomes) := by
  rw [printOutcomes]
  split_ifs
  · exact talks_write _
  · exact talks_write _
  · exact talks_forM fun o _ => talks_sayUnbroken _

end Pinpoint.CommandLine
