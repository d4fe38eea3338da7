import Pinpoint.FileSystem.Table
import Pinpoint.Proofs.CommandLine.Init
import Pinpoint.Proofs.Resolver.Batch

/-!
# Resolving on the command line

A run that resolves arguments reads its options, takes what they leave open from the
settings, and comes to one outcome for each argument. All that is left to do then is to
print the outcomes, and nothing has been printed before.

* `ResolveRun`: such a run, with what comes of each step.
* `ResolveRun.report_eq`: what it leaves behind.
-/

namespace Pinpoint.CommandLine

variable {around : Surroundings} {tree : Tree} {args : List Text} {j j' : Journal} {α : Type}

/-! ## Specification -/

/-- A run that resolves arguments: what its command line asks for, what comes of each step, and that
it does. -/
structure ResolveRun (around : Surroundings) (tree : Tree) (args : List Text) where
  request : Request
  logger : Logging.Logger
  asked : ResolveArgs
  settings : Settings
  format : Text
  jobs : Int
  context : Context
  ready : Journal
  outcomes : List Outcome
  read : (Request.read args).run around { tree } = ({ tree }, .ok request)
  command : request.command = .resolve
  configured : (configure request).run around { tree } = ({ tree, logger }, .ok ())
  asks : (ResolveArgs.read request.args).run around { tree, logger } =
    ({ tree, logger }, .ok asked)
  opened : Settings.open tree around.place around.environment.dir = .ok settings
  format_eq : asked.format.elim settings.outputFormat .ok = .ok format
  jobs_eq : asked.jobs.elim settings.jobs .ok = .ok jobs
  known : format ∈ Settings.formats
  based : (contextOf asked.cwd).run around { tree, logger } = (ready, .ok context)
  resolved : (resolveAll context asked.args (some jobs)).run around.fileSystem = .ok outcomes

/-! ## Steps before printing -/

theorem given_run {opt : Option α} {setting : Except Settings.Fault α} {a : α}
    (h : opt.elim setting .ok = .ok a) : (given opt setting).run around j = (j, .ok a) := by
  cases opt with
  | some b =>
    cases h
    rfl
  | none =>
    obtain rfl : setting = .ok a := h
    rfl

/-- A missing working directory is complained of, not printed. -/
theorem printed_contextOf {cwd : Option Path} {context : Context}
    (h : (contextOf cwd).run around j = (j', .ok context)) : j'.printed = j.printed := by
  rw [contextOf, Action.run_bind_of_ok Action.around_run] at h
  split at h
  · cases h
    rfl
  · obtain ⟨j₁, _, hlog, hpure⟩ := Action.run_bind_ok_iff.1 h
    cases hpure
    cases hlog
    dsimp only
    split_ifs <;> rfl
  · split_ifs at h
    · cases h
      rfl
    · split at h
      · cases h
        rfl
      · cases h

/-- Whatever the number of workers, outcomes are those that the arguments have alone. -/
theorem settles_of_run_resolveAll {fs : FileSystem} {ctx : Context} {args : List Text}
    {workers : Option Int} {outcomes : List Outcome}
    (h : (resolveAll ctx args workers).run fs = .ok outcomes) :
    List.Forall₂ (Settles fs ctx) args outcomes := by
  unfold resolveAll at h
  split at h
  · cases h
    exact .nil
  · exact run_resolveEach_ok_iff.1 h
  · split_ifs at h
    · cases h
    · exact run_resolveEach_ok_iff.1 h

/-! ## Printing -/

/-- Prints the outcomes, and ends with exit code 1 unless every argument was resolved. -/
def finish (format : Text) (outcomes : List Outcome) : Action Unit := do
  printOutcomes format outcomes
  unless outcomes.all (·.isOk) do Action.exit 1

namespace ResolveRun

variable (r : ResolveRun around tree args)

theorem printed_ready : r.ready.printed = [] :=
  printed_contextOf r.based

theorem settles : List.Forall₂ (Settles around.fileSystem r.context) r.asked.args r.outcomes :=
  settles_of_run_resolveAll r.resolved

theorem arguments_eq : r.outcomes.map (·.argument) = r.asked.args := by
  have h := List.forall₂_map_left_iff.2 (r.settles.flip.imp fun _ _ h => h.argument_eq)
  rwa [List.forall₂_eq_eq_eq] at h

theorem resolveCommand_run :
    (resolveCommand r.asked).run around { tree, logger := r.logger } =
      (finish r.format r.outcomes).run around r.ready := by
  have hsettings : (orWrongReported (.ok r.settings)).run around { tree, logger := r.logger } =
      ({ tree, logger := r.logger }, .ok r.settings) := rfl
  have hknown : (!Settings.formats.contains r.format) = false := by
    rw [List.contains_iff_mem.2 r.known]
    rfl
  rw [resolveCommand, Action.run_bind_of_ok Action.openSettings_run, r.opened,
    Action.run_bind_of_ok hsettings, Action.run_bind_of_ok (given_run r.format_eq),
    Action.run_bind_of_ok (given_run r.jobs_eq)]
  simp only [hknown, Bool.false_eq_true, if_false]
  rw [Action.run_bind_of_ok r.based,
    Action.run_bind_of_ok Action.around_run, r.resolved,
    Action.run_bind_of_ok (Action.orUncaught_run_ok _ _)]
  rfl

theorem action_run :
    (action args).run around { tree } = (finish r.format r.outcomes).run around r.ready := by
  rw [action, Action.run_bind_of_ok r.read, Action.run_bind_of_ok r.configured, r.command]
  change (ResolveArgs.read r.request.args >>= resolveCommand).run around _ = _
  rw [Action.run_bind_of_ok r.asks, r.resolveCommand_run]

/-- What a run leaves behind whose outcomes can be printed. -/
theorem report_eq (h : (printOutcomes r.format r.outcomes).run around r.ready = (j, .ok ())) :
    (run around tree args).journal = j ∧
      (run around tree args).code = if r.outcomes.all (·.isOk) then 0 else 1 := by
  have hrun := r.action_run
  rw [finish, Action.run_bind_of_ok h] at hrun
  rw [run]
  split_ifs at hrun ⊢ with hall
  · rw [Action.report_of_ok hrun]
    exact ⟨rfl, rfl⟩
  · rw [Action.report_of_error hrun]
    exact ⟨rfl, rfl⟩

end ResolveRun

/-! ## Runs without settings -/

/-- A user who works on some files and has no settings. -/
def workSurroundings (files : Table) : Surroundings :=
  { homeSurroundings with
    fileSystem := files.toFileSystem
    workingDir := some ⟨.slash, ["work"]⟩ }

theorem open_homeNodes :
    Settings.open ⟨homeNodes⟩ homeSurroundings.place homeSurroundings.environment.dir =
      .ok (.unread homeSurroundings.environment.dir) := by
  have hlawful : Tree.Lawful ⟨homeNodes⟩ := Tree.lawful_of_nodes (by decide)
  have hsolid : Tree.Solid ⟨homeNodes⟩ homeSettings := by decide
  have hfind : Tree.find ⟨homeNodes⟩ homeSurroundings.place homeSurroundings.environment.dir =
      .ok homeSettings := Tree.find_toPath hlawful hsolid (by decide)
  have hmissing := Settings.find_fileIn (by decide) hfind rfl (.of_none rfl)
  have hexists := Settings.fileExists_of_missing (by decide) hmissing
  rw [Settings.open, Settings.load, hexists]
  rfl

/-- What this user has done before a command begins. -/
def workJournal : Journal where
  tree := ⟨homeNodes⟩
  logger := .ofLevel .warning

theorem configure_work (files : Table) {command : Command} (hcommand : command ≠ .init)
    (args : List Text) :
    (configure { command, args }).run (workSurroundings files)
      { tree := ⟨homeNodes⟩ } = (workJournal, .ok ()) := by
  have hopen : Action.openSettings.run (workSurroundings files) { tree := ⟨homeNodes⟩ } =
      ({ tree := ⟨homeNodes⟩ }, .ok (.ok (.unread homeSurroundings.environment.dir))) := by
    rw [Action.openSettings_run]
    exact congrArg (fun opened => (_, Except.ok opened)) open_homeNodes
  have hlevel : (chooseLevel { command, args }).run (workSurroundings files)
      { tree := ⟨homeNodes⟩ } = ({ tree := ⟨homeNodes⟩ }, .ok "WARNING") := by
    cases command with
    | init => exact absurd rfl hcommand
    | resolve => exact Action.run_bind_of_ok hopen
    | «open» => exact Action.run_bind_of_ok hopen
  rw [configure, Action.run_bind_of_ok hlevel]
  rfl

/-- Nothing is an option that does not look like one. -/
theorem ofArgs_positional {κ : Type} (opts : List (Opt κ))
    (h : ∀ arg ∈ args, isDashed arg = false) : Parsed.ofArgs opts true args = .ok { args } := by
  induction args with
  | nil => rfl
  | cons arg args ih =>
    have harg : isDashed arg = false := h arg List.mem_cons_self
    have hends : arg ≠ ['-', '-'] := by
      rintro rfl
      cases harg
    rw [Parsed.ofArgs, if_neg hends, harg, ih fun a ha => h a (List.mem_cons_of_mem _ ha)]
    rfl

theorem read_positional (hne : args ≠ []) (h : ∀ arg ∈ args, isDashed arg = false) (j : Journal) :
    (ResolveArgs.read args).run around j = (j, .ok { args }) := by
  rw [ResolveArgs.read, ofArgs_positional _ h]
  cases args with
  | nil => exact absurd rfl hne
  | cons arg args => rfl

/-- An option for the format in front of the arguments. -/
theorem read_format {format : Text} (hformat : format ≠ []) (hne : args ≠ [])
    (h : ∀ arg ∈ args, isDashed arg = false) (j : Journal) :
    (ResolveArgs.read ("--format" :: format :: args)).run around j =
      (j, .ok { args, format := some format }) := by
  have hargs : Parsed.ofArgs resolveOptions true ("--format" :: format :: args) =
      .ok { given := [(.format, format)], args } := by
    rw [Parsed.ofArgs]
    change (Parsed.ofArgs resolveOptions true args >>= fun p =>
      pure (Parsed.addGiven [(.format, format)] p)) = _
    rw [ofArgs_positional _ h]
    rfl
  rw [ResolveArgs.read, hargs]
  cases args with
  | nil => exact absurd rfl hne
  | cons arg args =>
    cases format with
    | nil => exact absurd rfl hformat
    | cons c format => rfl

/-- A run of this user that leaves the directory and the number of workers open. -/
def workRun (files : Table) (args positional : List Text) (option : Option Text) (format : Text)
    (outcomes : List Outcome)
    (asks : ∀ j, (ResolveArgs.read args).run (workSurroundings files) j =
      (j, .ok { args := positional, format := option }))
    (hformat : option.elim (.ok "text".toList) .ok = (.ok format : Except Settings.Fault Text))
    (known : format ∈ Settings.formats)
    (resolved : (resolveAll ⟨⟨.slash, ["work"]⟩⟩ positional (some 4)).run files.toFileSystem =
      .ok outcomes) :
    ResolveRun (workSurroundings files) ⟨homeNodes⟩ ("resolve" :: args) where
  request := { command := .resolve, args }
  logger := workJournal.logger
  asked := { args := positional, format := option }
  settings := .unread homeSurroundings.environment.dir
  format := format
  jobs := 4
  context := ⟨⟨.slash, ["work"]⟩⟩
  ready := workJournal
  outcomes := outcomes
  read := read_command rfl args
  command := rfl
  configured := configure_work files (by decide) args
  asks := asks _
  opened := open_homeNodes
  format_eq := hformat
  jobs_eq := rfl
  known := known
  based := rfl
  resolved := resolved

end Pinpoint.CommandLine
