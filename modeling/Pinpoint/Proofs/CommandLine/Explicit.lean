import Pinpoint.Proofs.CommandLine.Startup
import Pinpoint.Proofs.CommandLine.Talking
import Pinpoint.Proofs.FileSystem.Tree.Outline

/-!
# Command lines that leave nothing to the settings

Settings are looked for in two places: for the level of the logger, and for the format and the
number of workers. An option that is given is taken in the stead of the setting, which is not even
looked at then. So where a command line gives all of them, it makes no difference which settings are
in force, right or wrong, as long as they load.

* `Explicit`: such a command line.
* `Action.Blind`: an action to which it makes no difference which settings are in force.
* `Action.Blind.bind`, `blind_openSettings`: one action after another, and looking for settings.
* `request_of_read`, `asked_of_read`: what such a command line asks for.
* `blind_configure`, `blind_resolveCommand`, `blind_action`: from the steps to the whole run.
* `explicit_options_shadow_settings`: two runs with different settings.
-/

namespace Pinpoint.CommandLine

variable {around : Surroundings} {tree : Tree} {args : List Text} {j j' : Journal}
  {α β : Type}

/-! ## Specification -/

/-- A command line that resolves arguments and gives the level of the logger, the format and the
    number of workers. Whether their values make sense is left open, as is everything else. -/
structure Explicit (args : List Text) where
  common : Parsed CommonOption
  rest : List Text
  read : Parsed.ofArgs commonOptions false args = .ok common
  command : common.args = "resolve".toList :: rest
  level : common.has .verbose = true ∨ common.nonempty? .logLevel ≠ none
  format : ∀ p, Parsed.ofArgs resolveOptions true rest = .ok p → p.nonempty? .format ≠ none
  jobs : ∀ p, Parsed.ofArgs resolveOptions true rest = .ok p → p.has .jobs = true

/-- The same has been done on another tree. -/
def Journal.withTree (j : Journal) (t : Tree) : Journal := { j with tree := t }

/-- It makes no difference to an action which settings are in force, as long as they load: it does
    the same on every tree, which it leaves as it is, and ends the same. -/
def Action.Blind (around : Surroundings) (x : Action α) : Prop :=
  ∀ j : Journal, ∃ (j' : Journal) (result : Except Stop α), ∀ t settings,
    around.settings t = .ok settings → x.run around (j.withTree t) = (j'.withTree t, result)

/-! ## One action after another -/

namespace Action

theorem Talks.blind {x : Action α} (h : Talks x) (around : Surroundings) : Blind around x := by
  intro j
  obtain ⟨printed, complained, result, hrun⟩ := h around j.logger
  exact ⟨j.heard printed complained, result, fun t _ _ => hrun (j.withTree t) rfl⟩

/-- What comes next only matters for the results that the first action can have. -/
theorem Blind.bind {x : Action α} {g : α → Action β} (hx : Blind around x)
    (hg : ∀ a, (∃ j j', x.run around j = (j', .ok a)) → Blind around (g a)) :
    Blind around (x >>= g) := by
  intro j
  obtain ⟨j₁, result, hrun⟩ := hx j
  by_cases hsome : ∃ t settings, around.settings t = .ok settings
  · cases result with
    | error stop =>
      exact ⟨j₁, .error stop, fun t settings ht => run_bind_of_error (hrun t settings ht)⟩
    | ok a =>
      obtain ⟨t₀, settings₀, ht₀⟩ := hsome
      obtain ⟨j₂, result, hnext⟩ := hg a ⟨_, _, hrun t₀ settings₀ ht₀⟩ j₁
      refine ⟨j₂, result, fun t settings ht => ?_⟩
      rw [run_bind_of_ok (hrun t settings ht), hnext t settings ht]
  · exact ⟨j, .error (.exit 0), fun t settings ht => absurd ⟨t, settings, ht⟩ hsome⟩

/-- Settings may be looked for, unless what comes next depends on them. -/
theorem blind_openSettings {g : Except Settings.Fault Settings → Action β}
    (hsame : ∀ s s', g (.ok s) = g (.ok s')) (hg : ∀ s, Blind around (g (.ok s))) :
    Blind around (openSettings >>= g) := by
  intro j
  by_cases hsome : ∃ t settings, around.settings t = .ok settings
  · obtain ⟨-, settings₀, -⟩ := hsome
    obtain ⟨j', result, hrun⟩ := hg settings₀ j
    refine ⟨j', result, fun t settings ht => ?_⟩
    have hopened : openSettings.run around (j.withTree t) = (j.withTree t, .ok (.ok settings)) := by
      rw [openSettings_run]
      exact congrArg (fun opened => (j.withTree t, Except.ok opened)) ht
    rw [run_bind_of_ok hopened, hsame settings settings₀, hrun t settings ht]
  · exact ⟨j, .error (.exit 0), fun t settings ht => absurd ⟨t, settings, ht⟩ hsome⟩

end Action

open Pinpoint.CommandLine.Action (Blind Talks talks_around talks_orUncaught talks_pure talks_say
  talks_stop)

/-! ## Reading the command line -/

/-- Whoever has a result has not asked how the command is used. -/
theorem run_unlessHelp_ok {help : Bool} {synopsis : Text} {rest : Unit → Action α} {a : α}
    (h : (if help then Action.showUsage synopsis >>= rest else rest ()).run around j =
      (j', .ok a)) : (rest ()).run around j = (j', .ok a) := by
  split_ifs at h
  · obtain ⟨_, _, husage, -⟩ := Action.run_bind_ok_iff.1 h
    cases husage
  · exact h

/-- What is asked for in front of the command. -/
theorem request_of_read (h : Explicit args) {r : Request}
    (hread : (Request.read args).run around j = (j', .ok r)) :
    r.command = .resolve ∧ r.args = h.rest ∧ (r.verbose = true ∨ r.logLevel ≠ none) := by
  rw [Request.read, h.read] at hread
  obtain ⟨j₁, p, hp, hread⟩ := Action.run_bind_ok_iff.1 hread
  cases hp
  replace hread := run_unlessHelp_ok hread
  rw [h.command] at hread
  cases hread
  exact ⟨rfl, rfl, h.level⟩

theorem forM_run_ok {f : α → Action Unit} {l : List α}
    (h : (l.forM f).run around j = (j', .ok ())) :
    ∀ a ∈ l, ∃ j₁ j₂, (f a).run around j₁ = (j₂, .ok ()) := by
  induction l generalizing j with
  | nil => exact fun a ha => absurd ha List.not_mem_nil
  | cons a l ih =>
    obtain ⟨j₁, _, ha, hl⟩ := Action.run_bind_ok_iff.1 h
    exact List.forall_mem_cons.2 ⟨⟨j, j₁, ha⟩, ih hl⟩

section Options

variable {κ : Type} [DecidableEq κ] {p : Parsed κ} {key : κ}

theorem mem_keys_of_has (h : p.has key = true) : key ∈ p.keys := by
  obtain ⟨given, hgiven, hkey⟩ := List.any_eq_true.1 h
  rw [Parsed.keys, List.mem_eraseDups, List.mem_map]
  exact ⟨given, hgiven, of_decide_eq_true hkey⟩

/-- An option that is given has a value. -/
theorem exists_value_of_has (h : p.has key = true) : ∃ value, p.value? key = some value := by
  obtain ⟨given, hgiven, hkey⟩ := List.any_eq_true.1 h
  have hmem : given ∈ p.given.reverse := List.mem_reverse.2 hgiven
  refine Option.ne_none_iff_exists'.1 fun hnone => ?_
  have hne := List.lookup_eq_none_iff.1 hnone given hmem
  rw [of_decide_eq_true hkey] at hne
  simp at hne

end Options

theorem ok_of_orMisuse {result : Except Misuse α} {a : α}
    (h : (Action.orMisuse result).run around j = (j', .ok a)) : result = .ok a := by
  cases result with
  | error fault => cases h
  | ok b =>
    cases h
    rfl

theorem toInt?_of_readJobs {value : Text} {jobs : Int} (h : readJobs value = .ok jobs) :
    Text.toInt? value = some jobs := by
  rw [readJobs] at h
  split at h
  · cases h
  · next n hn =>
    split_ifs at h
    cases h
    exact hn

/-- What is asked of the command. A number of workers has been checked by then. -/
theorem asked_of_read (h : Explicit args) {a : ResolveArgs}
    (hread : (ResolveArgs.read h.rest).run around j = (j', .ok a)) :
    ∃ format jobs, a.format = some format ∧ a.jobs = some jobs := by
  rw [ResolveArgs.read] at hread
  cases hparse : Parsed.ofArgs resolveOptions true h.rest with
  | error fault =>
    rw [hparse] at hread
    cases hread
  | ok p =>
    obtain ⟨format, hformat⟩ := Option.ne_none_iff_exists'.1 (h.format p hparse)
    obtain ⟨value, hvalue⟩ := exists_value_of_has (h.jobs p hparse)
    rw [hparse] at hread
    obtain ⟨_, q, hq, hread⟩ := Action.run_bind_ok_iff.1 hread
    cases hq
    obtain ⟨_, _, hchecks, hread⟩ := Action.run_bind_ok_iff.1 (run_unlessHelp_ok hread)
    obtain ⟨j₁, j₂, hcheck⟩ := forM_run_ok hchecks .jobs (mem_keys_of_has (h.jobs p hparse))
    rw [checkResolveOption, hvalue] at hcheck
    obtain ⟨_, jobs, hjobs, -⟩ := Action.run_bind_ok_iff.1 hcheck
    have hnumber := toInt?_of_readJobs (ok_of_orMisuse hjobs)
    split_ifs at hread
    · cases hread
    · cases hread
      exact ⟨format, jobs, hformat, by rw [hvalue]; exact hnumber⟩

/-! ## Steps to which settings make no difference -/

/-- A level that is given is set up without the settings. -/
theorem blind_configure {r : Request} (h : r.verbose = true ∨ r.logLevel ≠ none) :
    Blind around (configure r) := by
  have hlevel : Talks (chooseLevel r) := by
    rw [chooseLevel]
    split_ifs with hverbose
    · exact talks_pure _
    · obtain ⟨level, hlevel⟩ := Option.ne_none_iff_exists'.1 (h.resolve_left hverbose)
      rw [hlevel]
      exact talks_pure level
  refine (hlevel.blind around).bind fun level _ => ?_
  cases Logging.Logger.setUp level with
  | ok logger => exact fun j => ⟨{ j with logger }, .ok (), fun _ _ _ => rfl⟩
  | error fault => exact (talks_complainAndExit _).blind around

/-- Where the format and the number of workers are given, settings only have to load. -/
theorem blind_resolveCommand {a : ResolveArgs} {format : Text} {jobs : Int}
    (hformat : a.format = some format) (hjobs : a.jobs = some jobs) :
    Blind around (resolveCommand a) := by
  obtain ⟨args, givenFormat, givenJobs, cwd⟩ := a
  obtain rfl : givenFormat = some format := hformat
  obtain rfl : givenJobs = some jobs := hjobs
  refine Action.blind_openSettings (fun _ _ => rfl) fun settings => Talks.blind ?_ around
  have hrest (format : Text) (jobs : Int) : Talks (do
      let context ← contextOf cwd
      let inquiry := resolveAll context args (some jobs)
      let outcomes ← Action.orUncaught .crash (inquiry.run (← Action.around).fileSystem)
      printOutcomes format outcomes
      unless outcomes.all (·.isOk) do Action.exit 1) := by
    refine (talks_contextOf cwd).bind fun context => talks_around.bind fun around =>
      (talks_orUncaught _ _).bind fun outcomes =>
        (talks_printOutcomes format outcomes).bind fun _ => ?_
    split_ifs
    · exact talks_pure _
    · exact talks_stop _
  refine (talks_pure settings).bind fun _ => (talks_pure format).bind fun format =>
    (talks_pure jobs).bind fun jobs => ?_
  split_ifs
  · exact (talks_say _).bind fun _ => (talks_stop _).bind fun _ => hrest format jobs
  · exact hrest format jobs

/-! ## The whole run -/

theorem blind_action (h : Explicit args) : Blind around (action args) := by
  refine ((talks_read args).blind around).bind fun r ⟨_, _, hr⟩ => ?_
  obtain ⟨hcommand, hargs, hlevel⟩ := request_of_read h hr
  refine (blind_configure hlevel).bind fun _ _ => ?_
  rw [hcommand, hargs]
  refine ((talks_resolveArgs h.rest).blind around).bind fun a ⟨_, _, ha⟩ => ?_
  obtain ⟨format, jobs, hformat, hjobs⟩ := asked_of_read h ha
  exact blind_resolveCommand hformat hjobs

/-- Runs on trees whose settings load tell the same. -/
theorem report_eq_of_blind {x : Action Unit} (hx : Blind around x) :
    ∃ (j : Journal) (stop : Option Stop), ∀ t settings, around.settings t = .ok settings →
      x.report around t = ⟨j.withTree t, stop⟩ := by
  obtain ⟨j, result, hrun⟩ := hx { tree := {} }
  cases result with
  | ok done => exact ⟨j, none, fun t settings ht => Action.report_of_ok (hrun t settings ht)⟩
  | error stop =>
    exact ⟨j, some stop, fun t settings ht => Action.report_of_error (hrun t settings ht)⟩

/-- **Options shadow settings.** Let a command line that resolves arguments give the level of the
    logger, the format and the number of workers, and let two trees have settings that load. Then
    both runs print the same and end with the same exit code. This is so if arguments are looked for
    in some file system of their own, and it is so if they are looked for in the trees themselves
    and these differ in nothing but what their files hold. -/
theorem explicit_options_shadow_settings {around : Surroundings} {args : List Text}
    (h : Explicit args) {t₁ t₂ : Tree} {s₁ s₂ : Settings} (h₁ : around.settings t₁ = .ok s₁)
    (h₂ : around.settings t₂ = .ok s₂) :
    let report₁ := run around t₁ args
    let report₂ := run around t₂ args
    (report₁.journal.printed = report₂.journal.printed ∧ report₁.code = report₂.code) ∧
      (t₁.outline = t₂.outline →
        let report₁ :=
          run { around with fileSystem := t₁.toFileSystem around.place } t₁ args
        let report₂ :=
          run { around with fileSystem := t₂.toFileSystem around.place } t₂ args
        report₁.journal.printed = report₂.journal.printed ∧ report₁.code = report₂.code) := by
  have hsame {around : Surroundings} (h₁ : around.settings t₁ = .ok s₁)
      (h₂ : around.settings t₂ = .ok s₂) :
      (run around t₁ args).journal.printed = (run around t₂ args).journal.printed ∧
        (run around t₁ args).code = (run around t₂ args).code := by
    have hblind : Blind around (action args) := blind_action h
    obtain ⟨j, stop, hreport⟩ := report_eq_of_blind hblind
    rw [run, run, hreport t₁ s₁ h₁, hreport t₂ s₂ h₂]
    exact ⟨rfl, rfl⟩
  refine ⟨hsame h₁ h₂, fun houtline => ?_⟩
  rw [Tree.toFileSystem_eq_of_outline houtline around.place]
  exact hsame h₁ h₂

/-! ## Wrong settings -/

/-- Settings with tables where a format and a number of workers should be. -/
def wrongSettings : Text := "[output.format]\n[resolver.jobs]\n"

theorem parse_wrongSettings : Toml.Document.parse wrongSettings =
    .ok [("output".toList, .table [("format".toList, .table [])]),
      ("resolver".toList, .table [("jobs".toList, .table [])])] :=
  rfl

/-- A command line that gives everything. -/
def givenWords : List Text := ["--verbose", "resolve", "--format", "json", "-j2", "a"]

/-- What it says in front of the command, and behind it. -/
def givenOptions : Explicit givenWords where
  common := { given := [(.verbose, [])], args := ["resolve", "--format", "json", "-j2", "a"] }
  rest := ["--format", "json", "-j2", "a"]
  read := by
    simp only [givenWords, Parsed.ofArgs]
    rfl
  command := rfl
  level := .inl rfl
  format := by
    intro p hp
    simp only [Parsed.ofArgs] at hp
    cases hp
    decide
  jobs := by
    intro p hp
    simp only [Parsed.ofArgs] at hp
    cases hp
    decide

/-- Wrong settings are not noticed where everything is given. -/
theorem wrong_settings_shadowed :
    let around := homeSurroundings
    let t₁ := homeTree (Utf8.encode [])
    let t₂ := homeTree (Utf8.encode wrongSettings)
    (∃ s₁ s₂ fault, around.settings t₁ = .ok s₁ ∧ around.settings t₂ = .ok s₂ ∧
      s₁.outputFormat = .ok "text" ∧ s₂.outputFormat = .error fault) ∧
    t₁.outline = t₂.outline ∧
      let report₁ :=
        run { around with fileSystem := t₁.toFileSystem around.place } t₁ givenWords
      let report₂ :=
        run { around with fileSystem := t₂.toFileSystem around.place } t₂ givenWords
      report₁.journal.printed = report₂.journal.printed ∧ report₁.code = report₂.code := by
  intro around t₁ t₂
  have h₁ : around.settings t₁ = .ok ⟨around.environment.dir, []⟩ :=
    (open_homeTree _).trans (congrArg _ (Settings.tableOfBytes_encode rfl))
  have h₂ : around.settings t₂ = .ok ⟨around.environment.dir, _⟩ :=
    (open_homeTree _).trans (congrArg _ (Settings.tableOfBytes_encode parse_wrongSettings))
  have houtline : t₁.outline = t₂.outline := rfl
  exact ⟨⟨_, _, _, h₁, h₂, rfl, rfl⟩, houtline,
    (explicit_options_shadow_settings givenOptions h₁ h₂).2 houtline⟩

end Pinpoint.CommandLine
