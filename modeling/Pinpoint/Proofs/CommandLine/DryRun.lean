import Pinpoint.Proofs.CommandLine.Open
import Pinpoint.Proofs.CommandLine.Reporting
import Pinpoint.Proofs.Editor

/-!
# What comes of a dry run

A dry run whose argument is resolved has two ways to end well: it prints a command line, or it
prints an error and says so with its exit code. It ends in one of them exactly if the setting for
the editor can be reported, once the logger is set up. A logger that cannot be set up ends the run
before that, with a complaint unless the complaint itself cannot be printed.

* `DryRun`: a dry run whose argument is resolved, whatever its editor is.
* `configure_run`: the ways in which setting the logger up can end.
* `DryRun.action_run`: the part of a dry run that depends on the editor.
* `DryRun.report_cases`: the ends that such a run may come to.
* `dry_run_settled_iff`: the settings with which a dry run ends well.
-/

namespace Pinpoint.CommandLine

open Editor (Crashes)

variable {around : Surroundings} {tree : Tree} {args : List Text} {j : Journal} {e : Editor}
  {s : Specifier} {words : List Text} {value : Toml.Value} {α : Type}

/-! ## Specification -/

/-- A dry run whose argument is resolved: what its command line asks for, and that it does. -/
structure DryRun (around : Surroundings) (tree : Tree) (args : List Text) where
  request : Request
  asked : OpenArgs
  specifier : Specifier
  read : (Request.read args).run around { tree } = ({ tree }, .ok request)
  command : request.command = .open
  asks : ∀ j, (OpenArgs.read request.args).run around j = (j, .ok asked)
  dryRun : asked.dryRun = true
  resolved : (resolve around.context asked.target).run around.fileSystem = .ok (.ok specifier)

/-- What gives the editor: the option, or else the settings, which must load. -/
inductive GivesEditor (around : Surroundings) (tree : Tree) (asked : OpenArgs) : Toml.Value → Prop
  | option {template : Text} (h : asked.editor = some template) :
      GivesEditor around tree asked (.text template)
  | setting {settings : Settings} (h : asked.editor = none)
      (hopened : Settings.open tree around.place around.environment.dir = .ok settings) :
      GivesEditor around tree asked settings.editorCommand

/-- A run ends well: it has printed a command line and ends with exit code 0, or an error has been
    printed, as a result or as a complaint, and it ends with exit code 1. -/
inductive Settled (width : Nat) (emojis : Markup.EmojiTable) (report : Report) : Prop
  | shown {words : List Text} (hstop : report.stop = none)
      (hprinted : report.journal.printed = Console.printPlain (Shell.join words))
  | failed {message out : Text} (hstop : report.stop = some (.exit 1))
      (hout : Console.print width emojis (Action.errorHead ++ message) = .ok out)
      (hprinted : report.journal.printed = out ∨ report.journal.complained = out)

/-- Nothing but an exit code goes with a run that ends well. -/
theorem not_settled_of_uncaught {width : Nat} {emojis : Markup.EmojiTable} {report : Report}
    {fault : Uncaught} (h : report.stop = some (.uncaught fault)) :
    ¬ Settled width emojis report := by
  rintro (⟨hstop, -⟩ | ⟨hstop, -, -⟩) <;> cases h.symm.trans hstop

/-! ## Setting the logger up -/

/-- How an action ends that has done `j` and cannot set the logger up: it has complained of a
    message, the message cannot be printed, or the settings cannot be had. -/
inductive Unready (around : Surroundings) (j : Journal) : Journal → Stop → Prop
  | complained {message out : Text}
      (hout : Console.print around.width around.emojis (Action.errorHead ++ message) = .ok out) :
      Unready around j { j with complained := j.complained ++ out } (.exit 1)
  | unprintable (fault : Markup.Fault) : Unready around j j (.uncaught (.markup fault))
  | unopened {fault : Settings.Fault}
      (h : Settings.open j.tree around.place around.environment.dir = .error fault) :
      Unready around j j (.uncaught (.settings fault))

theorem complainAndExit_run (message : Text) (around : Surroundings) (j : Journal) :
    ∃ j' stop, (complainAndExit message : Action α).run around j = (j', .error stop) ∧
      Unready around j j' stop := by
  cases hout : Console.print around.width around.emojis (Action.errorHead ++ message) with
  | ok out =>
    refine ⟨_, _, ?_, .complained hout⟩
    rw [complainAndExit, Action.run_bind_of_ok (Action.complain_run_of_print hout)]
    rfl
  | error fault =>
    refine ⟨_, _, ?_, .unprintable fault⟩
    rw [complainAndExit, Action.run_bind_of_error (Action.complain_run_of_error hout)]

/-- A log level of settings that load cannot be written at worst, which is reported. -/
theorem isUnfit_of_logLevel {settings : Settings} {fault : Settings.Fault}
    (h : settings.logLevel = .error fault) : fault.isUnfit = true := by
  rw [Settings.logLevel, Settings.ensureWritable] at h
  split_ifs at h
  · cases h
  · cases h
    rfl

theorem chooseLevel_run (request : Request) (around : Surroundings) (j : Journal) :
    (∃ level, (chooseLevel request).run around j = (j, .ok level)) ∨
      ∃ j' stop, (chooseLevel request).run around j = (j', .error stop) ∧
        Unready around j j' stop := by
  rw [chooseLevel]
  split_ifs
  · exact .inl ⟨_, rfl⟩
  split
  · exact .inl ⟨_, rfl⟩
  · exact .inl ⟨_, rfl⟩
  · rw [Action.run_bind_of_ok Action.openSettings_run]
    cases hlevel : (Settings.open j.tree around.place around.environment.dir).bind
        Settings.logLevel with
    | ok level => exact .inl ⟨level, rfl⟩
    | error fault =>
      rw [Action.orReported]
      split_ifs with hreported
      · exact .inr (complainAndExit_run _ _ _)
      · refine .inr ⟨j, _, rfl, .unopened ?_⟩
        cases hopened : Settings.open j.tree around.place around.environment.dir with
        | error other =>
          rw [hopened] at hlevel
          cases hlevel
          rfl
        | ok settings =>
          rw [hopened] at hlevel
          rw [isUnfit_of_logLevel hlevel, Bool.or_true] at hreported
          exact absurd rfl hreported

/-- Setting the logger up changes nothing else, unless it ends the run. -/
theorem configure_run (request : Request) (around : Surroundings) (j : Journal) :
    (∃ logger, (configure request).run around j = ({ j with logger }, .ok ())) ∨
      ∃ j' stop, (configure request).run around j = (j', .error stop) ∧
        Unready around j j' stop := by
  rw [configure]
  obtain ⟨level, hlevel⟩ | ⟨j', stop, hstop, hready⟩ := chooseLevel_run request around j
  · rw [Action.run_bind_of_ok hlevel]
    cases Logging.Logger.setUp level with
    | ok logger => exact .inl ⟨logger, rfl⟩
    | error fault => exact .inr (complainAndExit_run _ _ _)
  · exact .inr ⟨j', stop, Action.run_bind_of_error hstop, hready⟩

/-! ## The editor -/

/-- There is always something to join an argument to; a missing directory is complained of. -/
theorem contextOf_none_run (around : Surroundings) (j : Journal) :
    ∃ complained, (contextOf none).run around j = ({ j with complained }, .ok around.context) := by
  rw [contextOf, Action.run_bind_of_ok Action.around_run, Surroundings.context]
  cases around.workingDir with
  | some dir => exact ⟨j.complained, rfl⟩
  | none =>
    dsimp only
    obtain ⟨complained, hlog⟩ := log_run .warning
      ("Cannot determine working directory, using empty base: " ++ noWorkingDir.message) around j
    rw [Action.run_bind_of_ok hlog]
    exact ⟨complained, rfl⟩

/-- A fault in the editor's command that can be told is printed. -/
theorem orEditorReported_run_of_isTellable {fault : Editor.Fault} (h : fault.IsTellable)
    (around : Surroundings) (j : Journal) :
    ∃ message out,
      Console.print around.width around.emojis (Action.errorHead ++ Markup.escape message) =
          .ok out ∧
        (orEditorReported (.error fault) : Action α).run around j =
          ({ j with printed := j.printed ++ out }, .error (.exit 1)) := by
  obtain ⟨message, hmessage⟩ := Option.isSome_iff_exists.1 h.2
  exact ⟨message,
    orEditorReported_run_of_message h.1 (Points.text?_eq_some_iff.1 hmessage) around j⟩

/-- Any other fault in the editor's command ends the run: because nobody reports it, or because it
    cannot be printed. -/
theorem orEditorReported_run_of_not_isTellable {fault : Editor.Fault} (h : ¬ fault.IsTellable)
    (around : Surroundings) (j : Journal) :
    ∃ cause, (orEditorReported (.error fault) : Action α).run around j =
      (j, .error (.uncaught cause)) := by
  rw [orEditorReported]
  split_ifs with hreported
  · have hmessage : fault.message.text? = none := by
      rw [← Option.not_isSome_iff_eq_none]
      exact fun hsome => h ⟨hreported, hsome⟩
    obtain ⟨cause, hrun⟩ := Action.fail_run_of_surrogate hmessage around j
    exact ⟨_, hrun⟩
  · exact ⟨_, rfl⟩

/-- The editor of a setting that is a text; any other setting ends the command. -/
theorem chooseEditor_run {asked : OpenArgs} (h : GivesEditor around tree asked value)
    (hj : j.tree = tree) :
    (∀ template, value = .text template →
      (chooseEditor asked.editor).run around j =
        (orEditorReported (Editor.ofTemplate template)).run around j) ∧
      ((∀ template, value ≠ .text template) →
        (chooseEditor asked.editor).run around j =
          (j, .error (.uncaught (.editorIsNoText value)))) := by
  subst hj
  cases h with
  | option h =>
    rw [h, chooseEditor]
    constructor
    · rintro template ⟨⟩
      rfl
    · intro hno
      exact absurd rfl (hno _)
  | @setting settings h hopened =>
    rw [h, chooseEditor]
    constructor
    · intro template hvalue
      refine Action.run_bind_of_ok ?_
      rw [editorSetting, Action.run_bind_of_ok Action.openSettings_run, hopened,
        Action.run_bind_of_ok (Action.orReported_run_ok _ _ _), hvalue]
      rfl
    · intro hno
      refine Action.run_bind_of_error ?_
      rw [editorSetting, Action.run_bind_of_ok Action.openSettings_run, hopened,
        Action.run_bind_of_ok (Action.orReported_run_ok _ _ _)]
      split
      · next template hvalue => exact absurd hvalue (hno template)
      · rfl

/-- What is left of a dry run once its argument is resolved. -/
def showCommand (asked : OpenArgs) (s : Specifier) : Action Unit := do
  openIn true (← chooseEditor asked.editor) s

/-- A command whose words are texts is printed. -/
theorem showCommand_run_of_texts {asked : OpenArgs}
    (h : GivesEditor around tree asked (.text e.template)) (hj : j.tree = tree)
    (hcmd : e.command around.memory s = .ok (words.map Text.points)) :
    (showCommand asked s).run around j =
      ({ j with printed := j.printed ++ Console.printPlain (Shell.join words) }, .ok ()) := by
  have hchosen := (chooseEditor_run h hj).1 _ rfl
  rw [Editor.ofTemplate_ok_iff.2 rfl] at hchosen
  rw [showCommand, Action.run_bind_of_ok hchosen]
  exact openIn_run_of_texts hcmd

/-- Once the editor is known, a command without words that are texts is reported, unless it is
    beyond a report. -/
theorem openIn_run_of_not_crashes (hno : ¬ Crashes around.memory s (.text e.template))
    (hcmd : ∀ words : List Text, e.command around.memory s ≠ .ok (words.map Text.points)) :
    ∃ message out,
      Console.print around.width around.emojis (Action.errorHead ++ message) = .ok out ∧
        (openIn true e s).run around j =
          ({ j with printed := j.printed ++ out }, .error (.exit 1)) := by
  cases hcommand : e.command around.memory s with
  | ok cmd =>
    have hnone : ∀ words : List Text, cmd ≠ words.map Text.points := by
      rintro words rfl
      exact hcmd words hcommand
    obtain ⟨fault, out, hout, hrun⟩ := openIn_run_of_surrogate (j := j) hcommand hnone
    exact ⟨_, out, hout, hrun⟩
  | error fault =>
    have htold : fault.IsTellable := by
      by_contra hnot
      exact hno (Editor.crashes_template_iff.2 ⟨fault, hcommand, hnot⟩)
    obtain ⟨message, out, hout, hrun⟩ := orEditorReported_run_of_isTellable htold around j
    refine ⟨_, out, hout, ?_⟩
    rw [openIn_dryRun_run, hcommand]
    exact Action.run_bind_of_error hrun

/-- A setting that can be reported and has no command made of texts is reported. -/
theorem showCommand_run_of_not_crashes {asked : OpenArgs}
    (h : GivesEditor around tree asked value) (hj : j.tree = tree)
    (hno : ¬ Crashes around.memory s value)
    (hcmd : ∀ (e : Editor) (words : List Text), value = .text e.template →
      e.command around.memory s ≠ .ok (words.map Text.points)) :
    ∃ message out,
      Console.print around.width around.emojis (Action.errorHead ++ message) = .ok out ∧
        (showCommand asked s).run around j =
          ({ j with printed := j.printed ++ out }, .error (.exit 1)) := by
  obtain ⟨template, rfl⟩ : ∃ template, value = .text template := by
    by_contra hnone
    push Not at hnone
    exact hno (.noText hnone)
  have hchosen := (chooseEditor_run h hj).1 _ rfl
  cases he : Editor.ofTemplate template with
  | error fault =>
    obtain ⟨message, out, hout, hrun⟩ :=
      orEditorReported_run_of_isTellable (Editor.isTellable_ofTemplate he) around j
    rw [he, hrun] at hchosen
    exact ⟨_, out, hout, Action.run_bind_of_error hchosen⟩
  | ok e =>
    obtain rfl := Editor.ofTemplate_ok_iff.1 he
    rw [he] at hchosen
    obtain ⟨message, out, hout, hrun⟩ :=
      openIn_run_of_not_crashes (j := j) hno fun words => hcmd e words rfl
    exact ⟨message, out, hout, (Action.run_bind_of_ok hchosen).trans hrun⟩

/-- A setting that cannot be reported ends the command without a word. -/
theorem showCommand_run_of_crashes {asked : OpenArgs}
    (h : GivesEditor around tree asked value) (hj : j.tree = tree)
    (hcrash : Crashes around.memory s value) :
    ∃ cause, (showCommand asked s).run around j = (j, .error (.uncaught cause)) := by
  by_cases hvalue : ∃ template, value = .text template
  · obtain ⟨template, rfl⟩ := hvalue
    obtain ⟨e, fault, he, hfault, htold⟩ := Editor.crashes_text_iff.1 hcrash
    have hchosen := (chooseEditor_run h hj).1 _ rfl
    rw [he] at hchosen
    obtain ⟨cause, hrun⟩ := orEditorReported_run_of_not_isTellable htold around j
    refine ⟨cause, ?_⟩
    rw [showCommand, Action.run_bind_of_ok hchosen, openIn_dryRun_run, hfault]
    exact Action.run_bind_of_error hrun
  · push Not at hvalue
    exact ⟨_, Action.run_bind_of_error ((chooseEditor_run h hj).2 hvalue)⟩

/-! ## The whole run -/

namespace DryRun

variable (r : DryRun around tree args)

theorem report_of_error {stop : Stop}
    (h : (configure r.request).run around { tree } = (j, .error stop)) :
    run around tree args = ⟨j, some stop⟩ := by
  apply Action.report_of_error
  rw [action, Action.run_bind_of_ok r.read]
  exact Action.run_bind_of_error h

/-- Once the logger is set up, a dry run comes to its editor without having printed anything. -/
theorem action_run (h : (configure r.request).run around { tree } = (j, .ok ())) :
    ∃ ready : Journal, ready.tree = tree ∧ ready.printed = [] ∧
      (action args).run around { tree } =
        (showCommand r.asked r.specifier).run around ready := by
  obtain ⟨logger, hlogger⟩ | ⟨j', stop, hstop, -⟩ := configure_run r.request around { tree }
  · obtain ⟨complained, hbased⟩ := contextOf_none_run around { tree, logger }
    refine ⟨{ tree, logger, complained }, rfl, rfl, ?_⟩
    rw [action_run_of_resolved r.read r.command hlogger (r.asks _) hbased r.resolved, r.dryRun]
    rfl
  · cases h.symm.trans hstop

/-- Once the logger is set up, a dry run prints a command, reports an error, or is ended. -/
theorem report_cases (hvalue : GivesEditor around tree r.asked value)
    (h : (configure r.request).run around { tree } = (j, .ok ())) :
    let report := run around tree args
    (∃ (e : Editor) (words : List Text), value = .text e.template ∧
        e.command around.memory r.specifier = .ok (words.map Text.points) ∧
        report.stop = none ∧ report.journal.printed = Console.printPlain (Shell.join words)) ∨
      (¬ Crashes around.memory r.specifier value ∧
        (∀ (e : Editor) (words : List Text), value = .text e.template →
          e.command around.memory r.specifier ≠ .ok (words.map Text.points)) ∧
        ∃ message out,
          Console.print around.width around.emojis (Action.errorHead ++ message) = .ok out ∧
            report.stop = some (.exit 1) ∧ report.journal.printed = out) ∨
      (Crashes around.memory r.specifier value ∧ report.journal.printed = [] ∧
        ∃ fault, report.stop = some (.uncaught fault)) := by
  intro report
  obtain ⟨ready, hready, hnone, haction⟩ := r.action_run h
  by_cases hcrash : Crashes around.memory r.specifier value
  · obtain ⟨fault, hrun⟩ := showCommand_run_of_crashes hvalue hready hcrash
    have hreport : report = ⟨ready, _⟩ := Action.report_of_error (haction.trans hrun)
    rw [hreport]
    exact .inr (.inr ⟨hcrash, hnone, fault, rfl⟩)
  by_cases hcmd : ∀ (e : Editor) (words : List Text), value = .text e.template →
      e.command around.memory r.specifier ≠ .ok (words.map Text.points)
  · obtain ⟨message, out, hout, hrun⟩ := showCommand_run_of_not_crashes hvalue hready hcrash hcmd
    have hreport : report = ⟨_, _⟩ := Action.report_of_error (haction.trans hrun)
    rw [hreport, hnone]
    exact .inr (.inl ⟨hcrash, hcmd, message, out, hout, rfl, rfl⟩)
  · push Not at hcmd
    obtain ⟨e, words, rfl, hcmd⟩ := hcmd
    have hrun := showCommand_run_of_texts hvalue hready hcmd
    have hreport : report = ⟨_, none⟩ := Action.report_of_ok (haction.trans hrun)
    rw [hreport, hnone]
    exact .inl ⟨e, words, rfl, hcmd, rfl, rfl⟩

/-- A run whose logger cannot be set up ends there, well if that has been complained of. -/
theorem settled_iff_of_unready {stop : Stop}
    (h : (configure r.request).run around { tree } = (j, .error stop)) :
    let report := run around tree args
    report = ⟨j, some stop⟩ ∧ Unready around { tree } j stop ∧
      (Settled around.width around.emojis report ↔ stop = .exit 1) := by
  intro report
  have hreport : report = ⟨j, some stop⟩ := r.report_of_error h
  obtain ⟨logger, hlogger⟩ | ⟨j', stop', hstop, hready⟩ := configure_run r.request around { tree }
  · cases h.symm.trans hlogger
  cases h.symm.trans hstop
  refine ⟨hreport, hready, ?_⟩
  rw [hreport]
  cases hready with
  | complained hout => exact iff_of_true (.failed rfl hout (.inr rfl)) rfl
  | unprintable | unopened => exact iff_of_false (not_settled_of_uncaught rfl) nofun

/-- A run whose logger is set up ends well exactly if the setting for the editor can be reported. -/
theorem settled_iff_of_ready (hvalue : GivesEditor around tree r.asked value)
    (h : (configure r.request).run around { tree } = (j, .ok ())) :
    let report := run around tree args
    (Settled around.width around.emojis report ↔ ¬ Crashes around.memory r.specifier value) ∧
      (report.stop = none ↔ ∃ (e : Editor) (words : List Text), value = .text e.template ∧
        e.command around.memory r.specifier = .ok (words.map Text.points) ∧
        report.journal.printed = Console.printPlain (Shell.join words)) ∧
      (Crashes around.memory r.specifier value →
        report.journal.printed = [] ∧ ∃ fault, report.stop = some (.uncaught fault)) := by
  intro report
  obtain ⟨e, words, rfl, hcmd, hstop, hprinted⟩ |
    ⟨hno, hnone, message, out, hout, hstop, hprinted⟩ | ⟨hcrash, hprinted, fault, hstop⟩ :=
      r.report_cases hvalue h
  · have hno := Editor.not_crashes_of_command hcmd
    exact ⟨iff_of_true (.shown hstop hprinted) hno,
      iff_of_true hstop ⟨e, words, rfl, hcmd, hprinted⟩, fun hcrash => absurd hcrash hno⟩
  · refine ⟨iff_of_true (.failed hstop hout (.inl hprinted)) hno, ⟨fun hgoes => ?_, ?_⟩,
      fun hcrash => absurd hcrash hno⟩
    · cases hgoes.symm.trans hstop
    · rintro ⟨e, words, htemplate, hcmd, -⟩
      exact absurd hcmd (hnone e words htemplate)
  · refine ⟨iff_of_false (not_settled_of_uncaught hstop) (not_not_intro hcrash),
      ⟨fun hgoes => ?_, ?_⟩, fun _ => ⟨hprinted, fault, hstop⟩⟩
    · cases hgoes.symm.trans hstop
    · rintro ⟨e, words, rfl, hcmd, -⟩
      exact absurd hcrash (Editor.not_crashes_of_command hcmd)

end DryRun

/-! ## A file that is there -/

theorem resolve_plainFile :
    (resolve (workSurroundings plainFile).context "a").run plainFile.toFileSystem =
      .ok (.ok plainSpecifier) := by
  decide

/-- A request to open something, without options in front of the command. -/
def openRequest (args : List Text) : Request := { command := .open, args }

/-- A dry run of a user without settings that opens this file in an editor. -/
def plainRun (args : List Text) (template : Text)
    (asks : ∀ j, (OpenArgs.read args).run (workSurroundings plainFile) j =
      (j, .ok { target := "a", editor := some template, dryRun := true })) :
    DryRun (workSurroundings plainFile) ⟨homeNodes⟩ ("open" :: args) where
  request := openRequest args
  asked := { target := "a", editor := some template, dryRun := true }
  specifier := plainSpecifier
  read := read_command rfl args
  command := rfl
  asks := asks
  dryRun := rfl
  resolved := resolve_plainFile

/-! ## Which settings are reported -/

/-- **Bad settings for the editor.** Let a dry run resolve its argument, and let the option or
    settings that load give the editor. If the logger cannot be set up, the run ends well exactly
    if it ends with exit code 1, having complained of that. Otherwise it ends well exactly if the
    setting is none of those that cannot be reported; it is not stopped exactly if the setting has
    a command for the argument whose words are texts, which it has printed then; and a setting that
    cannot be reported ends it with nothing printed. A template among these has a field with
    accessors or with a layout. -/
theorem dry_run_settled_iff {around : Surroundings} {tree : Tree} {args : List Text}
    {value : Toml.Value} (r : DryRun around tree args)
    (hvalue : GivesEditor around tree r.asked value) :
    let report := run around tree args
    let configured := (configure r.request).run around { tree }
    (∀ j stop, configured = (j, .error stop) →
      report = ⟨j, some stop⟩ ∧ Unready around { tree } j stop ∧
        (Settled around.width around.emojis report ↔ stop = .exit 1)) ∧
      (∀ j, configured = (j, .ok ()) →
        (Settled around.width around.emojis report ↔
            ¬ Crashes around.memory r.specifier value) ∧
          (report.stop = none ↔ ∃ (e : Editor) (words : List Text), value = .text e.template ∧
            e.command around.memory r.specifier = .ok (words.map Text.points) ∧
            report.journal.printed = Console.printPlain (Shell.join words)) ∧
          (Crashes around.memory r.specifier value →
            report.journal.printed = [] ∧ ∃ fault, report.stop = some (.uncaught fault))) ∧
      ∀ template, Crashes around.memory r.specifier (.text template) →
        ∃ words, Shell.words template = .ok words ∧
          ∃ word ∈ words, ∃ f, .field f ∈ Template.pieces word ∧ ¬ f.IsPlain := by
  intro report configured
  exact ⟨fun _ _ => r.settled_iff_of_unready, fun _ => r.settled_iff_of_ready hvalue,
    fun _ => Editor.exists_not_isPlain_of_crashes⟩

/-- A name that is none of the placeholders is reported. -/
theorem unknown_placeholder_reported :
    let around := workSurroundings plainFile
    let template : Text := "vi \x7bpth\x7d"
    let report := run around ⟨homeNodes⟩ ["open", "a", "--dry-run", "--editor", template]
    GivesEditor around ⟨homeNodes⟩ { target := "a", editor := some template } (.text template) ∧
      ¬ Crashes around.memory plainSpecifier (.text template) ∧ report.stop = some (.exit 1) := by
  intro around template report
  have hasks : ∀ j, (OpenArgs.read ["a", "--dry-run", "--editor", template]).run around j =
      (j, .ok { target := "a", editor := some template, dryRun := true }) := by
    intro j
    rw [OpenArgs.read]
    simp only [Parsed.ofArgs]
    rfl
  let e : Editor := ⟨template, by decide⟩
  have he : Editor.ofTemplate template = .ok e := Editor.ofTemplate_ok_iff.2 rfl
  have hcommand : e.command around.memory plainSpecifier =
      .error (.unknownPlaceholder (.unknownName "pth") template) := by
    decide +kernel
  have hno : ¬ Crashes around.memory plainSpecifier (.text template) := by
    intro hcrash
    obtain ⟨fault, hfault, htold⟩ := (Editor.crashes_template_iff (e := e)).1 hcrash
    cases hfault.symm.trans hcommand
    exact htold ⟨rfl, by decide⟩
  obtain ⟨-, hready, -⟩ := dry_run_settled_iff (plainRun _ template hasks) (.option rfl)
  obtain ⟨hsettled, hstops, -⟩ := hready _ (configure_work plainFile (by decide) _)
  refine ⟨.option rfl, hno, ?_⟩
  obtain ⟨hstop, -⟩ | ⟨hstop, -, -⟩ := hsettled.2 hno
  · obtain ⟨e', cmd, htemplate, hcmd, -⟩ := hstops.1 hstop
    cases he.symm.trans (Editor.ofTemplate_ok_iff.2 (Toml.Value.text.inj htemplate).symm)
    cases hcommand.symm.trans hcmd
  · exact hstop

/-- An attribute that a text does not have ends a dry run without a word. -/
theorem missing_attribute_unreported :
    let around := workSurroundings plainFile
    let template : Text := "vi \x7bpath.x\x7d"
    let report := run around ⟨homeNodes⟩ ["open", "a", "--dry-run", "--editor", template]
    (resolve around.context "a").run around.fileSystem = .ok (.ok plainSpecifier) ∧
      report.stop = some (.uncaught (.editor (.filling (.lacks .text "x")))) ∧
      report.journal.printed = [] ∧ ¬ Settled around.width around.emojis report := by
  intro around template report
  have hasks : ∀ j, (OpenArgs.read ["a", "--dry-run", "--editor", template]).run around j =
      (j, .ok { target := "a", editor := some template, dryRun := true }) := by
    intro j
    rw [OpenArgs.read]
    simp only [Parsed.ofArgs]
    rfl
  let e : Editor := ⟨template, by decide⟩
  have hcommand :
      e.command around.memory plainSpecifier = .error (.filling (.lacks .text "x")) := by
    decide +kernel
  obtain ⟨ready, -, hprinted, haction⟩ :=
    (plainRun _ template hasks).action_run (configure_work plainFile (by decide) _)
  have hchosen : (chooseEditor (some template)).run around ready = (ready, .ok e) := rfl
  have hshow : (showCommand { target := "a", editor := some template, dryRun := true }
      plainSpecifier).run around ready =
        (ready, .error (.uncaught (.editor (.filling (.lacks .text "x"))))) := by
    rw [showCommand, Action.run_bind_of_ok hchosen, openIn_dryRun_run, hcommand]
    rfl
  have hreport : report = ⟨ready, some _⟩ := Action.report_of_error (haction.trans hshow)
  rw [hreport]
  exact ⟨resolve_plainFile, rfl, hprinted, not_settled_of_uncaught rfl⟩

end Pinpoint.CommandLine
