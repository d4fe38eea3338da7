import Pinpoint.Proofs.CommandLine.Frame
import Pinpoint.Proofs.CommandLine.Resolve
import Pinpoint.Proofs.Console.Lines
import Pinpoint.Proofs.Shell
import Pinpoint.Proofs.Text.CodePoint

/-!
# Opening on the command line

A run that opens an argument comes to a specifier and an editor. A dry run prints the command of
the editor and starts nothing; any other run shows the command and starts it. A command line can
always be shown as markup, because it is escaped and does not end in a backslash. Only surrogates
are in the way: they cannot be encoded, and then nothing is started.

* `OpenRun`: such a run, with what comes of each step.
* `Follows`: what comes of a command that has been started.
* `print_announcement`: what is shown of a command before it starts.
* `startEditor_run_of_texts`, `startEditor_run_of_surrogate`: whether a command is started.
* `action_run_of_resolved`: what is left of a run once its argument is resolved.
* `OpenRun.dryRun_of_texts`, `OpenRun.launch_of_texts`, `OpenRun.dryRun_of_surrogate`,
  `OpenRun.launch_of_surrogate`: how such a run ends.
* `dry_run_shows_what_starts`: dry runs against the others.
-/

namespace Pinpoint.CommandLine

open Markup (Prints tagText tagText_append isStyle_of_mem prints_of_notMem)

variable {around : Surroundings} {tree : Tree} {args : List Text} {j : Journal} {e : Editor}
  {s : Specifier} {cmd : List Points} {α : Type}

/-! ## Specification -/

/-- What relative arguments are joined to: the working directory, or nothing if there is none. -/
def Surroundings.context (around : Surroundings) : Context :=
  ⟨around.workingDir.getD Path.here⟩

/-- A run that opens an argument: what its command line asks for, what comes of each step up to the
    editor, and that it does. -/
structure OpenRun (around : Surroundings) (tree : Tree) (args : List Text) where
  request : Request
  logger : Logging.Logger
  asked : OpenArgs
  context : Context
  ready : Journal
  specifier : Specifier
  editor : Editor
  read : (Request.read args).run around { tree } = ({ tree }, .ok request)
  command : request.command = .open
  configured : (configure request).run around { tree } = ({ tree, logger }, .ok ())
  asks : (OpenArgs.read request.args).run around { tree, logger } = ({ tree, logger }, .ok asked)
  based : (contextOf none).run around { tree, logger } = (ready, .ok context)
  resolved : (resolve context asked.target).run around.fileSystem = .ok (.ok specifier)
  chosen : (chooseEditor asked.editor).run around ready = (ready, .ok editor)

/-- How a run goes on and ends that has shown a command and started it, after what came of that:
    with the exit code of the program, with an error, or, where a program is there and cannot be
    started, with the reason for that. -/
inductive Follows (around : Surroundings) (cmd : List Points) (shown : Text) :
    Editor.Start → Report → Prop
  | exited {code : Int} {journal : Journal} (hprinted : journal.printed = shown) :
      Follows around cmd shown (.exited code)
        ⟨journal, if code = 0 then none else some (.exit code)⟩
  | reported {start : Editor.Start} {fault : Editor.Fault} {message out : Text} {journal : Journal}
      (hresult : start.result cmd = .error fault) (hreported : fault.isReported = true)
      (hmessage : fault.message = message.points)
      (hout : Console.print around.width around.emojis
        (Action.errorHead ++ Markup.escape message) = .ok out)
      (hprinted : journal.printed = shown ++ out) :
      Follows around cmd shown start ⟨journal, some (.exit 1)⟩
  | failed {e : OsError} {journal : Journal} (hprinted : journal.printed = shown) :
      Follows around cmd shown (.failed e) ⟨journal, some (.uncaught (.editor (.starting e)))⟩

/-! ## What is shown of a command -/

/-- A command line can be shown, whatever it is made of. -/
theorem print_announcement (width : Nat) (emojis : Markup.EmojiTable) {line : Text}
    (hlast : line.getLast? ≠ some '\\') :
    ∃ shown, Console.print width emojis (Editor.announcement line) = .ok shown := by
  have hnone : Prints emojis [] [[]] := prints_of_notMem (by decide)
  have hdim := hnone.styledEscape (isStyle_of_mem "dim" (by decide)) "$ " (by decide) (by decide)
    hlast
  exact ⟨_, Console.print_of_prints hdim⟩

/-! ## Starting an editor -/

/-- A message is logged or not; nothing else comes of it. -/
theorem log_run (level : Logging.Level) (message : Text) (around : Surroundings) (j : Journal) :
    ∃ complained, (Action.log level message).run around j = ({ j with complained }, .ok ()) := by
  rw [Action.log, Action.run_bind_of_ok Action.around_run, Action.record_run]
  split_ifs
  · exact ⟨_, rfl⟩
  · exact ⟨j.complained, rfl⟩

/-- A command whose words are texts is shown and started, once. -/
theorem startEditor_run_of_texts {words : List Text}
    (h : e.command around.memory s = .ok (words.map Text.points)) :
    ∃ shown complained,
      Console.print around.width around.emojis (Editor.announcement (Shell.join words)) =
          .ok shown ∧
        (startEditor e s).run around j =
          ({ j with
              printed := j.printed ++ shown
              complained := complained
              started := j.started ++ [words.map Text.points] },
            .ok ((around.start (words.map Text.points)).result (words.map Text.points))) := by
  obtain ⟨shown, hshown⟩ :=
    print_announcement around.width around.emojis (Shell.getLast?_join words)
  obtain ⟨complained, hlog⟩ := log_run .info
    ("Running editor: " ++ Points.escaped (Shell.join (words.map Text.points))) around j
  have htext : Points.text? (Shell.join (words.map Text.points)) = some (Shell.join words) := by
    rw [Shell.join_points]
    exact Points.text?_points _
  refine ⟨shown, complained, hshown, ?_⟩
  rw [startEditor, Action.run_bind_of_ok Action.around_run, h]
  dsimp only
  rw [Action.run_bind_of_ok hlog, Action.run_bind_of_ok (Action.sayOf_run_of_print htext hshown)]
  rfl

/-- A command with a word that is no text is neither shown nor started. -/
theorem startEditor_run_of_surrogate (h : e.command around.memory s = .ok cmd)
    (hcmd : ∀ words : List Text, cmd ≠ words.map Text.points) :
    ∃ fault complained, (startEditor e s).run around j =
      ({ j with complained }, .error (.uncaught (.unencodable fault))) := by
  have htext := Shell.text?_join_eq_none_iff.2 hcmd
  obtain ⟨shown, hshown⟩ := print_announcement around.width around.emojis
    (Points.getLast?_veiled (by decide) (by decide) (Shell.getLast?_join cmd))
  obtain ⟨complained, hlog⟩ := log_run .info
    ("Running editor: " ++ Points.escaped (Shell.join cmd)) around j
  refine ⟨Points.faultIn (Shell.join cmd) shown, complained, ?_⟩
  rw [startEditor, Action.run_bind_of_ok Action.around_run, h]
  dsimp only
  rw [Action.run_bind_of_ok hlog]
  exact Action.run_bind_of_error (Action.sayOf_run_of_surrogate htext hshown)

theorem orEditorReported_run_ok (a : α) : (orEditorReported (.ok a)).run around j = (j, .ok a) :=
  rfl

/-- A fault that is reported and whose message is a text is printed and ends the command. -/
theorem orEditorReported_run_of_message {fault : Editor.Fault} {message : Text}
    (hreported : fault.isReported = true) (hmessage : fault.message = message.points)
    (around : Surroundings) (j : Journal) :
    ∃ out, Console.print around.width around.emojis (Action.errorHead ++ Markup.escape message) =
        .ok out ∧
      (orEditorReported (.error fault) : Action α).run around j =
        ({ j with printed := j.printed ++ out }, .error (.exit 1)) := by
  rw [orEditorReported, if_pos hreported, hmessage]
  exact Action.fail_run message around j

/-- A program that has not been found is named by a text. -/
theorem exists_message_notFound (words : List Text) :
    ∃ message : Text, (Editor.Fault.notFound ((words.map Text.points).headD [])).message =
      message.points := by
  have hprogram : (words.map Text.points).headD [] = Text.points (words.headD []) := by
    cases words <;> rfl
  have htext : (Editor.Fault.notFound (Text.points (words.headD []))).message.text?.isSome := by
    simp only [Editor.Fault.message, Points.isSome_text?_append, Points.text?_points,
      Option.isSome_some, Bool.and_self]
  obtain ⟨message, hmessage⟩ := Option.isSome_iff_exists.1 htext
  rw [hprogram]
  exact ⟨message, Points.text?_eq_some_iff.1 hmessage⟩

/-- A command whose words are texts is started, once, and what follows is a matter of what comes of
    it. -/
theorem follows_launchEditor {words : List Text}
    (h : e.command around.memory s = .ok (words.map Text.points)) (hj : j.printed = []) :
    let report := Report.of ((launchEditor e s).run around j)
    report.journal.started = j.started ++ [words.map Text.points] ∧
      ∃ shown,
        Console.print around.width around.emojis (Editor.announcement (Shell.join words)) =
            .ok shown ∧
          Follows around (words.map Text.points) shown (around.start (words.map Text.points))
            report := by
  intro report
  obtain ⟨shown, complained, hshown, hstart⟩ := startEditor_run_of_texts (j := j) h
  rw [hj, List.nil_append] at hstart
  have hreport : report = Report.of ((launchEditor e s).run around j) := rfl
  rw [launchEditor, Action.run_bind_of_ok hstart] at hreport
  cases hended : around.start (words.map Text.points) with
  | exited code =>
    rw [hended] at hreport
    have hexit : report = ⟨{ j with
        printed := shown
        complained := complained
        started := j.started ++ [words.map Text.points] },
        if code = 0 then none else some (.exit code)⟩ := by
      rw [hreport, Editor.Start.result, Action.run_bind_of_ok (orEditorReported_run_ok code)]
      split_ifs <;> rfl
    rw [hexit]
    exact ⟨rfl, shown, hshown, .exited rfl⟩
  | notFound =>
    obtain ⟨message, hmessage⟩ := exists_message_notFound words
    obtain ⟨out, hout, hrun⟩ := orEditorReported_run_of_message (α := Int) rfl hmessage around _
    rw [hended, Editor.Start.result, Action.run_bind_of_error hrun] at hreport
    rw [hreport]
    exact ⟨rfl, shown, hshown, .reported rfl rfl hmessage hout rfl⟩
  | refused reason =>
    have hmessage : (Editor.Fault.refused reason).message = reason.points := rfl
    obtain ⟨out, hout, hrun⟩ := orEditorReported_run_of_message (α := Int) rfl hmessage around _
    rw [hended, Editor.Start.result, Action.run_bind_of_error hrun] at hreport
    rw [hreport]
    exact ⟨rfl, shown, hshown, .reported rfl rfl hmessage hout rfl⟩
  | failed error =>
    rw [hended] at hreport
    rw [hreport]
    exact ⟨rfl, shown, hshown, .failed rfl⟩

/-- A command with a word that is no text ends the run. -/
theorem launchEditor_run_of_surrogate (h : e.command around.memory s = .ok cmd)
    (hcmd : ∀ words : List Text, cmd ≠ words.map Text.points) :
    ∃ fault complained, (launchEditor e s).run around j =
      ({ j with complained }, .error (.uncaught (.unencodable fault))) := by
  obtain ⟨fault, complained, hstart⟩ := startEditor_run_of_surrogate (j := j) h hcmd
  refine ⟨fault, complained, ?_⟩
  rw [launchEditor]
  exact Action.run_bind_of_error hstart

theorem keeps_orEditorReported {γ : Type} {f : Journal → γ} (hf : Lasting f)
    (r : Except Editor.Fault α) : Action.Keeps f (orEditorReported r) := by
  cases r with
  | ok a => exact Action.keeps_pure f a
  | error fault =>
    rw [orEditorReported]
    split_ifs
    · exact hf.keeps_fail _
    · exact Action.keeps_stop f _

/-! ## The command -/

/-- What is left to do once the editor is known. -/
def openIn (dryRun : Bool) (e : Editor) (s : Specifier) : Action Unit := do
  if dryRun then
    let cmd ← orEditorReported (e.command (← Action.around).memory s)
    printCommandLine (Shell.join cmd)
  else launchEditor e s

theorem openIn_dryRun_run :
    (openIn true e s).run around j = (orEditorReported (e.command around.memory s) >>=
      fun cmd => printCommandLine (Shell.join cmd)).run around j := by
  rw [openIn, if_pos rfl, Action.run_bind_of_ok Action.around_run]

/-- A command whose words are texts is printed by a dry run. -/
theorem openIn_run_of_texts {words : List Text}
    (h : e.command around.memory s = .ok (words.map Text.points)) :
    (openIn true e s).run around j =
      ({ j with printed := j.printed ++ Console.printPlain (Shell.join words) }, .ok ()) := by
  have htext : Points.text? (Shell.join (words.map Text.points)) = some (Shell.join words) := by
    rw [Shell.join_points]
    exact Points.text?_points _
  rw [openIn_dryRun_run, h]
  change (printCommandLine (Shell.join (words.map Text.points))).run around j = _
  rw [printCommandLine, htext]
  rfl

/-- A command with a word that is no text has no encoding, and a dry run says so. -/
theorem openIn_run_of_surrogate (h : e.command around.memory s = .ok cmd)
    (hcmd : ∀ words : List Text, cmd ≠ words.map Text.points) :
    ∃ (fault : Points.EncodingFault) (out : Text),
      Console.print around.width around.emojis
          (Action.errorHead ++ Markup.escape fault.message) = .ok out ∧
        (openIn true e s).run around j =
          ({ j with printed := j.printed ++ out }, .error (.exit 1)) := by
  rw [openIn_dryRun_run, h]
  change ∃ fault out, _ ∧ (printCommandLine (Shell.join cmd)).run around j = _
  rw [printCommandLine, Shell.text?_join_eq_none_iff.2 hcmd]
  exact ⟨_, Action.fail_run _ around j⟩

/-- A dry run starts nothing, whatever comes of the command. -/
theorem keeps_openIn_dryRun : Action.Keeps Journal.started (openIn true e s) := by
  rw [openIn, if_pos rfl]
  exact (Action.keeps_around _).bind fun _ => (keeps_orEditorReported lasting_started _).bind
    fun _ => lasting_started.keeps_printCommandLine _

/-- Once the argument is resolved, the rest of a run is up to the editor. -/
theorem action_run_of_resolved {request : Request} {logger : Logging.Logger} {asked : OpenArgs}
    {context : Context} {ready : Journal}
    (hread : (Request.read args).run around { tree } = ({ tree }, .ok request))
    (hcommand : request.command = .open)
    (hconfigured : (configure request).run around { tree } = ({ tree, logger }, .ok ()))
    (hasks : (OpenArgs.read request.args).run around { tree, logger } =
      ({ tree, logger }, .ok asked))
    (hbased : (contextOf none).run around { tree, logger } = (ready, .ok context))
    (hresolved : (resolve context asked.target).run around.fileSystem = .ok (.ok s)) :
    (action args).run around { tree } =
      (chooseEditor asked.editor >>= (openIn asked.dryRun · s)).run around ready := by
  rw [action, Action.run_bind_of_ok hread, Action.run_bind_of_ok hconfigured, hcommand]
  change (OpenArgs.read request.args >>= openCommand).run around _ = _
  rw [Action.run_bind_of_ok hasks, openCommand, Action.run_bind_of_ok hbased,
    Action.run_bind_of_ok Action.around_run, hresolved,
    Action.run_bind_of_ok (Action.orUncaught_run_ok _ _)]
  rfl

namespace OpenRun

variable (r : OpenRun around tree args)

theorem action_run :
    (action args).run around { tree } =
      (openIn r.asked.dryRun r.editor r.specifier).run around r.ready := by
  rw [action_run_of_resolved r.read r.command r.configured r.asks r.based r.resolved]
  exact Action.run_bind_of_ok r.chosen

theorem printed_ready : r.ready.printed = [] :=
  printed_contextOf r.based

theorem started_ready : r.ready.started = [] := by
  have hkeeps := lasting_started.keeps_contextOf none around { tree, logger := r.logger }
  rwa [r.based] at hkeeps

theorem report_of_dryRun (hdry : r.asked.dryRun = true) :
    run around tree args =
      Report.of ((openIn true r.editor r.specifier).run around r.ready) := by
  rw [run, Action.report_eq, r.action_run, hdry]

theorem report_of_launch (hdry : r.asked.dryRun = false) :
    run around tree args =
      Report.of ((launchEditor r.editor r.specifier).run around r.ready) := by
  rw [run, Action.report_eq, r.action_run, hdry, openIn, if_neg Bool.false_ne_true]

theorem started_of_dryRun (hdry : r.asked.dryRun = true) :
    (run around tree args).journal.started = [] := by
  rw [run, Action.journal_report, r.action_run, hdry, keeps_openIn_dryRun around, r.started_ready]

section Texts

variable {words : List Text}
  (hcmd : r.editor.command around.memory r.specifier = .ok (words.map Text.points))

include hcmd

theorem dryRun_of_texts (hdry : r.asked.dryRun = true) :
    (run around tree args).journal.printed = Console.printPlain (Shell.join words) ∧
      (run around tree args).code = 0 := by
  rw [r.report_of_dryRun hdry, openIn_run_of_texts hcmd, r.printed_ready]
  exact ⟨rfl, rfl⟩

theorem launch_of_texts (hdry : r.asked.dryRun = false) :
    (run around tree args).journal.started = [words.map Text.points] ∧
      ∃ shown,
        Console.print around.width around.emojis (Editor.announcement (Shell.join words)) =
            .ok shown ∧
          Follows around (words.map Text.points) shown (around.start (words.map Text.points))
            (run around tree args) := by
  have hfollows := follows_launchEditor hcmd r.printed_ready
  rwa [← r.report_of_launch hdry, r.started_ready] at hfollows

end Texts

section Surrogates

variable (hcmd : r.editor.command around.memory r.specifier = .ok cmd)
  (hnone : ∀ words : List Text, cmd ≠ words.map Text.points)

include hcmd hnone

theorem dryRun_of_surrogate (hdry : r.asked.dryRun = true) :
    (run around tree args).code = 1 ∧ ∃ (fault : Points.EncodingFault) (out : Text),
      Console.print around.width around.emojis
          (Action.errorHead ++ Markup.escape fault.message) = .ok out ∧
        (run around tree args).journal.printed = out := by
  obtain ⟨fault, out, hout, hrun⟩ := openIn_run_of_surrogate (j := r.ready) hcmd hnone
  rw [r.report_of_dryRun hdry, hrun, r.printed_ready]
  exact ⟨rfl, fault, out, hout, rfl⟩

theorem launch_of_surrogate (hdry : r.asked.dryRun = false) :
    (run around tree args).journal.started = [] ∧ (run around tree args).journal.printed = [] ∧
      ∃ fault, (run around tree args).stop = some (.uncaught (.unencodable fault)) := by
  obtain ⟨fault, complained, hrun⟩ := launchEditor_run_of_surrogate (j := r.ready) hcmd hnone
  rw [r.report_of_launch hdry, hrun]
  exact ⟨r.started_ready, r.printed_ready, fault, rfl⟩

end Surrogates

end OpenRun

/-! ## Opening without settings -/

/-- A file with a quote in its name. -/
def quotedFile : Table := Table.addEntry "/work/it's" .file {}

/-- A file in the working directory. -/
def plainFile : Table := Table.addEntry "/work/a" .file {}

/-- The file of this name. -/
def plainSpecifier : Specifier := .file ⟨.slash, ["work", "a"]⟩ none

/-- A run of a user without settings that opens an argument in an editor. -/
def workOpening (files : Table) (args : List Text) (a : OpenArgs) (e : Editor) (s : Specifier)
    (asks : ∀ j, (OpenArgs.read args).run (workSurroundings files) j = (j, .ok a))
    (editor : a.editor = some e.template)
    (resolved : (resolve ⟨⟨.slash, ["work"]⟩⟩ a.target).run files.toFileSystem = .ok (.ok s)) :
    OpenRun (workSurroundings files) ⟨homeNodes⟩ ("open" :: args) where
  request := { command := .open, args }
  logger := workJournal.logger
  asked := a
  context := ⟨⟨.slash, ["work"]⟩⟩
  ready := workJournal
  specifier := s
  editor := e
  read := read_command rfl args
  command := rfl
  configured := configure_work files (by decide) args
  asks := asks _
  based := rfl
  resolved := resolved
  chosen := by
    rw [editor, chooseEditor]
    exact congrArg (fun made => (orEditorReported made).run (workSurroundings files) workJournal)
      (dif_neg e.trim_ne_nil)

/-! ## The whole run -/

/-- **Dry runs.** Splitting a command line that has been put together from words gives these words
    back. In a run that opens an argument, a dry run starts nothing. Let the editor have a command
    for the argument. If all its words are texts, a dry run prints it as such a command line and
    ends with exit code 0, and any other run shows that command line, starts exactly this command,
    once, and ends as the command does. If one of them is none, nothing is started: a dry run ends
    with exit code 1 and an error that is printed, any other run with the fault in encoding the
    command line, and nothing printed. -/
theorem dry_run_shows_what_starts {around : Surroundings} {tree : Tree} {args : List Text}
    (r : OpenRun around tree args) :
    let report := run around tree args
    (∀ words : List Points, Shell.words (Shell.join words) = .ok words) ∧
      (r.asked.dryRun = true → report.journal.started = []) ∧
      ∀ cmd, r.editor.command around.memory r.specifier = .ok cmd →
        (∀ words : List Text, cmd = words.map Text.points →
          Shell.words (Shell.join words) = .ok words ∧
            (r.asked.dryRun = true →
              report.journal.printed = Console.printPlain (Shell.join words) ∧
                report.code = 0) ∧
            (r.asked.dryRun = false → report.journal.started = [cmd] ∧
              ∃ shown,
                Console.print around.width around.emojis
                    (Editor.announcement (Shell.join words)) = .ok shown ∧
                  Follows around cmd shown (around.start cmd) report)) ∧
          ((∀ words : List Text, cmd ≠ words.map Text.points) →
            report.journal.started = [] ∧
              (r.asked.dryRun = true → report.code = 1 ∧
                ∃ (fault : Points.EncodingFault) (out : Text),
                  Console.print around.width around.emojis
                      (Action.errorHead ++ Markup.escape fault.message) = .ok out ∧
                    report.journal.printed = out) ∧
              (r.asked.dryRun = false → report.journal.printed = [] ∧
                ∃ fault, report.stop = some (.uncaught (.unencodable fault)))) := by
  intro report
  refine ⟨Shell.words_join, r.started_of_dryRun, fun cmd hcmd => ⟨?_, fun hnone => ?_⟩⟩
  · rintro words rfl
    exact ⟨Shell.words_join words, r.dryRun_of_texts hcmd, r.launch_of_texts hcmd⟩
  · refine ⟨?_, r.dryRun_of_surrogate hcmd hnone,
      fun hdry => (r.launch_of_surrogate hcmd hnone hdry).2⟩
    cases hdry : r.asked.dryRun with
    | true => exact r.started_of_dryRun hdry
    | false => exact (r.launch_of_surrogate hcmd hnone hdry).1

/-- A file with a quote in its name is opened as the dry run shows. -/
theorem quoted_file_opened_as_shown :
    let around := workSurroundings quotedFile
    let shown := run around ⟨homeNodes⟩
      ["open", "--dry-run", "--editor", "vi +{line} {path}", "it's:7"]
    let opened := run around ⟨homeNodes⟩ ["open", "--editor", "vi +{line} {path}", "it's:7"]
    let cmd : List Points := ["vi".toList, "+7".toList, "/work/it's".toList]
    shown.journal.printed = "vi +7 '/work/it'\"'\"'s'\n" ∧ shown.journal.started = [] ∧
      opened.journal.started = [cmd] ∧ opened.code = 1 := by
  intro around shown opened cmd
  have hshown : ∀ j, (OpenArgs.read
      ["--dry-run", "--editor", "vi +{line} {path}", "it's:7"]).run around j =
        (j, .ok { target := "it's:7", editor := some "vi +{line} {path}", dryRun := true }) := by
    intro j
    rw [OpenArgs.read]
    simp only [Parsed.ofArgs]
    rfl
  have hopened : ∀ j, (OpenArgs.read ["--editor", "vi +{line} {path}", "it's:7"]).run around j =
      (j, .ok { target := "it's:7", editor := some "vi +{line} {path}", dryRun := false }) := by
    intro j
    rw [OpenArgs.read]
    simp only [Parsed.ofArgs]
    rfl
  let words : List Text := ["vi", "+7", "/work/it's"]
  let e : Editor := ⟨"vi +{line} {path}", by decide⟩
  let s : Specifier := .file ⟨.slash, ["work", "it's"]⟩ (some ⟨7, 1⟩)
  have hresolved : (resolve around.context "it's:7").run quotedFile.toFileSystem = .ok (.ok s) := by
    decide
  have hcmd : e.command around.memory s = .ok cmd := by decide +kernel
  obtain ⟨-, hnone, hprints⟩ :=
    dry_run_shows_what_starts (workOpening quotedFile _ _ e s hshown rfl hresolved)
  obtain ⟨-, -, hstarts⟩ :=
    dry_run_shows_what_starts (workOpening quotedFile _ _ e s hopened rfl hresolved)
  obtain ⟨-, hprinted, -⟩ := (hprints cmd hcmd).1 words rfl
  obtain ⟨-, -, hopens⟩ := (hstarts cmd hcmd).1 words rfl
  obtain ⟨hstarted, out, -, hfollows⟩ := hopens rfl
  have hescape : '\x1b' ∉ Shell.join words := by decide
  have hcode : ∀ report, Follows around cmd out .notFound report → report.code = 1 := by
    rintro _ ⟨⟩
    rfl
  refine ⟨?_, hnone rfl, hstarted, hcode _ hfollows⟩
  rw [(hprinted rfl).1, Console.printPlain_of_notMem hescape]
  rfl

/-- A command with a surrogate in it is not started. -/
theorem surrogate_command_not_started :
    let around := workSurroundings plainFile
    let e : Editor := ⟨"vi \x7bline:c\x7d", by decide⟩
    let s : Specifier := .file ⟨.slash, ["work", "a"]⟩ (some ⟨55296, 1⟩)
    let report := run around ⟨homeNodes⟩ ["open", "a:55296", "--editor", e.template]
    let cmd : List Points := ["vi".toList, [.surrogate 0]]
    (resolve around.context "a:55296").run around.fileSystem = .ok (.ok s) ∧
      e.command around.memory s = .ok cmd ∧
      report.journal.started = [] ∧ report.journal.started ≠ [cmd] ∧
      report.journal.printed = [] ∧
      ∃ fault, report.stop = some (.uncaught (.unencodable fault)) := by
  intro around e s report cmd
  have hasks : ∀ j, (OpenArgs.read ["a:55296", "--editor", e.template]).run around j =
      (j, .ok { target := "a:55296", editor := some e.template }) := by
    intro j
    rw [OpenArgs.read]
    simp only [Parsed.ofArgs]
    rfl
  have hresolved : (resolve around.context "a:55296").run around.fileSystem = .ok (.ok s) := by
    decide
  have hcmd : e.command around.memory s = .ok cmd := by decide +kernel
  have hsurrogate : ∀ words : List Text, cmd ≠ words.map Text.points := by
    rw [← Shell.text?_join_eq_none_iff]
    rfl
  let r := workOpening plainFile _ _ e s hasks rfl hresolved
  obtain ⟨hstarted, hprinted, hstop⟩ := r.launch_of_surrogate hcmd hsurrogate rfl
  refine ⟨hresolved, hcmd, hstarted, ?_, hprinted, hstop⟩
  rw [hstarted]
  exact (List.cons_ne_nil cmd []).symm

end Pinpoint.CommandLine
