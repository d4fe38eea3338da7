import Pinpoint.Proofs.CommandLine.Resolve
import Pinpoint.Proofs.Settings.Unreadable

/-!
# Settings that commands report

Where settings cannot be had, a command that needs them either prints an error and ends with
exit code 1, or it ends with the fault that nobody has caught. It does the former for a file that
cannot be read or holds no document, and the latter for bytes that are unfit.

* `Reports`: what a command makes of settings that cannot be had.
* `reports_resolveCommand`, `reports_showSettings`: the commands that read their settings.
* `unreadable_settings_reported`: from the bytes of the file to the end of the command.
-/

namespace Pinpoint.CommandLine

open Markup (Prints isStyle_of_mem prints_of_notMem)
open Settings (Fit OpenedOrWrong fileExists fileIn)

variable {around : Surroundings} {j : Journal} {fault : Settings.Fault} {α : Type}

/-! ## Specification -/

/-- How a command ends that has done `j` and cannot have its settings: where the reason is one that
    commands report, it has printed an error, perhaps with a hint behind it, and ends with exit code
    1. Any other reason ends it at once. -/
structure Reports (width : Nat) (emojis : Markup.EmojiTable) (j : Journal) (fault : Settings.Fault)
    (ended : Journal × Except Stop Unit) : Prop where
  wrong : fault.isWrong = true → ∃ out hint,
    Console.print width emojis (Action.errorHead ++ Markup.escape fault.message) = .ok out ∧
      ended = ({ j with printed := j.printed ++ out ++ hint }, .error (.exit 1))
  other : fault.isWrong = false → ended = (j, .error (.uncaught (.settings fault)))

/-! ## Commands that read their settings -/

/-- Whoever needs settings reports a fault of the kind that is reported, and is ended by any
    other. -/
theorem reports_bind {report : Settings.Fault → Action α} {rest : α → Action Unit}
    (hreport : ∃ out hint,
      Console.print around.width around.emojis
          (Action.errorHead ++ Markup.escape fault.message) = .ok out ∧
        (report fault).run around j =
          ({ j with printed := j.printed ++ out ++ hint }, .error (.exit 1))) :
    Reports around.width around.emojis j fault
      ((Action.orReported Settings.Fault.isWrong report (.error fault) >>= rest).run around j) where
  wrong h := by
    obtain ⟨out, hint, hout, hrun⟩ := hreport
    refine ⟨out, hint, hout, ?_⟩
    rw [Action.orReported, if_pos h]
    exact Action.run_bind_of_error hrun
  other h := by
    rw [Action.orReported, if_neg (by simp [h])]
    rfl

theorem reports_resolveCommand (a : ResolveArgs)
    (hopened : Settings.open j.tree around.place around.environment.dir = .error fault) :
    Reports around.width around.emojis j fault ((resolveCommand a).run around j) := by
  obtain ⟨out, hout, hfail⟩ := Action.fail_run (α := Settings) fault.message around j
  rw [resolveCommand, Action.run_bind_of_ok Action.openSettings_run, hopened]
  exact reports_bind ⟨out, [], hout, by rw [hfail, List.append_nil]⟩

theorem print_hint (width : Nat) (emojis : Markup.EmojiTable) :
    ∃ out, Console.print width emojis
      "[yellow]Hint:[/yellow] run 'linecol init --force' to rewrite it" = .ok out := by
  have hprints : Prints emojis " run 'linecol init --force' to rewrite it" [_] :=
    prints_of_notMem (by decide)
  exact ⟨_, Console.print_of_prints
    (hprints.styled (isStyle_of_mem "yellow" (by decide)) "Hint:" (by decide) (by decide))⟩

/-- An error is printed, and a hint how to get rid of it. -/
theorem reportSettings_run (fault : Settings.Fault) (around : Surroundings) (j : Journal) :
    ∃ out hint,
      Console.print around.width around.emojis
          (Action.errorHead ++ Markup.escape fault.message) = .ok out ∧
        (reportSettings fault : Action α).run around j =
          ({ j with printed := j.printed ++ out ++ hint }, .error (.exit 1)) := by
  obtain ⟨out, hout⟩ := Action.print_error around.width around.emojis fault.message
  obtain ⟨hint, hhint⟩ := print_hint around.width around.emojis
  refine ⟨out, hint, hout, ?_⟩
  rw [reportSettings, Action.run_bind_of_ok (Action.say_run_of_print hout),
    Action.run_bind_of_ok (Action.say_run_of_print hhint)]
  rfl

theorem reports_showSettings
    (hopened : Settings.open j.tree around.place around.environment.dir = .error fault) :
    Reports around.width around.emojis j fault (showSettings.run around j) := by
  rw [showSettings, Action.run_bind_of_ok Action.openSettings_run, hopened]
  exact reports_bind (reportSettings_run fault around j)

/-! ## Files of a user with a home directory -/

/-- A file of settings with some bytes. -/
def homeTree (bytes : List UInt8) : Tree :=
  ⟨(Settings.fileName :: homeSettings, .file bytes) :: homeNodes⟩

theorem fileExists_homeTree (bytes : List UInt8) :
    fileExists (homeTree bytes) homeSurroundings.place (fileIn homeSurroundings.environment.dir) =
      .ok true := by
  cbv

theorem contentOf_homeTree (bytes : List UInt8) :
    (homeTree bytes).contentOf homeSurroundings.place (fileIn homeSurroundings.environment.dir) =
      .ok bytes := by
  cbv

theorem open_homeTree (bytes : List UInt8) :
    Settings.open (homeTree bytes) homeSurroundings.place homeSurroundings.environment.dir =
      (Settings.tableOfBytes bytes).map (⟨homeSurroundings.environment.dir, ·⟩) :=
  Settings.open_of_contentOf (fileExists_homeTree bytes) (contentOf_homeTree bytes)

/-- A header that is not closed. -/
def unclosedHeader : Text := "[output\n"

theorem open_unclosedHeader : ∃ place,
    Settings.open (homeTree (Utf8.encode unclosedHeader)) homeSurroundings.place
      homeSurroundings.environment.dir = .error (.malformed .tableEnd place) := by
  have hparse : Toml.Document.parse unclosedHeader = .error (.at .tableEnd "line 1, column 8") :=
    rfl
  refine ⟨"line 1, column 8", ?_⟩
  rw [open_homeTree, Settings.tableOfBytes_encode_of_error hparse]
  rfl

/-! ## From the file to the end of the command -/

/-- **Unreadable settings.** Where something stands at the path of the settings, whatever it is, a
    fault to read it is one that commands report. Where it is read, opening the settings succeeds
    or fails for such a fault exactly if the bytes are fit: the bytes of a text in which no number
    stops the reader for its digits. A number that does so stands in the text and has more than
    4300 digits. Resolving and showing settings end with exit code 1 and an error that is printed
    for the faults that they report, and with the fault itself, and nothing printed, for any
    other. -/
theorem unreadable_settings_reported {around : Surroundings} {j : Journal}
    (hpresent : fileExists j.tree around.place (fileIn around.environment.dir) = .ok true) :
    let opened := Settings.open j.tree around.place around.environment.dir
    let content := j.tree.contentOf around.place (fileIn around.environment.dir)
    (∀ e, content = .error e → OpenedOrWrong opened) ∧
      (∀ bytes, content = .ok bytes → (OpenedOrWrong opened ↔ Fit bytes)) ∧
      (∀ source, ¬ Fit (Utf8.encode source) → ∃ n, 4300 < n ∧ Toml.HasNumeral source n) ∧
      ∀ fault, opened = .error fault →
        (∀ a, Reports around.width around.emojis j fault ((resolveCommand a).run around j)) ∧
          Reports around.width around.emojis j fault (showSettings.run around j) := by
  intro opened content
  refine ⟨fun e he fault hfault => ?_, fun bytes hbytes => ?_, fun source hsource => ?_,
    fun fault hfault => ⟨fun a => reports_resolveCommand a hfault, reports_showSettings hfault⟩⟩
  · have hopened := Settings.open_of_contentOf_error hpresent he
    cases hopened.symm.trans hfault
    rfl
  · exact Settings.openedOrWrong_iff hpresent hbytes
  · exact Settings.hasNumeral_of_not_fit hsource

/-- A file that breaks off in a header is reported. -/
theorem unclosed_header_reported :
    let j : Journal := { tree := homeTree (Utf8.encode unclosedHeader) }
    fileExists j.tree homeSurroundings.place (fileIn homeSurroundings.environment.dir) = .ok true ∧
      ∃ out, (resolveCommand { args := ["a"] }).run homeSurroundings j =
        ({ j with printed := out }, .error (.exit 1)) := by
  intro j
  have hpresent := fileExists_homeTree (Utf8.encode unclosedHeader)
  obtain ⟨place, hopened⟩ := open_unclosedHeader
  obtain ⟨-, -, -, hreports⟩ := unreadable_settings_reported (j := j) hpresent
  obtain ⟨out, hint, -, hrun⟩ := ((hreports _ hopened).1 { args := ["a"] }).wrong rfl
  exact ⟨hpresent, _, hrun⟩

/-- A byte that is no text ends both commands without a word. -/
theorem undecodable_settings_unreported :
    let j : Journal := { tree := homeTree [0xFF] }
    fileExists j.tree homeSurroundings.place (fileIn homeSurroundings.environment.dir) = .ok true ∧
      ∃ fault, Settings.open j.tree homeSurroundings.place homeSurroundings.environment.dir =
          .error fault ∧ fault.isWrong = false ∧
        (resolveCommand { args := ["a"] }).run homeSurroundings j =
          (j, .error (.uncaught (.settings fault))) ∧
        showSettings.run homeSurroundings j = (j, .error (.uncaught (.settings fault))) := by
  intro j
  have hopened : Settings.open j.tree homeSurroundings.place homeSurroundings.environment.dir =
      .error (.notUtf8 ⟨.startByte, 0xFF, 0, 1⟩) := open_homeTree [0xFF]
  exact ⟨fileExists_homeTree _, _, hopened, rfl,
    (reports_resolveCommand { args := ["a"] } hopened).other rfl,
    (reports_showSettings hopened).other rfl⟩

end Pinpoint.CommandLine
