import Pinpoint.Proofs.CommandLine.Open
import Pinpoint.Proofs.CommandLine.Replace
import Pinpoint.Proofs.Editor

/-!
# Programs that are started

A template that is not blank is split into at least one word, and as many words are filled in. So
the command of an editor names a program, and whatever a run does, it starts nothing else.

* `Editor.command_ne_nil`, `Editor.command_ne_notFound`: the command of an editor.
* `started_startEditor`, `started_of_notFound`: what is started with an editor.
* `Journal.Named`: every command that has been started names a program.
* `Action.Maintains`: an action keeps that up, or something else of this kind.
* `keeps_configure`, `keeps_initCommand`, `keeps_resolveCommand`: actions that start nothing.
* `maintains_launchEditor`, `maintains_action`: one that starts an editor, and a whole run.
* `started_commands_name_programs`: all of it together.
-/

namespace Pinpoint

/-! ## The command of an editor -/

namespace Editor

variable {e : Editor} {memory : Template.Memory} {s : Specifier} {cmd : List Points}

/-- A command has as many words as its template, and a template that is not blank has some. -/
theorem command_ne_nil (h : e.command memory s = .ok cmd) : cmd ≠ [] := by
  rw [command] at h
  cases hwords : Shell.words e.template with
  | error fault =>
    rw [hwords] at h
    cases h
  | ok words =>
    obtain ⟨word, rest, rfl⟩ :=
      List.exists_cons_of_ne_nil (Shell.words_ne_nil hwords e.trim_ne_nil)
    rw [hwords] at h
    dsimp only at h
    rw [List.mapM_cons] at h
    cases hword : fillWord memory e.template s word with
    | error fault =>
      rw [hword] at h
      cases h
    | ok first =>
      cases hrest : rest.mapM (fillWord memory e.template s) with
      | error fault =>
        rw [hword, hrest] at h
        cases h
      | ok others =>
        rw [hword, hrest] at h
        cases h
        exact List.cons_ne_nil first others

/-- Whether there is such a program is not known before it is started. -/
theorem command_ne_notFound (program : Points) :
    e.command memory s ≠ .error (.notFound program) := by
  intro h
  rw [command] at h
  split at h
  · cases h
  · obtain ⟨before, word, after, -, -, hfill⟩ := mapM_error_iff.1 h
    rw [fillWord] at hfill
    split at hfill
    · cases hfill
    · split_ifs at hfill <;> cases hfill

end Editor

namespace CommandLine

open Pinpoint.CommandLine.Action (Keeps keeps_around keeps_ite keeps_openSettings keeps_orReported
  keeps_orUncaught keeps_pure keeps_stop)

variable {around : Surroundings} {tree : Tree} {args : List Text} {e : Editor} {s : Specifier}
  {cmd : List Points} {j : Journal} {α β γ : Type} {f : Journal → γ}

/-! ## Specification -/

/-- Every command that has been started names a program: none is without words. -/
def Journal.Named (j : Journal) : Prop := [] ∉ j.started

/-- However an action ends, what has held of what has been done holds then, too. -/
def Action.Maintains (p : Journal → Prop) (x : Action α) : Prop :=
  ∀ around j, p j → p (x.run around j).1

/-! ## One action after another -/

theorem Action.Maintains.bind {p : Journal → Prop} {x : Action α} {g : α → Action β}
    (hx : Maintains p x) (hg : ∀ a, Maintains p (g a)) : Maintains p (x >>= g) := by
  intro around j hj
  have hfirst := hx around j hj
  rw [bind_run]
  split
  · next j' a hrun =>
    rw [hrun] at hfirst
    exact hg a around j' hfirst
  · next j' stop hrun =>
    rw [hrun] at hfirst
    exact hfirst

/-- An action that starts nothing maintains what has been said of what was started. -/
theorem Action.Keeps.named {x : Action α} (h : Keeps Journal.started x) :
    Maintains Journal.Named x := by
  intro around j hj
  rw [Journal.Named, h around j]
  exact hj

/-! ## Actions that start nothing -/

theorem keeps_configure (r : Request) : Keeps Journal.started (configure r) := by
  have hexit {α : Type} (message : Text) :
      Keeps Journal.started (complainAndExit message : Action α) :=
    (talks_complainAndExit message).keeps lasting_started
  have hlevel : Keeps Journal.started (chooseLevel r) := by
    rw [chooseLevel]
    split_ifs
    · exact keeps_pure _ _
    · dsimp only
      split
      · exact keeps_pure _ _
      · exact keeps_pure _ _
      · exact (keeps_openSettings _).bind fun _ => keeps_orReported (fun _ => hexit _) _
  refine hlevel.bind fun level => ?_
  split
  · exact fun _ _ => rfl
  · exact hexit _

theorem keeps_setTree (t : Tree) : Keeps Journal.started (setTree t) := fun _ _ => rfl

theorem keeps_tree (f : Journal → γ) : Keeps f Action.tree := fun _ _ => rfl

theorem keeps_removeFile (place : Place) (file : Path) :
    Keeps Journal.started (removeFile place file) := by
  refine (keeps_tree _).bind fun t => ?_
  split
  · exact lasting_started.keeps_failToCreate _
  · exact (keeps_setTree _).bind fun _ => lasting_started.keeps_say _

theorem keeps_createFile (settings : Settings) (place : Place) (editor : Option Text) :
    Keeps Journal.started (createFile settings place editor) := by
  refine (keeps_tree _).bind fun t => (keeps_setTree _).bind fun _ => ?_
  split
  · exact lasting_started.keeps_failToCreate _
  · exact lasting_started.keeps_say _

theorem keeps_writeSettings (force : Bool) (editor : Option Text) :
    Keeps Journal.started (writeSettings force editor) := by
  have hshow (around : Surroundings) : Keeps Journal.started (do
      createFile (.unread around.environment.dir) around.place editor
      let settings ← Action.orUncaught .settings (← Action.openSettings)
      printSettings (Settings.unread around.environment.dir).file
        (← Action.orUncaught .settings settings.shown)) :=
    (keeps_createFile _ _ _).bind fun _ => (keeps_openSettings _).bind fun _ =>
      (keeps_orUncaught _ _ _).bind fun _ => (keeps_orUncaught _ _ _).bind fun _ =>
        lasting_started.keeps_printSettings _ _
  refine (keeps_around _).bind fun around => (keeps_tree _).bind fun _ =>
    (keeps_orUncaught _ _ _).bind fun isPresent => ?_
  refine keeps_ite ((lasting_started.keeps_say _).bind fun _ _ _ => rfl) ?_
  exact keeps_ite ((keeps_removeFile _ _).bind fun _ => hshow around) (hshow around)

theorem keeps_initCommand (a : InitArgs) : Keeps Journal.started (initCommand a) :=
  keeps_ite lasting_started.keeps_showSettings (keeps_writeSettings _ _)

theorem keeps_given {opt : Option α} {setting : Except Settings.Fault α} :
    Keeps Journal.started (given opt setting) := by
  cases opt with
  | some a => exact keeps_pure _ _
  | none => exact keeps_orReported (fun _ => lasting_started.keeps_fail _) _

theorem keeps_resolveCommand (a : ResolveArgs) : Keeps Journal.started (resolveCommand a) := by
  refine (keeps_openSettings _).bind fun opened =>
    (keeps_orReported (fun _ => lasting_started.keeps_fail _) opened).bind fun settings =>
      keeps_given.bind fun format => keeps_given.bind fun jobs => ?_
  refine keeps_ite ((lasting_started.keeps_say _).bind fun _ _ _ => rfl) ?_
  refine (lasting_started.keeps_contextOf _).bind fun context => (keeps_around _).bind fun around =>
    (keeps_orUncaught _ _ _).bind fun outcomes =>
      ((talks_printOutcomes format outcomes).keeps lasting_started).bind fun _ => ?_
  exact keeps_ite (keeps_pure _ _) (keeps_stop _ _)

/-! ## Starting an editor -/

/-- An editor starts its command, or nothing. -/
theorem started_startEditor (e : Editor) (s : Specifier) (around : Surroundings) (j : Journal) :
    ((startEditor e s).run around j).1.started = j.started ∨
      ∃ cmd, e.command around.memory s = .ok cmd ∧ cmd ≠ [] ∧
        ((startEditor e s).run around j).1.started = j.started ++ [cmd] := by
  cases hcmd : e.command around.memory s with
  | error fault =>
    refine .inl ?_
    rw [startEditor, Action.run_bind_of_ok Action.around_run, hcmd]
    rfl
  | ok cmd =>
    by_cases hwords : ∃ words : List Text, cmd = words.map Text.points
    · obtain ⟨words, rfl⟩ := hwords
      obtain ⟨shown, complained, -, hrun⟩ := startEditor_run_of_texts (j := j) hcmd
      exact .inr ⟨_, rfl, Editor.command_ne_nil hcmd, by rw [hrun]⟩
    · push Not at hwords
      obtain ⟨fault, complained, hrun⟩ := startEditor_run_of_surrogate (j := j) hcmd hwords
      exact .inl (by rw [hrun])

/-- A program that has not been found is the first word of the command that was to be started. -/
theorem started_of_notFound {program : Points}
    (h : ((startEditor e s).run around j).2 = .ok (.error (.notFound program))) :
    ∃ rest, ((startEditor e s).run around j).1.started = j.started ++ [program :: rest] := by
  cases hcmd : e.command around.memory s with
  | error fault =>
    rw [startEditor, Action.run_bind_of_ok Action.around_run, hcmd] at h
    obtain rfl : fault = .notFound program := Except.error.inj (Except.ok.inj h)
    exact absurd hcmd (Editor.command_ne_notFound program)
  | ok cmd =>
    by_cases hwords : ∃ words : List Text, cmd = words.map Text.points
    · obtain ⟨words, rfl⟩ := hwords
      obtain ⟨shown, complained, -, hrun⟩ := startEditor_run_of_texts (j := j) hcmd
      obtain ⟨word, rest, hcons⟩ := List.exists_cons_of_ne_nil (Editor.command_ne_nil hcmd)
      rw [hrun, hcons] at h ⊢
      have hresult : (around.start (word :: rest)).result (word :: rest) =
          .error (.notFound program) := Except.ok.inj h
      cases hstart : around.start (word :: rest) with
      | notFound =>
        rw [hstart] at hresult
        cases hresult
        exact ⟨rest, rfl⟩
      | exited code => rw [hstart] at hresult; cases hresult
      | refused reason => rw [hstart] at hresult; cases hresult
      | failed e => rw [hstart] at hresult; cases hresult
    · push Not at hwords
      obtain ⟨fault, complained, hrun⟩ := startEditor_run_of_surrogate (j := j) hcmd hwords
      rw [hrun] at h
      cases h

/-- An editor is started by its command. -/
theorem maintains_launchEditor (e : Editor) (s : Specifier) :
    Action.Maintains Journal.Named (launchEditor e s) := by
  have hstart : Action.Maintains Journal.Named (startEditor e s) := by
    intro around j hj
    rw [Journal.Named]
    obtain hnone | ⟨cmd, -, hne, hstarted⟩ := started_startEditor e s around j
    · rw [hnone]
      exact hj
    · rw [hstarted]
      intro hmem
      rcases List.mem_append.1 hmem with hbefore | hnow
      · exact hj hbefore
      · exact hne (List.mem_singleton.1 hnow).symm
  refine hstart.bind fun result =>
    ((keeps_orEditorReported lasting_started _).bind fun code => ?_).named
  exact keeps_ite (keeps_pure _ _) (keeps_stop _ _)

theorem keeps_chooseEditor (template : Option Text) :
    Keeps Journal.started (chooseEditor template) := by
  have hsetting : Keeps Journal.started editorSetting := by
    refine (keeps_openSettings _).bind fun opened =>
      (keeps_orReported (fun _ => lasting_started.keeps_fail _) opened).bind fun settings => ?_
    split
    · exact keeps_pure _ _
    · exact keeps_stop _ _
  cases template with
  | some template => exact (keeps_pure _ _).bind fun _ => keeps_orEditorReported lasting_started _
  | none => exact hsetting.bind fun _ => keeps_orEditorReported lasting_started _

theorem maintains_openCommand (a : OpenArgs) :
    Action.Maintains Journal.Named (openCommand a) := by
  refine (lasting_started.keeps_contextOf _).named.bind fun context =>
    (keeps_around _).named.bind fun around => (keeps_orUncaught _ _ _).named.bind fun outcome => ?_
  cases outcome with
  | error failure =>
    exact (((Action.talks_sayUnbroken _).keeps lasting_started).bind fun _ => keeps_stop _ _).named
  | ok s =>
    refine (keeps_chooseEditor _).named.bind fun e => ?_
    split_ifs
    · exact ((keeps_around _).bind fun _ => (keeps_orEditorReported lasting_started _).bind fun _ =>
        lasting_started.keeps_printCommandLine _).named
    · exact maintains_launchEditor e s

/-! ## The whole run -/

theorem maintains_runCommand (command : Command) (args : List Text) :
    Action.Maintains Journal.Named (runCommand command args) := by
  cases command with
  | init =>
    exact (((talks_initArgs args).keeps lasting_started).bind keeps_initCommand).named
  | resolve =>
    exact (((talks_resolveArgs args).keeps lasting_started).bind keeps_resolveCommand).named
  | «open» =>
    exact ((talks_openArgs args).keeps lasting_started).named.bind maintains_openCommand

theorem maintains_action (args : List Text) : Action.Maintains Journal.Named (action args) :=
  ((talks_read args).keeps lasting_started).named.bind fun r =>
    (keeps_configure r).named.bind fun _ => maintains_runCommand r.command r.args

theorem named_run (around : Surroundings) (tree : Tree) (args : List Text) :
    (run around tree args).journal.Named := by
  rw [run, Action.journal_report]
  exact maintains_action args around { tree } List.not_mem_nil

/-- **A program is started by a command line with a first word.** A template makes an editor
    exactly if it is not blank. A command that such an editor has for a specifier has a word,
    whatever has been put in. Opening an editor starts this command or nothing, and a program that
    has not been found is the first word of what was to be started. So no run starts a command
    without words. -/
theorem started_commands_name_programs :
    (∀ template, Text.trim template ≠ [] ↔ ∃ e, Editor.ofTemplate template = .ok e) ∧
      (∀ template e, Editor.ofTemplate template = .ok e → ∀ s,
        (∀ memory cmd, e.command memory s = .ok cmd → cmd ≠ []) ∧
          ∀ around j,
            let ran := (startEditor e s).run around j
            (ran.1.started = j.started ∨ ∃ cmd, e.command around.memory s = .ok cmd ∧ cmd ≠ [] ∧
                ran.1.started = j.started ++ [cmd]) ∧
              ∀ program, ran.2 = .ok (.error (.notFound program)) →
                ∃ rest, ran.1.started = j.started ++ [program :: rest]) ∧
      ∀ around tree args, [] ∉ (run around tree args).journal.started := by
  refine ⟨fun template => ⟨fun h => ⟨⟨template, h⟩, Editor.ofTemplate_ok_iff.2 rfl⟩, ?_⟩,
    fun _ e _ s => ⟨fun _ _ => Editor.command_ne_nil, fun around j =>
      ⟨started_startEditor e s around j, fun _ => started_of_notFound⟩⟩, named_run⟩
  rintro ⟨e, he⟩
  rw [← Editor.ofTemplate_ok_iff.1 he]
  exact e.trim_ne_nil

/-- A pair of quotes is a template that is not blank. Its only word is empty, and that is the
    program which is not found. -/
theorem empty_program_started :
    let e : Editor := ⟨"''", by decide⟩
    let s : Specifier := .file ⟨.slash, ["work", "a"]⟩ none
    let ran := (startEditor e s).run homeSurroundings { tree := ⟨homeNodes⟩ }
    Text.trim "''" ≠ [] ∧ Editor.ofTemplate "''" = .ok e ∧
      ran.2 = .ok (.error (.notFound [])) ∧ ran.1.started = [[[]]] ∧ ran.1.started ≠ [[]] := by
  intro e s ran
  have he : Editor.ofTemplate "''" = .ok e := Editor.ofTemplate_ok_iff.2 rfl
  obtain ⟨hmakes, hcommands, -⟩ := started_commands_name_programs
  obtain ⟨hnamed, hruns⟩ := hcommands _ e he s
  obtain ⟨hstarts, hnotFound⟩ := hruns homeSurroundings { tree := ⟨homeNodes⟩ }
  have hcmd : e.command homeSurroundings.memory s = .ok ([[]].map Text.points) := by
    decide +kernel
  have hresult : ran.2 = .ok (.error (.notFound [])) := by
    obtain ⟨shown, complained, -, hran⟩ := startEditor_run_of_texts hcmd
    exact congrArg Prod.snd hran
  obtain ⟨rest, hran⟩ := hnotFound [] hresult
  obtain hnone | ⟨cmd, hrun, hne, hone⟩ := hstarts
  · rw [hran] at hnone
    cases hnone
  · cases hcmd.symm.trans hrun
    exact ⟨(hmakes _).2 ⟨e, he⟩, he, hresult, hone, by rw [hone]; decide⟩

end CommandLine

end Pinpoint
