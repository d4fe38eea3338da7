import Pinpoint.CommandLine
import Pinpoint.Proofs.Failing
import Pinpoint.Proofs.Markup.Printing

/-!
# Running actions

An action that goes well hands its result and what has been done on to the next one; one
that stops ends the whole. Markup that prints never stops a command.

* `Action.run_bind_of_ok`, `Action.run_bind_of_error`, `Action.run_bind_ok_iff`: one action
  after another.
* `Action.say_run`, `Action.say_run_of_print`: markup that prints as prose.
* `Action.sayOf_run_of_print`, `Action.sayOf_run_of_surrogate`: markup made of a text, and of
  something that is none.
* `Action.complain_run_of_print`, `Action.complain_run_of_error`: markup as a complaint.
* `Action.fail_run`, `Action.fail_run_of_surrogate`: an error is printed exactly if its message is
  a text.
* `printTable_ok`: a table whose title and cells print.
* `read_command`: a command line that starts with the name of a command.
-/

namespace Pinpoint

open Markup (Prints isStyle_of_mem prints_escape)

/-! ## Tables -/

namespace Console

variable {width : Nat} {emojis : Markup.EmojiTable}

/-- A table can be printed if its title and its cells can. -/
theorem printTable_ok {t : Table} (htitle : ∃ texts, Prints emojis t.title texts)
    (hheader : ∀ cell ∈ t.header, ∃ texts, Prints emojis cell texts)
    (hrows : ∀ row ∈ t.rows, ∀ cell ∈ row, ∃ texts, Prints emojis cell texts) :
    ∃ out, printTable width emojis t = .ok out := by
  have hcells : ∀ cells : List Text, (∀ cell ∈ cells, ∃ texts, Prints emojis cell texts) →
      ∃ outs, cells.mapM (Markup.render emojis) = .ok outs := fun cells hcells =>
    exists_mapM_ok_iff.2 fun cell hcell =>
      let ⟨_, hprints⟩ := hcells cell hcell
      ⟨_, hprints.render⟩
  obtain ⟨texts, htitle⟩ := htitle
  obtain ⟨header, hheader⟩ := hcells t.header hheader
  obtain ⟨rows, hrows⟩ := exists_mapM_ok_iff.2 fun row hrow => hcells row (hrows row hrow)
  rw [printTable, htitle.render, hheader, hrows]
  exact ⟨_, rfl⟩

/-- Markup that prints is wrapped and printed. -/
theorem print_of_prints {markup : Text} {texts : List Text} (h : Prints emojis markup texts) :
    print width emojis markup =
      .ok (unlines (wrap width (texts.flatMap (Markup.plain emojis)))) := by
  rw [print, h.render]
  rfl

end Console

/-! ## Actions -/

/-- What is left behind by a run that has ended in some way. -/
def CommandLine.Report.of : Journal × Except Stop Unit → Report
  | (journal, .ok ()) => ⟨journal, none⟩
  | (journal, .error stop) => ⟨journal, some stop⟩

namespace CommandLine.Action

variable {α β : Type} {x : Action α} {f : α → Action β} {around : Surroundings}
  {j j' : Journal} {a : α} {b : β} {markup : Text} {texts : List Text}

theorem run_bind_of_ok (h : x.run around j = (j', .ok a)) :
    (x >>= f).run around j = (f a).run around j' := by
  rw [bind_run, h]

theorem run_bind_of_error {stop : Stop} (h : x.run around j = (j', .error stop)) :
    (x >>= f).run around j = (j', .error stop) := by
  rw [bind_run, h]

/-- Two actions go well one after the other if both do. -/
theorem run_bind_ok_iff :
    (x >>= f).run around j = (j', .ok b) ↔
      ∃ j₁ a, x.run around j = (j₁, .ok a) ∧ (f a).run around j₁ = (j', .ok b) := by
  constructor
  · intro h
    rw [bind_run] at h
    split at h
    · next j₁ a hx => exact ⟨j₁, a, hx, h⟩
    · cases h
  · rintro ⟨j₁, a, hx, hf⟩
    rw [run_bind_of_ok hx, hf]

@[simp] theorem around_run : Action.around.run around j = (j, .ok around) := rfl

@[simp] theorem tree_run : Action.tree.run around j = (j, .ok j.tree) := rfl

@[simp] theorem write_run (t : Text) :
    (write t).run around j = ({ j with printed := j.printed ++ t }, .ok ()) := rfl

@[simp] theorem openSettings_run :
    openSettings.run around j =
      (j, .ok (Settings.open j.tree around.place around.environment.dir)) := rfl

theorem orUncaught_run_ok {ε : Type} (cause : ε → Uncaught) (a : α) :
    (orUncaught cause (.ok a)).run around j = (j, .ok a) := rfl

theorem orUncaught_run_error {ε : Type} (cause : ε → Uncaught) (e : ε) :
    (orUncaught cause (.error e) : Action α).run around j =
      (j, .error (.uncaught (cause e))) := rfl

theorem orReported_run_ok (isReported : Settings.Fault → Bool) (report : Settings.Fault → Action α)
    (a : α) : (orReported isReported report (.ok a)).run around j = (j, .ok a) := rfl

/-- What an action leaves behind is a matter of how it runs. -/
theorem report_eq (x : Action Unit) (around : Surroundings) (tree : Tree) :
    x.report around tree = Report.of (x.run around { tree }) := by
  rw [report]
  rcases x.run around { tree } with ⟨j, ⟨⟩ | stop⟩ <;> rfl

theorem report_of_ok {x : Action Unit} {tree : Tree}
    (h : x.run around { tree } = (j, .ok ())) : x.report around tree = ⟨j, none⟩ := by
  rw [report, h]

theorem report_of_error {x : Action Unit} {tree : Tree} {stop : Stop}
    (h : x.run around { tree } = (j, .error stop)) : x.report around tree = ⟨j, some stop⟩ := by
  rw [report, h]

theorem say_run_of_print {out : Text}
    (h : Console.print around.width around.emojis markup = .ok out) :
    (say markup).run around j = ({ j with printed := j.printed ++ out }, .ok ()) := by
  rw [say, run_bind_of_ok around_run, h, run_bind_of_ok (orUncaught_run_ok _ _), write_run]

/-- Markup that is made of a text is printed as such. -/
theorem sayOf_run_of_print {shape : Text → Text} {p : Points} {t out : Text}
    (hp : p.text? = some t) (h : Console.print around.width around.emojis (shape t) = .ok out) :
    (sayOf shape p).run around j = ({ j with printed := j.printed ++ out }, .ok ()) := by
  rw [sayOf, hp]
  exact say_run_of_print h

/-- Markup that is made of surrogates, too, stops the command. -/
theorem sayOf_run_of_surrogate {shape : Text → Text} {p : Points} {out : Text}
    (hp : p.text? = none)
    (h : Console.print around.width around.emojis (shape p.veiled) = .ok out) :
    (sayOf shape p).run around j = (j, .error (.uncaught (.unencodable (p.faultIn out)))) := by
  rw [sayOf, hp]
  dsimp only
  rw [run_bind_of_ok around_run, h, run_bind_of_ok (orUncaught_run_ok _ _), stop_run]

theorem complain_run_of_print {out : Text}
    (h : Console.print around.width around.emojis markup = .ok out) :
    (complain markup).run around j =
      ({ j with complained := j.complained ++ out }, .ok ()) := by
  rw [complain, run_bind_of_ok around_run, h, run_bind_of_ok (orUncaught_run_ok _ _), record_run]

theorem complain_run_of_error {fault : Markup.Fault}
    (h : Console.print around.width around.emojis markup = .error fault) :
    (complain markup).run around j = (j, .error (.uncaught (.markup fault))) := by
  rw [complain, run_bind_of_ok around_run, h, run_bind_of_error (orUncaught_run_error _ _)]

/-- Markup that prints never stops a command. -/
theorem say_run (h : Prints around.emojis markup texts) :
    ∃ j', (say markup).run around j = (j', .ok ()) ∧ j'.tree = j.tree := by
  rw [say_run_of_print (Console.print_of_prints h)]
  exact ⟨_, rfl, rfl⟩

/-! ## Errors -/

/-- A message behind the word for an error prints, whatever it is. -/
theorem prints_error (emojis : Markup.EmojiTable) (message : Text) :
    ∃ texts, Prints emojis (errorHead ++ Markup.escape message) texts := by
  have hmessage := (prints_escape emojis message).append [' '] (by decide) (by decide)
  exact ⟨_, hmessage.styled (isStyle_of_mem "red" (by decide)) "ERROR:" (by decide) (by decide)⟩

theorem print_error (width : Nat) (emojis : Markup.EmojiTable) (message : Text) :
    ∃ out, Console.print width emojis (errorHead ++ Markup.escape message) = .ok out := by
  obtain ⟨texts, hprints⟩ := prints_error emojis message
  exact ⟨_, Console.print_of_prints hprints⟩

/-- A failure is printed and ends the command. -/
theorem fail_run (message : Text) (around : Surroundings) (j : Journal) :
    ∃ out, Console.print around.width around.emojis (errorHead ++ Markup.escape message) = .ok out ∧
      (fail message : Action α).run around j =
        ({ j with printed := j.printed ++ out }, .error (.exit 1)) := by
  obtain ⟨out, hout⟩ := print_error around.width around.emojis message
  refine ⟨out, hout, ?_⟩
  rw [fail, run_bind_of_ok (sayOf_run_of_print (Points.text?_points message) hout)]
  rfl

/-- A failure whose message holds a surrogate is not printed, and ends the command all the same. -/
theorem fail_run_of_surrogate {message : Points} (h : message.text? = none)
    (around : Surroundings) (j : Journal) :
    ∃ fault, (fail message : Action α).run around j =
      (j, .error (.uncaught (.unencodable fault))) := by
  obtain ⟨out, hout⟩ := print_error around.width around.emojis message.veiled
  exact ⟨_, run_bind_of_error (sayOf_run_of_surrogate h hout)⟩

end CommandLine.Action

/-! ## Command lines -/

namespace CommandLine

/-- A command line that starts with the name of a command. -/
theorem read_command {name : Text} {command : Command} (h : Command.ofName? name = some command)
    {around : Surroundings} {j : Journal} (args : List Text) :
    (Request.read (name :: args)).run around j = (j, .ok { command, args }) := by
  obtain ⟨before, after, hnames, -⟩ := List.lookup_eq_some_iff.1 h
  have hmem : (name, command) ∈ before ++ (name, command) :: after := by simp
  rw [← hnames] at hmem
  simp only [List.mem_cons, Prod.mk.injEq, List.not_mem_nil, or_false] at hmem
  -- None of the three names looks like an option.
  rcases hmem with ⟨rfl, rfl⟩ | ⟨rfl, rfl⟩ | ⟨rfl, rfl⟩
  all_goals
    rw [Request.read, Parsed.ofArgs]
    rfl

end CommandLine

end Pinpoint
