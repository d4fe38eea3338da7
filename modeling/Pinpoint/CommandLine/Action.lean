import Pinpoint.CommandLine.Options
import Pinpoint.Console
import Pinpoint.Editor
import Pinpoint.Logging
import Pinpoint.Settings

/-!
# Actions of a command

A command asks what is around it, prints, changes the tree that holds its settings, starts
programs, and may stop early. What it has done by then stays done.

What is printed is encoded, and every text can be: only surrogates have no encoding. Where something
to be printed may hold one, printing it may fail for that.

* `Action` — a computation of a command.
* `Action.bind_run` — one action after another.
* `Report` — what a run leaves behind.
-/

namespace Pinpoint.CommandLine

/-! ## Around a command -/

/-- What a command finds around it: the file system that arguments are resolved on, the working
directory, if there is one, the variables, the place that paths of settings start from, what comes
of starting a program, and what the memory is like. How wide the console is, in cells, and which
emojis it knows is also left open. -/
structure Surroundings where
  fileSystem : FileSystem
  workingDir : Option Path
  environment : Settings.Environment
  place : Place
  start : List Points → Editor.Start
  memory : Template.Memory
  width : Nat := 80
  emojis : Markup.EmojiTable := .common

/-- What a command has done so far. -/
structure Journal where
  tree : Tree
  logger : Logging.Logger := {}
  printed : Text := []
  complained : Text := []
  started : List (List Points) := []

/-! ## Stopping -/

/-- What ends a command that has no words for it. -/
inductive Uncaught
  | crash (c : Crash)
  | settings (fault : Settings.Fault)
  | markup (fault : Markup.Fault)
  | editor (fault : Editor.Fault)
  | editorIsNoText (value : Toml.Value)
  | unencodable (fault : Points.EncodingFault)
  | os (e : OsError)

/-- The wording of what ends a command. -/
def Uncaught.message : Uncaught → Text
  | crash c => c.message
  | settings fault => fault.message
  | markup fault => fault.message
  | editor fault => fault.message.escaped
  | editorIsNoText value => "'" ++ value.kindName ++ "' object has no attribute 'strip'"
  | unencodable fault =>
    fault.message ++
      "\n*** You may need to add PYTHONIOENCODING=utf-8 to your environment ***"
  | os e => e.message

/-- Why a command stops before its end. -/
inductive Stop
  | exit (code : Int)
  | misuse (fault : Misuse)
  | uncaught (fault : Uncaught)

/-- The exit code of a command that stops. -/
def Stop.code : Stop → Int
  | exit code => code
  | misuse _ => 2
  | uncaught _ => 1

/-! ## Actions -/

/-- A computation of a command. -/
structure Action (α : Type) where
  run : Surroundings → Journal → Journal × Except Stop α

namespace Action

variable {α β : Type}

/-- Goes on with the result of an action, unless it stops. -/
def bind (x : Action α) (f : α → Action β) : Action β where
  run around journal :=
    match x.run around journal with
    | (journal, .ok a) => (f a).run around journal
    | (journal, .error stop) => (journal, .error stop)

instance : Monad Action where
  pure a := ⟨fun _ journal => (journal, .ok a)⟩
  bind := bind

/-- Stops. -/
def stop (s : Stop) : Action α := ⟨fun _ journal => (journal, .error s)⟩

/-- What is around the command. -/
def around : Action Surroundings := ⟨fun around journal => (journal, .ok around)⟩

/-- The tree that holds the settings. -/
def tree : Action Tree := ⟨fun _ journal => (journal, .ok journal.tree)⟩

/-- Changes what has been done. -/
def record (f : Journal → Journal) : Action Unit := ⟨fun _ journal => (f journal, .ok ())⟩

@[simp] theorem pure_run (a : α) (around : Surroundings) (journal : Journal) :
    (pure a : Action α).run around journal = (journal, .ok a) := rfl

@[simp] theorem stop_run (s : Stop) (around : Surroundings) (journal : Journal) :
    (stop s : Action α).run around journal = (journal, .error s) := rfl

@[simp] theorem record_run (f : Journal → Journal) (around : Surroundings) (journal : Journal) :
    (record f).run around journal = (f journal, .ok ()) := rfl

theorem bind_run (x : Action α) (f : α → Action β) (around : Surroundings) (journal : Journal) :
    (x >>= f).run around journal =
      match x.run around journal with
      | (journal, .ok a) => (f a).run around journal
      | (journal, .error stop) => (journal, .error stop) := rfl

/-! ## Steps of a command -/

/-- Ends the command with an exit code. -/
def exit (code : Int) : Action α := stop (.exit code)

/-- The value, or the end for want of words. -/
def orUncaught {ε : Type} (cause : ε → Uncaught) : Except ε α → Action α
  | .ok a => pure a
  | .error e => stop (.uncaught (cause e))

/-- The value, or the end for misuse. -/
def orMisuse : Except Misuse α → Action α
  | .ok a => pure a
  | .error fault => stop (.misuse fault)

/-- Prints a text as it is. -/
def write (t : Text) : Action Unit := record fun j => { j with printed := j.printed ++ t }

/-- Prints markup as prose. -/
def say (markup : Text) : Action Unit := do
  let around ← around
  write (← orUncaught .markup (Console.print around.width around.emojis markup))

/-- Prints markup that is made of a text as prose. Surrogates in the text stop the command: what a
console has failed to print it keeps and tries to print again, so that no report gets through. -/
def sayOf (markup : Text → Text) (p : Points) : Action Unit :=
  match p.text? with
  | some t => say (markup t)
  | none => do
    let around ← around
    let shown ← orUncaught .markup
      (Console.print around.width around.emojis (markup p.veiled))
    stop (.uncaught (.unencodable (p.faultIn shown)))

/-- Prints markup as a result. -/
def sayUnbroken (markup : Text) : Action Unit := do
  write (← orUncaught .markup (Console.printUnbroken (← around).emojis markup))

/-- Prints markup where complaints go. -/
def complain (markup : Text) : Action Unit := do
  let around ← around
  let t ← orUncaught .markup (Console.print around.width around.emojis markup)
  record fun j => { j with complained := j.complained ++ t }

/-- Markup in front of a message that tells why a command fails. -/
def errorHead : Text := "[red]ERROR:[/red] "

/-- Sends a message to the logger of the program, which prints it where complaints go. -/
def log (level : Logging.Level) (message : Text) : Action Unit := do
  let around ← around
  record fun j =>
    if j.logger.shows Logging.loggerName level.number then
      { j with
        complained := j.complained ++ Console.printMessage around.width level.name message }
    else j

/-- Prints an error and ends the command. -/
def fail (message : Points) : Action α := do
  sayOf (errorHead ++ Markup.escape ·) message
  exit 1

/-- Starts a program. That it has been started is on record, whatever comes of it. -/
def startProgram (cmd : List Points) : Action Editor.Start where
  run around journal :=
    ({ journal with started := journal.started ++ [cmd] }, .ok (around.start cmd))

/-- Shows how a command is used, and ends it. A help text would say more below that line, and is
left out. -/
def showUsage (synopsis : Text) : Action α := do
  write ("Usage: " ++ synopsis ++ "\n")
  exit 0

/-- The settings in force, or why they cannot be had. -/
def openSettings : Action (Except Settings.Fault Settings) := do
  let around ← around
  return Settings.open (← tree) around.place around.environment.dir

/-- The value; a fault of a kind that the command reports goes to `report`, any other ends it. -/
def orReported (isReported : Settings.Fault → Bool) (report : Settings.Fault → Action α) :
    Except Settings.Fault α → Action α
  | .ok a => pure a
  | .error fault =>
    if isReported fault then report fault else stop (.uncaught (.settings fault))

end Action

/-! ## Reports -/

/-- What a run leaves behind. -/
structure Report where
  journal : Journal
  stop : Option Stop

/-- The exit code of a run. -/
def Report.code (r : Report) : Int := (r.stop.map Stop.code).getD 0

/-- Runs an action. -/
def Action.report (x : Action Unit) (around : Surroundings) (tree : Tree) : Report :=
  match x.run around { tree } with
  | (journal, .ok ()) => ⟨journal, none⟩
  | (journal, .error stop) => ⟨journal, some stop⟩

end Pinpoint.CommandLine
