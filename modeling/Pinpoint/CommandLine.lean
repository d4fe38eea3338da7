import Pinpoint.CommandLine.Init
import Pinpoint.CommandLine.Open
import Pinpoint.Logging

/-!
# The command line

Options in front of a command choose the log level, the name of a command follows, and whatever
comes after it belongs to the command. The log level is settled before the command looks at its
own options.

* `CommandLine.run` — what a run with some arguments leaves behind.
-/

namespace Pinpoint.CommandLine

/-! ## Options in front of a command -/

/-- The options in front of a command. -/
inductive CommonOption
  | verbose
  | logLevel
  | help
  deriving DecidableEq, Repr

/-- How the options are written. -/
def commonOptions : List (Opt CommonOption) := [
  { key := .verbose, long := "verbose", short := some 'v', takesValue := false },
  { key := .logLevel, long := "log-level" },
  { key := .help, long := "help", takesValue := false }]

/-- The commands. -/
inductive Command
  | init
  | resolve
  | open
  deriving DecidableEq, Repr

/-- The command of a name. -/
def Command.ofName? (name : Text) : Option Command :=
  [("init".toList, init), ("resolve".toList, resolve), ("open".toList, .open)].lookup name

/-- What a command line asks for. -/
structure Request where
  verbose : Bool := false
  logLevel : Option Text := none
  command : Command
  args : List Text

/-- Reads a command line up to the name of the command. -/
def Request.read (args : List Text) : Action Request := do
  let p ← Action.orMisuse (Parsed.ofArgs commonOptions false args)
  if p.has .help then Action.showUsage "linecol [OPTIONS] COMMAND [ARGS]..."
  match p.args with
  | [] => Action.stop (.misuse .missingCommand)
  | name :: args =>
    match Command.ofName? name with
    | none => Action.stop (.misuse (.noSuchCommand name))
    | some command =>
      return {
        verbose := p.has .verbose
        logLevel := p.nonempty? .logLevel
        command
        args }

/-! ## Log level -/

/-- Complains of a message as it is, and ends the run. -/
def complainAndExit {α : Type} (message : Text) : Action α := do
  Action.complain (Action.errorHead ++ message)
  Action.exit 1

/-- The name of the log level: what options say, or else the settings. Writing settings does not
depend on those that are there. -/
def chooseLevel (r : Request) : Action Text := do
  if r.verbose then return "DEBUG"
  match r.logLevel, r.command with
  | some level, _ => return level
  | none, .init => return "WARNING"
  | none, _ =>
    let level := (← Action.openSettings).bind Settings.logLevel
    Action.orReported (fun fault => fault.isWrong || fault.isUnfit)
      (fun fault => complainAndExit fault.message) level

/-- Sets the logger of the program up (`configure`). -/
def configure (r : Request) : Action Unit := do
  match Logging.Logger.setUp (← chooseLevel r) with
  | .ok logger => Action.record fun j => { j with logger }
  | .error fault => complainAndExit fault.message

/-! ## Running -/

/-- Carries a command out. -/
def runCommand : Command → List Text → Action Unit
  | .init, args => do initCommand (← InitArgs.read args)
  | .resolve, args => do resolveCommand (← ResolveArgs.read args)
  | .open, args => do openCommand (← OpenArgs.read args)

/-- Carries a command line out. -/
def action (args : List Text) : Action Unit := do
  let r ← Request.read args
  configure r
  runCommand r.command r.args

/-- What a run with some arguments leaves behind (`main`). -/
def run (around : Surroundings) (tree : Tree) (args : List Text) : Report :=
  (action args).report around tree

end Pinpoint.CommandLine
