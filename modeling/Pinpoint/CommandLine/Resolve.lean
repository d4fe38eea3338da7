import Pinpoint.CommandLine.Action
import Pinpoint.Yaml

/-!
# Resolving on the command line

Each argument is resolved and printed as a line of text, or all of them as a list of records in
JSON or YAML. The format and the number of workers come from the settings unless options give
them. The exit code tells whether every argument was resolved.

* `ResolveArgs.read` — the command's options and arguments.
* `resolveCommand` — the command.
-/

namespace Pinpoint.CommandLine

/-! ## Options -/

/-- The options of the command. -/
inductive ResolveOption
  | format
  | jobs
  | cwd
  | help
  deriving DecidableEq, Repr

/-- How the options are written. -/
def resolveOptions : List (Opt ResolveOption) := [
  { key := .format, long := "format", short := some 'f' },
  { key := .jobs, long := "jobs", short := some 'j' },
  { key := .cwd, long := "cwd", short := some 'C' },
  { key := .help, long := "help", takesValue := false }]

/-- What the command is asked to do. -/
structure ResolveArgs where
  args : List Text
  format : Option Text := none
  jobs : Option Int := none
  cwd : Option Path := none

/-- A number of workers: a positive whole number. -/
def readJobs (value : Text) : Except Misuse Int :=
  match Text.toInt? value with
  | none => .error (.notANumber "--jobs" value)
  | some n => if n < 1 then .error (.tooSmall "--jobs" n) else .ok n

/-- Checks the value of an option. -/
def checkResolveOption (p : Parsed ResolveOption) : ResolveOption → Action Unit
  | .jobs => do discard (Action.orMisuse (readJobs ((p.value? .jobs).getD [])))
  | .cwd =>
    if Text.nul ∈ (p.value? .cwd).getD [] then .stop (.misuse (.nulInPath "--cwd")) else pure ()
  | .format | .help => pure ()

/-- Reads the options and arguments of the command. Values are checked in the order in which their
options come first. -/
def ResolveArgs.read (args : List Text) : Action ResolveArgs := do
  let p ← Action.orMisuse (Parsed.ofArgs resolveOptions true args)
  if p.has .help then Action.showUsage "linecol resolve [OPTIONS] ARGUMENTS..."
  p.keys.forM (checkResolveOption p)
  if p.args = [] then Action.stop (.misuse (.missingArgument "ARGUMENTS..."))
  return {
    args := p.args
    format := p.nonempty? .format
    jobs := (p.value? .jobs).bind Text.toInt?
    cwd := (p.value? .cwd).map Path.parse }

/-! ## Printing -/

/-- The line of text of an outcome, as markup (`_print_text`). -/
def outcomeMarkup (o : Outcome) : Text :=
  match o.result with
  | .ok s =>
    "[green]" ++ Text.padRight 9 ' ' s.kind.name ++ "[/green] " ++ Markup.escape s.target
  | .error f => Action.errorHead ++ Markup.escape f.message

/-- Prints outcomes in a format. -/
def printOutcomes (format : Text) (outcomes : List Outcome) : Action Unit :=
  let records := outcomes.map (·.record)
  if format = "json".toList then .write (Console.printPlain (recordsToJson records).render)
  else if format = "yaml".toList then .write (Yaml.render records)
  else outcomes.forM fun o => .sayUnbroken (outcomeMarkup o)

/-! ## The command -/

/-- What the operating system says where there is no working directory. -/
def noWorkingDir : OsError := .system .noEntry "No such file or directory" none

/-- The directory that relative arguments are joined to: the one given, made absolute, or else the
working directory. -/
def contextOf (cwd : Option Path) : Action Context := do
  match cwd, (← Action.around).workingDir with
  | none, some dir => return ⟨dir⟩
  | none, none =>
    Action.log .warning
      ("Cannot determine working directory, using empty base: " ++ noWorkingDir.message)
    return ⟨Path.here⟩
  | some cwd, dir =>
    if cwd.isAbsolute then return ⟨cwd⟩
    match dir with
    | some dir => return ⟨dir.join cwd⟩
    | none => Action.stop (.uncaught (.os noWorkingDir))

/-- The value; wrong settings are reported. -/
def orWrongReported {α : Type} (setting : Except Settings.Fault α) : Action α :=
  .orReported Settings.Fault.isWrong (fun fault => .fail fault.message) setting

/-- The value that an option or else the settings give. -/
def given {α : Type} (opt : Option α) (setting : Except Settings.Fault α) : Action α :=
  match opt with
  | some a => pure a
  | none => orWrongReported setting

/-- Resolves the arguments and prints what has become of them (`command` of `resolve`). -/
def resolveCommand (a : ResolveArgs) : Action Unit := do
  let settings ← orWrongReported (← Action.openSettings)
  let format ← given a.format settings.outputFormat
  let jobs ← given a.jobs settings.jobs
  if !Settings.formats.contains format then
    Action.say (Action.errorHead ++ "Unknown format '" ++ Markup.escape format ++
      "', expected one of: " ++ Settings.formatList)
    Action.exit 1
  let context ← contextOf a.cwd
  let inquiry := resolveAll context a.args (some jobs)
  let outcomes ← Action.orUncaught .crash (inquiry.run (← Action.around).fileSystem)
  printOutcomes format outcomes
  unless outcomes.all (·.isOk) do Action.exit 1

end Pinpoint.CommandLine
