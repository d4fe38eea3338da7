import Pinpoint.CommandLine.Resolve

/-!
# Opening on the command line

A single argument is resolved and handed to an editor. The editor comes from the settings unless
an option gives one. A dry run prints the command that would be started, in words that the shell
would read back.

* `OpenArgs.read` — the command's options and argument.
* `openCommand` — the command.
-/

namespace Pinpoint.CommandLine

/-! ## Options -/

/-- The options of the command. -/
inductive OpenOption
  | editor
  | dryRun
  | help
  deriving DecidableEq, Repr

/-- How the options are written. -/
def openOptions : List (Opt OpenOption) := [
  { key := .editor, long := "editor", short := some 'e' },
  { key := .dryRun, long := "dry-run", short := some 'n', takesValue := false },
  { key := .help, long := "help", takesValue := false }]

/-- What the command is asked to do. -/
structure OpenArgs where
  target : Text
  editor : Option Text := none
  dryRun : Bool := false

/-- Reads the options and the argument of the command. -/
def OpenArgs.read (args : List Text) : Action OpenArgs := do
  let p ← Action.orMisuse (Parsed.ofArgs openOptions true args)
  if p.has .help then Action.showUsage "linecol open [OPTIONS] TARGET"
  match p.args with
  | [] => Action.stop (.misuse (.missingArgument "TARGET"))
  | [target] =>
    return { target, editor := p.nonempty? .editor, dryRun := p.has .dryRun }
  | _ :: extra :: _ => Action.stop (.misuse (.unexpectedArgument extra))

/-! ## The command -/

/-- The value; a fault in the editor's command is reported, any other ends the command. -/
def orEditorReported {α : Type} : Except Editor.Fault α → Action α
  | .ok a => pure a
  | .error fault =>
    if fault.isReported then .fail fault.message else .stop (.uncaught (.editor fault))

/-- The command template of the settings, which must be a text. -/
def editorSetting : Action Text := do
  let settings ← Action.orReported (fun fault => fault.isWrong || fault.isUnfit)
    (fun fault => .fail fault.message) (← Action.openSettings)
  match settings.editorCommand with
  | .text template => return template
  | value => Action.stop (.uncaught (.editorIsNoText value))

/-- The editor that an option or else the settings give. -/
def chooseEditor (template : Option Text) : Action Editor := do
  let template ← match template with
    | some template => pure template
    | none => editorSetting
  orEditorReported (Editor.ofTemplate template)

/-- Shows the command of an editor and starts it (`EditorRunner.execute`). What is logged shows
surrogates by number. -/
def startEditor (editor : Editor) (s : Specifier) : Action (Except Editor.Fault Int) := do
  match editor.command (← Action.around).memory s with
  | .error fault => return .error fault
  | .ok cmd =>
    let line : Points := Shell.join cmd
    Action.log .info ("Running editor: " ++ line.escaped)
    Action.sayOf Editor.announcement line
    return (← Action.startProgram cmd).result cmd

/-- Starts an editor on a specifier; the command ends with its exit code. -/
def launchEditor (editor : Editor) (s : Specifier) : Action Unit := do
  let code ← orEditorReported (← startEditor editor s)
  unless code = 0 do Action.exit code

/-- Prints a command line. One that has no encoding is reported. -/
def printCommandLine (line : Points) : Action Unit :=
  match line.text? with
  | some t => Action.write (Console.printPlain t)
  | none => Action.fail (line.faultIn (Console.printPlain line.veiled)).message

/-- Opens the argument in an editor, or prints how it would be opened (`command` of `open`). -/
def openCommand (a : OpenArgs) : Action Unit := do
  let context ← contextOf none
  let inquiry := resolve context a.target
  match ← Action.orUncaught .crash (inquiry.run (← Action.around).fileSystem) with
  | .error f =>
    Action.sayUnbroken (Action.errorHead ++ Markup.escape f.message)
    Action.exit 1
  | .ok s =>
    let editor ← chooseEditor a.editor
    if a.dryRun then
      let cmd ← orEditorReported (editor.command (← Action.around).memory s)
      printCommandLine (Shell.join cmd)
    else launchEditor editor s

end Pinpoint.CommandLine
