import Pinpoint.CommandLine.Action

/-!
# Settings on the command line

The file of the settings is written with the defaults, or the settings in force are shown in a
table. A file that is there is only replaced if that is asked for; whether it can be read does not
matter then.

* `InitArgs.read` — the command's options.
* `initCommand` — the command.
-/

namespace Pinpoint.CommandLine

/-! ## Options -/

/-- The options of the command. -/
inductive InitOption
  | force
  | showOnly
  | editor
  | help
  deriving DecidableEq, Repr

/-- How the options are written. -/
def initOptions : List (Opt InitOption) := [
  { key := .force, long := "force", short := some 'f', takesValue := false },
  { key := .showOnly, long := "show", takesValue := false },
  { key := .editor, long := "editor", short := some 'e' },
  { key := .help, long := "help", takesValue := false }]

/-- What the command is asked to do. -/
structure InitArgs where
  force : Bool := false
  showOnly : Bool := false
  editor : Option Text := none

/-- Reads the options of the command, which has no arguments. -/
def InitArgs.read (args : List Text) : Action InitArgs := do
  let p ← Action.orMisuse (Parsed.ofArgs initOptions true args)
  if p.has .help then Action.showUsage "linecol init [OPTIONS]"
  match p.args with
  | [] =>
    return {
      force := p.has .force
      showOnly := p.has .showOnly
      editor := p.value? .editor }
  | extra :: _ => Action.stop (.misuse (.unexpectedArgument extra))

/-! ## Showing settings -/

/-- The table of settings, as markup (`_settings_table`). -/
def settingsTable (file : Path) (rows : List Settings.Shown) : Console.Table where
  title := "Settings (" ++ file.render ++ ")"
  header := ["Key".toList, "Value".toList, "Source".toList]
  rows := rows.map fun row =>
    [row.key, Markup.escape row.value, if row.fromFile then "config" else "default"]

/-- Prints the table of settings. -/
def printSettings (file : Path) (rows : List Settings.Shown) : Action Unit := do
  let around ← Action.around
  let table := settingsTable file rows
  Action.write
    (← Action.orUncaught .markup (Console.printTable around.width around.emojis table))

/-- Reports settings that cannot be shown, and how to get rid of them. -/
def reportSettings {α : Type} (fault : Settings.Fault) : Action α := do
  Action.say (Action.errorHead ++ Markup.escape fault.message)
  Action.say "[yellow]Hint:[/yellow] run 'linecol init --force' to rewrite it"
  Action.exit 1

/-- Shows the settings in force. -/
def showSettings : Action Unit := do
  let reported {α : Type} : Except Settings.Fault α → Action α :=
    Action.orReported Settings.Fault.isWrong reportSettings
  let settings ← reported (← Action.openSettings)
  printSettings settings.file (← reported settings.shown)

/-! ## Writing settings -/

/-- Reports that the file cannot be written. -/
def failToCreate {α : Type} (message : Text) : Action α := do
  Action.say (Action.errorHead ++ "Failed to create configuration: " ++ Markup.escape message)
  Action.exit 1

/-- Puts a changed tree in place. -/
def setTree (t : Tree) : Action Unit := .record fun j => { j with tree := t }

/-- Removes the file of the settings. -/
def removeFile (place : Place) (file : Path) : Action Unit := do
  match (← Action.tree).unlink place file with
  | .error e => failToCreate e.message
  | .ok t =>
    setTree t
    Action.say ("[yellow]Removed existing config:[/yellow] " ++ file.render)

/-- Writes the file of the settings. -/
def createFile (settings : Settings) (place : Place) (editor : Option Text) : Action Unit := do
  let (t, result) := settings.create (← Action.tree) place editor
  setTree t
  match result with
  | .error fault => failToCreate fault.message
  | .ok () =>
    Action.say
      ("[green]✓[/green] Configuration created: [bold]" ++ settings.file.render ++ "[/bold]")

/-- Writes the file of the settings with the defaults, and shows what it says. -/
def writeSettings (force : Bool) (editor : Option Text) : Action Unit := do
  let around ← Action.around
  let settings := Settings.unread around.environment.dir
  let file := settings.file
  let isPresent ← Action.orUncaught .os (settings.isPresent (← Action.tree) around.place)
  if isPresent && !force then
    Action.say ("[yellow]Configuration already exists:[/yellow] " ++ file.render ++
      "\nUse [bold]--force[/bold] to overwrite or [bold]--show[/bold] to view settings")
    Action.exit 1
  if isPresent then removeFile around.place file
  createFile settings around.place editor
  let settings ← Action.orUncaught .settings (← Action.openSettings)
  printSettings file (← Action.orUncaught .settings settings.shown)

/-- Writes or shows the settings (`command` of `init`). -/
def initCommand (a : InitArgs) : Action Unit :=
  if a.showOnly then showSettings else writeSettings a.force a.editor

end Pinpoint.CommandLine
