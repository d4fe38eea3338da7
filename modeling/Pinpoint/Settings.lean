import Pinpoint.FileSystem.Tree.Entries
import Pinpoint.Json
import Pinpoint.Text.Case
import Pinpoint.Toml.Document

/-!
# Settings

Settings live in a file `config.toml` in a directory of their own, and every setting that the file
does not give has a default. A value is checked when it is asked for, so that a wrong one only
matters to whoever needs it.

* `Settings.open` — the settings of a directory.
* `Settings.defaultText` — the file that is written at first.
* `Settings.create` — writes it.
-/

namespace Pinpoint

/-- The settings read from a directory (`Config`). -/
structure Settings where
  dir : Path
  table : Toml.Table

namespace Settings

/-! ## Where settings are -/

/-- The variables that tell where settings are. -/
structure Environment where
  home : Text
  configHome : Option Text := none
  deriving DecidableEq, Repr

/-- The directory of a user's configuration files below the home directory. -/
def homeConfig (home : Text) : Text := (home.reverse.dropWhile (· = '/')).reverse ++ "/.config"

/-- The directory of the settings: below the configuration directory that the environment names,
even if the name is empty, or else below the home directory. -/
def Environment.dir (env : Environment) : Path :=
  (Path.parse (env.configHome.getD (homeConfig env.home))).join (Path.parse "linecol")

/-- The file of a settings directory. -/
def fileIn (dir : Path) : Path := dir.child "config.toml"

/-- The file of the settings. -/
def file (s : Settings) : Path := fileIn s.dir

/-! ## Reading the file -/

/-- Why settings cannot be had. -/
inductive Fault
  | unreadable (e : OsError)
  | malformed (reason : Toml.Reason) (place : Text)
  | invalidFormat (value : Text) (file : Path)
  | invalidJobs (value : Text) (file : Path)
  | notUtf8 (fault : Utf8.Fault)
  | overlong (digits : Nat)
  | unwritable
  | os (e : OsError)
  deriving DecidableEq, Repr

/-- The formats of results. -/
def formats : List Text := ["text".toList, "json".toList, "yaml".toList]

/-- The formats of results, in words. -/
def formatList : Text := Text.join ", ".toList formats

/-- What is wrong with bytes that are not UTF-8. -/
def utf8Message (f : Utf8.Fault) : Text :=
  "'utf-8' codec can't decode " ++
    (if f.length = 1 then
      "byte 0x" ++ Text.hex 2 f.byte.toNat ++ " in position " ++ Text.ofNat f.position
    else
      "bytes in position " ++ Text.ofNat f.position ++ "-" ++
        Text.ofNat (f.position + f.length - 1)) ++
    ": " ++ f.reason.message

/-- The wording of a fault. -/
def Fault.message : Fault → Text
  | unreadable e => "Failed to load config: " ++ e.message
  | malformed reason place =>
    "Failed to load config: " ++ reason.message ++ " (at " ++ place ++ ")"
  | invalidFormat value file =>
    "Invalid output.format '" ++ value ++ "' in " ++ file.render ++ ", expected one of: " ++
      formatList
  | invalidJobs value file =>
    "Invalid resolver.jobs " ++ value ++ " in " ++ file.render ++ ", expected a positive integer"
  | notUtf8 fault => utf8Message fault
  | overlong digits => Decimal.limitMessage digits
  | unwritable =>
    "Exceeds the limit (" ++ Text.ofNat Decimal.digitLimit ++ " digits) for integer string " ++
      "conversion; use sys.set_int_max_str_digits() to increase the limit"
  | os e => e.message

/-- The file cannot be read, or says something wrong. -/
def Fault.isWrong : Fault → Bool
  | unreadable _ | malformed _ _ | invalidFormat _ _ | invalidJobs _ _ => true
  | notUtf8 _ | overlong _ | unwritable | os _ => false

/-- The file cannot be taken for a document at all: its bytes are no text, or a number in it has
too many digits to be read or written. -/
def Fault.isUnfit : Fault → Bool
  | notUtf8 _ | overlong _ | unwritable => true
  | unreadable _ | malformed _ _ | invalidFormat _ _ | invalidJobs _ _ | os _ => false

/-- Whether a file is there. Only absence makes it missing; any other failure is reported. -/
def fileExists (t : Tree) (cwd : Place) (file : Path) : Except OsError Bool :=
  if file.parts.any (Text.nul ∈ ·) then .ok false
  else
    match t.stat cwd file with
    | .ok _ => .ok true
    | .error e => if e.isMissing || e.errno? = some .loop then .ok false else .error e

/-- The table that the bytes of a file describe. -/
def tableOfBytes (bytes : List UInt8) : Except Fault Toml.Table :=
  match Utf8.decode bytes with
  | .error fault => .error (.notUtf8 fault)
  | .ok source =>
    match Toml.Document.parse source with
    | .error (.at reason place) => .error (.malformed reason place)
    | .error (.overlong digits) => .error (.overlong digits)
    | .ok table => .ok table

/-- The table of a file, empty if there is no file (`Config._load`). -/
def load (t : Tree) (cwd : Place) (file : Path) : Except Fault Toml.Table :=
  match fileExists t cwd file with
  | .error e => .error (.os e)
  | .ok false => .ok []
  | .ok true =>
    match t.contentOf cwd file with
    | .error e => .error (.unreadable e)
    | .ok bytes => tableOfBytes bytes

/-- The settings of a directory. -/
def «open» (t : Tree) (cwd : Place) (dir : Path) : Except Fault Settings := do
  return ⟨dir, ← load t cwd (fileIn dir)⟩

/-- The settings of a directory whose file is not read: every one has its default. -/
def unread (dir : Path) : Settings := ⟨dir, []⟩

/-- The file of the settings is there (`Config.exists`). -/
def isPresent (s : Settings) (t : Tree) (cwd : Place) : Except OsError Bool :=
  fileExists t cwd s.file

/-! ## Single settings -/

/-- The value below a table that names lead to. -/
def getIn : (names : List Text) → Toml.Table → Option Toml.Value
  | [], table => some (.table table)
  | name :: names, table =>
    match table.lookup name, names with
    | some v, [] => some v
    | some (.table inner), names => getIn names inner
    | _, _ => none

/-- The value of a key, whose names are separated by points (`Config.get`). -/
def get? (s : Settings) (key : Text) : Option Toml.Value := getIn (Text.cut '.' key) s.table

/-- The editor command where none is given. -/
def defaultEditor : Text := "code --goto \x7btarget\x7d"

/-- Refuses a value that cannot be written. -/
def ensureWritable (v : Toml.Value) : Except Fault Unit :=
  if v.isWritable then .ok () else .error .unwritable

/-- The format of results (`Config.output_format`). -/
def outputFormat (s : Settings) : Except Fault Text :=
  match s.get? "output.format" with
  | none => .ok "text"
  | some (.text t) => if t ∈ formats then .ok t else .error (.invalidFormat t s.file)
  | some v => do
    ensureWritable v
    throw (.invalidFormat v.display s.file)

/-- The number of workers for several arguments (`Config.jobs`). -/
def jobs (s : Settings) : Except Fault Int :=
  match s.get? "resolver.jobs" with
  | none => .ok 4
  | some v => do
    if let .integer n := v then
      if 1 ≤ n then return n
    ensureWritable v
    throw (.invalidJobs v.literal s.file)

/-- The editor command, which may be any value (`Config.editor_command`). -/
def editorCommand (s : Settings) : Toml.Value :=
  (s.get? "editor.command").getD (.text defaultEditor)

/-- The log level, in upper case (`Config.log_level`). -/
def logLevel (s : Settings) : Except Fault Text := do
  let level := (s.get? "logging.level").getD (.text "WARNING")
  ensureWritable level
  return Text.upper level.display

/-- A setting as it is shown: its key, its value, and whether the file gives it. -/
structure Shown where
  key : Text
  value : Text
  fromFile : Bool
  deriving DecidableEq, Repr

/-- All settings as they are shown (`Config.settings`). -/
def shown (s : Settings) : Except Fault (List Shown) := do
  let format ← s.outputFormat
  let jobs ← s.jobs
  let level ← s.logLevel
  ensureWritable (.integer jobs)
  ensureWritable s.editorCommand
  let rows : List (Text × Text) := [("output.format", format), ("resolver.jobs", Text.ofInt jobs),
    ("editor.command", s.editorCommand.display), ("logging.level", level)]
  return rows.map fun (key, value) => ⟨key, value, (s.get? key).isSome⟩

/-! ## Writing the file -/

/-- What stands for the editor command in the template. -/
def placeholder : Text := "@EDITOR_COMMAND@"

/-- The template of the file that is written at first. -/
def template : Text :=
  "# Linecol Configuration\n" ++
  "# Location: ~/.config/linecol/config.toml\n" ++
  "# Follows XDG Base Directory Specification\n" ++
  "\n" ++
  "[output]\n" ++
  "# Output format for `linecol resolve`: text, json or yaml\n" ++
  "format = \"text\"\n" ++
  "\n" ++
  "[resolver]\n" ++
  "# Worker threads used when several arguments are resolved at once\n" ++
  "jobs = 4\n" ++
  "\n" ++
  "[editor]\n" ++
  "# Command used by `linecol open`\n" ++
  "# Placeholders: \x7bpath\x7d, \x7bline\x7d, \x7bcolumn\x7d, \x7btarget\x7d " ++
    "(path:line:column)\n" ++
  "command = @EDITOR_COMMAND@\n" ++
  "\n" ++
  "[logging]\n" ++
  "# DEBUG, INFO, WARNING or ERROR\n" ++
  "level = \"WARNING\"\n"

/-- The file that is written at first (`Config.get_default_config`). The escapes of a JSON text are
escapes of a quoted text of the file, too, within the basic plane. -/
def defaultText (editor : Text) : Text := template.replace placeholder (Json.quote editor)

/-- Why the file cannot be written. -/
inductive CreateFault
  | present (file : Path)
  | nulCharacter
  | os (e : OsError)
  deriving DecidableEq, Repr

/-- The wording of a fault. -/
def CreateFault.message : CreateFault → Text
  | present file =>
    "Configuration already exists: " ++ file.render ++
      "\nRemove it first or use --force to overwrite"
  | nulCharacter => Crash.message .nulCharacter
  | os e => e.message

/-- Writes the file that is written at first, unless one is there (`Config.create_default`). An
empty editor command counts as none. Directories that have been made stay where the rest fails. -/
def create (s : Settings) (t : Tree) (cwd : Place) (editor : Option Text) :
    Tree × Except CreateFault Unit :=
  let editor := if editor.getD [] = [] then defaultEditor else editor.getD []
  match s.isPresent t cwd with
  | .error e => (t, .error (.os e))
  | .ok true => (t, .error (.present s.file))
  | .ok false =>
    if s.dir.parts.any (Text.nul ∈ ·) then (t, .error .nulCharacter)
    else
      match t.ensureDirectories cwd s.dir with
      | (t, .error e) => (t, .error (.os e))
      | (t, .ok _) =>
        match t.write cwd s.file (Utf8.encode (defaultText editor)) with
        | .ok t => (t, .ok ())
        | .error e => (t, .error (.os e))

end Settings

end Pinpoint
