import Pinpoint.CommandLine.Questions
import Pinpoint.FileSystem.Answers

/-!
# The program

The questions of a run are put to the operating system first, and the file of the settings is read;
the run itself is a function of the answers. What it leaves behind is then printed and written.
Starting programs is not in its power, so that every editor counts as not found.
-/

namespace Pinpoint.Main

/-! ## Asking the operating system -/

/-- The number and the reason of a failure. -/
def codeOf : IO.Error → Option (Nat × String)
  | .noFileOrDirectory _ code reason => some (code.toNat, reason)
  | .permissionDenied _ code reason => some (code.toNat, reason)
  | .inappropriateType _ code reason => some (code.toNat, reason)
  | .invalidArgument _ code reason => some (code.toNat, reason)
  | .hardwareFault code reason => some (code.toNat, reason)
  | .otherError code reason => some (code.toNat, reason)
  | _ => none

/-- A failure on a path. -/
def failureOn (path : Text) (e : IO.Error) : OsError :=
  match codeOf e with
  | some (code, reason) => .system ⟨code⟩ reason (some path)
  | none => .unnumbered (toString e).toList

/-- Asks for the canonical form of a path. -/
def canonicalize (path : Text) : IO (Except Refusal Path) := do
  if Text.nul ∈ path then return .error .nulCharacter
  try
    let real ← IO.FS.realPath (String.ofList (Path.parse path).render)
    return .ok (.parse real.toString.toList)
  catch e => return .error (.os (failureOn path e))

/-- Asks for the kind of a path. -/
def kind (path : Path) : IO EntryKind := do
  try
    let real ← IO.FS.realPath (String.ofList path.render)
    return match (← real.metadata).type with
      | .file => .file
      | .dir => .directory
      | _ => .other
  catch _ => return .missing

/-- Asks the questions of a computation. -/
def ask : Inquiry Unit → Answers → IO Answers
  | .answer _, a => return a
  | .crash _, a => return a
  | .canonicalize path next, a => do
    let r ← canonicalize path
    ask (next r) (a.addCanonical path r)
  | .kind path next, a => do
    let k ← kind path
    ask (next k) (a.addKind path k)

/-! ## The file of the settings -/

/-- The tree with the file of the settings as it is. -/
def readTree (place : Place) (file : Path) : IO Tree := do
  let empty := if place = [] then ({} : Tree) else ({} : Tree).put place .directory
  match ← kind file with
  | .missing => return empty
  | .directory => return (empty.ensureDirectories place file).1
  | _ => do
    let bytes ← IO.FS.readBinFile (String.ofList file.render)
    return (empty.writeWithParents place file bytes.toList).1

/-- Writes the file of the settings, or removes it, if the run has changed it. -/
def writeTree (place : Place) (file : Path) (before after : Tree) : IO Unit := do
  let content (t : Tree) := (t.contentOf place file).toOption
  if content before = content after then return
  match content after with
  | some bytes =>
    IO.FS.createDirAll (String.ofList (Tree.parent file).render)
    IO.FS.writeBinFile (String.ofList file.render) ⟨bytes.toArray⟩
  | none => IO.FS.removeFile (String.ofList file.render)

/-! ## Running -/

/-- What a run has to say where complaints go. -/
def complaints (r : CommandLine.Report) : Text :=
  r.journal.complained ++
    match r.stop with
    | some (.misuse fault) => "Error: " ++ fault.message ++ "\n"
    | some (.uncaught fault) => fault.message ++ "\n"
    | _ => []

/-- The memory of a machine that does not try texts beyond a quarter of a gigabyte, nor shows where
anything is kept. -/
def memory : Template.Memory where
  holds n := n ≤ 0x10000000
  place _ := "0x0"

/-- What is around a run, before the file system has been asked anything. -/
def surroundings : IO CommandLine.Surroundings := do
  let dir ← try pure (some (← IO.currentDir).toString.toList) catch _ => pure none
  let workingDir := dir.map Path.parse
  return {
    fileSystem := Answers.toFileSystem {}
    workingDir
    environment := {
      home := ((← IO.getEnv "HOME").getD "").toList
      configHome := (← IO.getEnv "XDG_CONFIG_HOME").map String.toList }
    place := (workingDir.map Place.ofPath).getD []
    start := fun _ => .notFound
    memory
    width := ((← IO.getEnv "COLUMNS").bind String.toNat?).getD 80 }

/-- Runs the program with some arguments. -/
def run (args : List Text) : IO UInt32 := do
  let around ← surroundings
  let answers ← ask (CommandLine.questions around args) {}
  let file := Settings.fileIn around.environment.dir
  let before ← readTree around.place file
  let report := CommandLine.run { around with fileSystem := answers.toFileSystem } before args
  writeTree around.place file before report.journal.tree
  IO.print (String.ofList report.journal.printed)
  IO.eprint (String.ofList (complaints report))
  return (report.code % 256).toNat.toUInt32

end Pinpoint.Main

/-- The entry point. -/
def main (args : List String) : IO UInt32 := Pinpoint.Main.run (args.map String.toList)
