import Pinpoint.Decimal
import Pinpoint.FileSystem.Errno
import Pinpoint.Path
import Pinpoint.Text.Quoted

/-!
# File systems

Resolving asks a file system two questions: what is the canonical form of a path, and what kind of
entry is there. `Inquiry` is a computation that asks them, kept apart from any file system that
answers: it can be run against tables (`FileSystem.Table`), against a tree with links
(`FileSystem.Tree`), or step by step.

* `Inquiry.run` — the result of a computation on an unchanging file system.
* `Inquiry.calls` — the paths it asks the canonical form of, in order.
* `probe` — both questions about one candidate, put together into one finding.
-/

namespace Pinpoint

/-! ## Answers of a file system -/

/-- What a path names (`EntryKind`). -/
inductive EntryKind
  | file
  | directory
  | other
  | missing
  deriving DecidableEq, Repr

/-- A failure reported by the operating system, or by a stand-in for it that gives no number. -/
inductive OsError
  | system (code : Errno) (reason : Text) (path : Option Text)
  | unnumbered (text : Text)
  deriving DecidableEq, Repr

namespace OsError

/-- The number of a failure. -/
def errno? : OsError → Option Errno
  | system code _ _ => some code
  | unnumbered _ => none

/-- The full wording of a failure. -/
def message : OsError → Text
  | system code reason path =>
    "[Errno " ++ Text.ofNat code.number ++ "] " ++ reason ++
      (match path with
        | none => []
        | some p => ": " ++ Text.quoted p)
  | unnumbered text => text

/-- The short wording: the reason alone where the failure has one. -/
def cause : OsError → Text
  | system code reason path => if reason = [] then (system code reason path).message else reason
  | unnumbered text => text

/-- The failure says that nothing is there. -/
def isMissing (e : OsError) : Bool :=
  e.errno? = some .noEntry || e.errno? = some .notDirectory

/-- Nothing has this name. -/
def noEntry (path : Text) : OsError := system .noEntry "No such file or directory" (some path)

/-- A name on the way is no directory. -/
def notDirectory (path : Text) : OsError := system .notDirectory "Not a directory" (some path)

/-- A directory stands where a file is wanted. -/
def isDirectory (path : Text) : OsError := system .isDirectory "Is a directory" (some path)

/-- Something is there already. -/
def alreadyExists (path : Text) : OsError := system .occupied "File exists" (some path)

/-- A name on the way is too long. -/
def nameTooLong (path : Text) : OsError := system .nameTooLong "File name too long" (some path)

/-- A directory still has entries. -/
def notEmpty (path : Text) : OsError := system .notEmpty "Directory not empty" (some path)

/-- There are too many links on the way. -/
def tooManyLinks (path : Text) : OsError :=
  system .loop "Too many levels of symbolic links" (some path)

end OsError

/-- Why a path has no canonical form: a failure, or a NUL character, which no call accepts. -/
inductive Refusal
  | os (e : OsError)
  | nulCharacter
  deriving DecidableEq, Repr

/-- The two questions that resolving asks (`Filesystem`). -/
structure FileSystem where
  canonicalize : Text → Except Refusal Path
  kind : Path → EntryKind

/-! ## Computations that ask -/

/-- What ends a computation without an answer, and with it every batch that it is part of. -/
inductive Crash
  | digitLimit (digits : Nat)
  | nulCharacter
  | noWorkers
  deriving DecidableEq, Repr

/-- The wording of a crash. -/
def Crash.message : Crash → Text
  | digitLimit digits => Decimal.limitMessage digits
  | nulCharacter => "embedded null byte"
  | noWorkers => "max_workers must be greater than 0"

/-- A computation that asks a file system questions and then answers, or is cut off. -/
inductive Inquiry (α : Type)
  | answer (a : α)
  | crash (c : Crash)
  | canonicalize (path : Text) (next : Except Refusal Path → Inquiry α)
  | kind (path : Path) (next : EntryKind → Inquiry α)

namespace Inquiry

variable {α β : Type}

/-- Continues where a computation answers. -/
def bind : Inquiry α → (α → Inquiry β) → Inquiry β
  | answer a, f => f a
  | crash c, _ => crash c
  | canonicalize path next, f => canonicalize path fun r => (next r).bind f
  | kind path next, f => kind path fun k => (next k).bind f

instance : Monad Inquiry where
  pure := answer
  bind := bind

/-- The result on an unchanging file system. -/
def run (fs : FileSystem) : Inquiry α → Except Crash α
  | answer a => .ok a
  | crash c => .error c
  | canonicalize path next => (next (fs.canonicalize path)).run fs
  | kind path next => (next (fs.kind path)).run fs

/-- The paths whose canonical form is asked for, in order. -/
def calls (fs : FileSystem) : Inquiry α → List Text
  | answer _ => []
  | crash _ => []
  | canonicalize path next => path :: (next (fs.canonicalize path)).calls fs
  | kind path next => (next (fs.kind path)).calls fs

@[simp] theorem pure_eq (a : α) : (pure a : Inquiry α) = answer a := rfl

@[simp] theorem bind_eq (x : Inquiry α) (f : α → Inquiry β) : x >>= f = x.bind f := rfl

theorem run_bind (fs : FileSystem) (x : Inquiry α) (f : α → Inquiry β) :
    (x.bind f).run fs =
      match x.run fs with
      | .ok a => (f a).run fs
      | .error c => .error c := by
  induction x with
  | answer a => rfl
  | crash c => rfl
  | canonicalize path next ih => exact ih _
  | kind path next ih => exact ih _

end Inquiry

/-! ## Probing -/

/-- What is known of one candidate path (`Probe`). -/
inductive Probe
  | file (path : Path)
  | directory (path : Path)
  | other (path : Path)
  | missing
  | error (e : OsError)
  deriving DecidableEq, Repr

/-- The canonical path of an entry that was found. -/
def Probe.path? : Probe → Option Path
  | file p => some p
  | directory p => some p
  | other p => some p
  | missing => none
  | error _ => none

/-- The finding for an entry of a kind at a canonical path. An entry that is gone by the time its
kind is asked for is missing. -/
def Probe.ofKind (path : Path) : EntryKind → Probe
  | .file => file path
  | .directory => directory path
  | .other => other path
  | .missing => missing

/-- Asks for the canonical form of a candidate and for the kind of entry there (`probe`). Failures
that mean absence make it missing, all others are kept. -/
def probe (candidate : Text) : Inquiry Probe :=
  .canonicalize candidate fun
    | .ok path => .kind path fun k => .answer (.ofKind path k)
    | .error (.os e) => .answer (if e.isMissing then .missing else .error e)
    | .error .nulCharacter => .crash .nulCharacter

end Pinpoint
