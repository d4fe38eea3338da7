import Pinpoint.Failure
import Pinpoint.FileSystem
import Pinpoint.Specifier
import Pinpoint.Suffix

/-!
# Resolving arguments

An argument names what exists. It is made absolute, then tried as it stands, then as
`path:LINE:COLUMN`, then as `path:LINE` with the line group folded back into the name, then as
`path:LINE`. Whatever names a file first wins. A directory or special file in front of a position
ends the search at once; a fragment that is no number, or a path that cannot be examined, is
remembered and reported only if nothing else resolves.

* `Context.absolutize` — the text that all readings start from.
* `resolve` — one argument: a specifier or a failure.
* `resolveAll` — many arguments: one outcome each, in order.
-/

namespace Pinpoint

/-! ## Context -/

/-- The directory that relative arguments are joined to (`ResolverContext`). -/
structure Context where
  workingDir : Path
  deriving DecidableEq, Repr

namespace Context

/-- The context of a working directory; where none can be determined, the base is empty. -/
def ofWorkingDir? : Option Text → Context
  | some dir => ⟨Path.parse dir⟩
  | none => ⟨Path.here⟩

/-- Makes an argument absolute (`ResolverContext.absolutize`). One that is absolute already stays as
it is written. -/
def absolutize (ctx : Context) (arg : Text) : Text :=
  let p := Path.parse arg
  if p.isAbsolute then arg else (ctx.workingDir.join p).render

end Context

/-! ## Reading the numbers of a suffix -/

/-- A number fragment as a number or a fault (`PathResolver._parse`); an overlong one ends
everything. -/
def readNumber (t : Text) : Inquiry (Except NumberFault Nat) :=
  match Reading.ofText t with
  | .number n => .answer (.ok n)
  | .refused fault => .answer (.error fault)
  | .overlong digits => .crash (.digitLimit digits)

namespace Failure

/-- The path in front of the suffix is no file. -/
def ofNotAFile (t path : Text) : Failure :=
  { kind := .notAFile, argument := t, fragment := some path }

/-- The line group is no number. -/
def ofLine (t line : Text) (fault : NumberFault) : Failure :=
  { kind := .invalidLine, argument := t, fragment := some line, cause := some fault.message }

/-- The column group is no number. -/
def ofColumn (t column : Text) (fault : NumberFault) : Failure :=
  { kind := .invalidColumn, argument := t, fragment := some column, cause := some fault.message }

/-- Neither group is a number. -/
def ofLineAndColumn (t line column : Text) (lineFault columnFault : NumberFault) : Failure :=
  { kind := .invalidLineAndColumn
    argument := t
    fragment := some line
    cause := some lineFault.message
    columnFragment := some column
    columnCause := some columnFault.message }

/-- A candidate cannot be examined (`PathResolver._io_error`). -/
def ofOsError (t candidate : Text) (e : OsError) : Failure :=
  { kind := .otherIOFailure, argument := t, fragment := some candidate, cause := some e.cause }

end Failure

/-! ## The search -/

/-- The failures remembered so far: a fragment that is no number, and a candidate that cannot be
examined. Each is remembered only the first time. -/
structure Pending where
  parse : Option Failure := none
  io : Option Failure := none
  deriving DecidableEq, Repr

namespace Pending

/-- Remembers a fragment that is no number, unless one is remembered. -/
def addParse (p : Pending) (f : Failure) : Pending := { p with parse := p.parse <|> some f }

/-- Remembers a candidate that cannot be examined, unless one is remembered. -/
def addIO (p : Pending) (f : Failure) : Pending := { p with io := p.io <|> some f }

/-- The failure to report when nothing resolves. -/
def failure (p : Pending) (t : Text) : Failure :=
  (p.parse <|> p.io).getD { kind := .noMatch, argument := t }

end Pending

/-- The state of the search after a reading of the argument has been tried. -/
inductive Trial
  | settled (result : Except Failure Specifier)
  | continued (pending : Pending)

/-- Tries `path` as a file with a position in it. -/
def tryPosition (t path : Text) (pos : Position) (pending : Pending) : Inquiry Trial := do
  match ← probe path with
  | .file p => return .settled (.ok (.file p (some pos)))
  | .directory _ => return .settled (.error (.ofNotAFile t path))
  | .other _ => return .settled (.error (.ofNotAFile t path))
  | .error e => return .continued (pending.addIO (.ofOsError t path e))
  | .missing => return .continued pending

/-- Tries `name:number:N` as the file `name:number` at line `N` (`PathResolver._resolve_collapsed`).
Only a file counts. -/
def tryCollapsed (m : LineColumn) (line : Nat) (pending : Pending) : Inquiry Trial := do
  match ← probe m.collapsedPath with
  | .file p => return .settled (.ok (.file p (some ⟨line, 1⟩)))
  | _ => return .continued pending

/-- Tries `path:LINE:COLUMN`, then the same text with the line group folded back. -/
def tryLineColumn (t : Text) (m : LineColumn) (pending : Pending) : Inquiry Trial := do
  let line ← readNumber m.line
  let column ← readNumber m.column
  match line, column with
  | .ok l, .ok c =>
    match ← tryPosition t m.path ⟨l, c⟩ pending with
    | .settled result => return .settled result
    | .continued pending => tryCollapsed m c pending
  | .error lineFault, .ok c =>
    tryCollapsed m c (pending.addParse (.ofLine t m.line lineFault))
  | .ok _, .error columnFault =>
    return .continued (pending.addParse (.ofColumn t m.column columnFault))
  | .error lineFault, .error columnFault =>
    return .continued
      (pending.addParse (.ofLineAndColumn t m.line m.column lineFault columnFault))

/-- Tries `path:LINE`. -/
def tryLineOnly (t : Text) (m : LineOnly) (pending : Pending) : Inquiry Trial := do
  match ← readNumber m.line with
  | .ok l => tryPosition t m.path ⟨l, 1⟩ pending
  | .error fault => return .continued (pending.addParse (.ofLine t m.line fault))

/-- Ends a search. -/
def Trial.finish (t : Text) : Trial → Except Failure Specifier
  | settled result => result
  | continued pending => .error (pending.failure t)

/-- Searches for a reading as `path:LINE:COLUMN`, if the text has one. -/
def searchLineColumn (t : Text) : Inquiry Trial :=
  match lineColumn? t with
  | some m => tryLineColumn t m {}
  | none => .answer (.continued {})

/-- Searches for a reading as `path:LINE`, if the text has one. -/
def searchLineOnly (t : Text) (pending : Pending) : Inquiry Trial :=
  match lineOnly? t with
  | some m => tryLineOnly t m pending
  | none => .answer (.continued pending)

/-- Resumes a search with the reading as `path:LINE`, unless it is settled. -/
def Trial.resume (t : Text) : Trial → Inquiry (Except Failure Specifier)
  | settled result => .answer result
  | continued pending => do return (← searchLineOnly t pending).finish t

/-- Searches for a reading with a suffix (`PathResolver._resolve_suffix`). -/
def resolveSuffix (t : Text) : Inquiry (Except Failure Specifier) := do
  (← searchLineColumn t).resume t

/-- Resolves an argument that has been made absolute. -/
def resolveAbsolute (t : Text) : Inquiry (Except Failure Specifier) := do
  match ← probe t with
  | .file p => return .ok (.file p none)
  | .directory p => return .ok (.directory p)
  | _ => resolveSuffix t

/-- Resolves one argument (`PathResolver.resolve`). An empty one, and one that holds a NUL
character, fail before any question is asked. -/
def resolve (ctx : Context) (arg : Text) : Inquiry (Except Failure Specifier) :=
  if arg = [] then .answer (.error { kind := .emptyArgument, argument := arg })
  else if Text.nul ∈ arg then
    .answer (.error
      { kind := .invalidPath, argument := arg, cause := some "embedded null character".toList })
  else resolveAbsolute (ctx.absolutize arg)

/-! ## Many arguments -/

/-- What became of one argument (`ResolutionOutcome`). -/
structure Outcome where
  argument : Text
  result : Except Failure Specifier

/-- The argument resolved. -/
def Outcome.isOk (o : Outcome) : Bool := o.result.isOk

/-- Resolves arguments one after the other. A failure concerns its own argument alone. -/
def resolveEach (ctx : Context) : List Text → Inquiry (List Outcome)
  | [] => .answer []
  | arg :: args => do
    let result ← resolve ctx arg
    let outcomes ← resolveEach ctx args
    return ⟨arg, result⟩ :: outcomes

/-- Resolves many arguments with a number of workers (`PathResolver.resolve_many`), which must be
positive unless there is nothing to do. -/
def resolveAll (ctx : Context) (args : List Text) (workers : Option Int := none) :
    Inquiry (List Outcome) :=
  match args, workers with
  | [], _ => .answer []
  | args, none => resolveEach ctx args
  | args, some n => if n ≤ 0 then .crash .noWorkers else resolveEach ctx args

end Pinpoint
