import Pinpoint.Resolver

/-!
# Workers

A batch is shared out among workers. Each takes the next argument that nobody has taken, asks the
file system one question at a time, and puts down what the argument came to. In between, the other
workers take turns of their own, so the questions of several arguments mix. What the arguments came
to is collected in the order of the arguments.

* `Pool.step` — one turn of one worker.
* `Pool.follow` — the turns of a whole schedule.
* `Pool.collect` — the outcomes, in the order of the arguments.
-/

namespace Pinpoint

/-- What a worker does in one turn. -/
inductive Event
  | taken (index : Nat)
  | canonicalized (path : Text)
  | examined (path : Path)
  | ended (index : Nat) (result : Except Crash (Except Failure Specifier))

namespace Event

/-- The path whose canonical form was asked for. -/
def path? : Event → Option Text
  | canonicalized path => some path
  | _ => none

/-- What the argument at `index` came to. -/
def result? (index : Nat) : Event → Option (Except Crash (Except Failure Specifier))
  | ended i result => if i = index then some result else none
  | _ => none

end Event

/-- An argument in the hands of a worker, and what is left to do for it. -/
structure Task where
  index : Nat
  rest : Inquiry (Except Failure Specifier)

/-- Asks one question, or puts the result down where none is left. -/
def Task.turn (fs : FileSystem) (task : Task) : Event × Option Task :=
  match task.rest with
  | .answer result => (.ended task.index (.ok result), none)
  | .crash c => (.ended task.index (.error c), none)
  | .canonicalize path next =>
    (.canonicalized path, some { task with rest := next (fs.canonicalize path) })
  | .kind path next => (.examined path, some { task with rest := next (fs.kind path) })

/-- Workers, the arguments that wait for one with their places in the batch, and everything that
was done so far. A worker without a task is idle. -/
structure Pool where
  waiting : List (Text × Nat)
  workers : List (Option Task)
  history : List Event := []

namespace Pool

/-- A number of idle workers in front of a batch. -/
def start (args : List Text) (workers : Nat) : Pool :=
  { waiting := args.zipIdx, workers := List.replicate workers none }

/-- One turn of one worker, if there is anything to do for it. -/
def step (fs : FileSystem) (ctx : Context) (worker : Nat) (p : Pool) : Option Pool :=
  match p.workers[worker]? with
  | none => none
  | some none =>
    match p.waiting with
    | [] => none
    | (arg, index) :: waiting =>
      some
        { waiting
          workers := p.workers.set worker (some ⟨index, resolve ctx arg⟩)
          history := p.history ++ [.taken index] }
  | some (some task) =>
    some
      { p with
        workers := p.workers.set worker (task.turn fs).2
        history := p.history ++ [(task.turn fs).1] }

/-- The turns of a schedule, which names the worker of each turn. -/
def follow (fs : FileSystem) (ctx : Context) : List Nat → Pool → Option Pool
  | [], p => some p
  | worker :: schedule, p => (p.step fs ctx worker).bind (follow fs ctx schedule)

/-- No worker has anything left to do. -/
def IsFinished (fs : FileSystem) (ctx : Context) (p : Pool) : Prop :=
  ∀ worker, p.step fs ctx worker = none

/-- The paths whose canonical form was asked for, in order. -/
def log (p : Pool) : List Text := p.history.filterMap Event.path?

/-- What the argument at `index` came to, once that is known. -/
def result? (p : Pool) (index : Nat) : Option (Except Crash (Except Failure Specifier)) :=
  p.history.findSome? (Event.result? index)

/-- The outcomes of arguments, one after the other; the first that crashed ends them. There are
none as long as the result of an argument is not known. -/
def collect (p : Pool) : List (Text × Nat) → Option (Except Crash (List Outcome))
  | [] => some (.ok [])
  | (arg, index) :: rest =>
    match p.result? index with
    | none => none
    | some (.error crash) => some (.error crash)
    | some (.ok result) => (p.collect rest).map fun outcomes => outcomes.map (⟨arg, result⟩ :: ·)

end Pool

end Pinpoint
