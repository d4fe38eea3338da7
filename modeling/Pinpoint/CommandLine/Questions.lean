import Pinpoint.CommandLine

/-!
# Questions of a command line

Which questions a run will ask the file system follows from its arguments and the working
directory alone, so that they can be asked before the run.

* `questions` — what a run asks the file system.
-/

namespace Pinpoint.CommandLine

/-- The result of an action that only looks at its arguments. -/
def Action.result? {α : Type} (x : Action α) (around : Surroundings) : Option α :=
  (x.run around { tree := {} }).2.toOption

/-- What resolving asks. -/
def ResolveArgs.questions (a : ResolveArgs) : Action (Inquiry Unit) := do
  let context ← contextOf a.cwd
  return do discard (resolveAll context a.args)

/-- What opening asks. -/
def OpenArgs.questions (a : OpenArgs) : Action (Inquiry Unit) := do
  let context ← contextOf none
  return do discard (resolve context a.target)

/-- What a command line asks. -/
def requestQuestions (r : Request) : Action (Inquiry Unit) :=
  match r.command with
  | .init => pure (pure ())
  | .resolve => do (← ResolveArgs.read r.args).questions
  | .open => do (← OpenArgs.read r.args).questions

/-- What a run asks the file system. One that ends over its options asks nothing. -/
def questions (around : Surroundings) (args : List Text) : Inquiry Unit :=
  (Action.result? (do requestQuestions (← Request.read args)) around).getD (pure ())

end Pinpoint.CommandLine
