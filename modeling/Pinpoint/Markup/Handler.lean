import Pinpoint.Markup.Handler.Grammar
import Pinpoint.Markup.Handler.Literal
import Pinpoint.Text.Blank

/-!
# Handlers

A tag whose name starts with an at sign names an event, and its parameters say what handles it: a
dotted name, with arguments in parentheses if there are any. What does not look like that must be a
plain value itself.

* `Handler.check` — parameters that say what handles an event.
-/

namespace Pinpoint.Markup.Handler

/-- A character of a dotted name. -/
def isDotted (c : Char) : Bool := Text.isWord c || c = '.'

/-- What is worked out of parameters: the arguments of a handler, or all of it. -/
def argumentText (parameters : Text) : Text :=
  match parameters.dropWhile isDotted with
  | [] => "()"
  | '(' :: rest =>
    if rest.getLast? = some ')' ∧ '\n' ∉ rest then '(' :: rest else parameters
  | _ => parameters

/-- What is wrong with parameters. -/
inductive Fault
  | noExpression (text : Text) (fault : SyntaxFault)
  | noValue (fault : ValueFault)
  deriving DecidableEq, Repr

/-- Checks the parameters of an event. -/
def check (parameters : Text) : Except Fault Unit := do
  let text := argumentText (Text.trim parameters)
  if Text.nul ∈ text then throw (.noValue .nulCharacter)
  match tokens text >>= read with
  | .error fault => throw (.noExpression text fault)
  | .ok e =>
    match e.checkPlain with
    | .error fault => throw (.noValue fault)
    | .ok _ => return ()

end Pinpoint.Markup.Handler
