import Pinpoint.Resolver
import Pinpoint.Text.Case

/-!
# Command-line parameters that resolve

A command that takes a specifier as a parameter resolves the value while it reads its command
line, and reports a failure as a wrong parameter.
-/

namespace Pinpoint

/-- A parameter is known by a name; a value may also be converted outside any parameter. -/
structure Parameter where
  name : Option Text
  deriving DecidableEq, Repr

namespace Parameter

/-- The name shown to a reader: upper case, with `_` for `-`. -/
def shownName (p : Parameter) : Text :=
  match p.name with
  | none => "..."
  | some name => Text.upper (Text.lower (name.map fun c => if c = '-' then '_' else c))

/-- What is wrong with the value of a parameter. An empty value is reported by the name of the
parameter, every other failure in its own words. -/
def complaint (p : Parameter) (f : Failure) : Text :=
  if f.kind = .emptyArgument then "Invalid argument: \"" ++ p.shownName ++ "\" is empty"
  else f.message

/-- The specifier that a value of the parameter names, or what is wrong with the value
(`PathSpecifierParamType.convert`). -/
def convert (p : Parameter) (ctx : Context) (value : Text) : Inquiry (Except Text Specifier) := do
  match ← resolve ctx value with
  | .ok s => return .ok s
  | .error f => return .error (p.complaint f)

end Parameter

end Pinpoint
