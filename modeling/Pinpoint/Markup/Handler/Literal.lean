import Pinpoint.Markup.Handler.Expr
import Pinpoint.Markup.Handler.Fault

/-!
# Plain values

An expression has a plain value if it is made of constants, tuples, sets and tables alone. Items of
a set and keys of a table must be hashable, which sets and tables are not.

* `Expr.checkPlain` — the expression has a plain value.
-/

namespace Pinpoint.Markup.Handler

/-- The name of the kind of an expression. -/
def Expr.kindName : Expr → Text
  | constant _ => "Constant"
  | name _ => "Name"
  | tuple _ => "Tuple"
  | set _ => "Set"
  | table _ => "Dict"
  | noKey => "Constant"
  | signed _ => "UnaryOp"
  | sum _ _ => "BinOp"
  | call _ _ => "Call"
  | form f => f.name

/-- A number that is not imaginary. -/
def Expr.isReal : Expr → Bool
  | constant (.number imaginary) => !imaginary
  | _ => false

/-- An imaginary number. -/
def Expr.isImaginary : Expr → Bool
  | constant (.number imaginary) => imaginary
  | _ => false

/-- Checks that an expression is a number. -/
def Expr.checkNumber (e : Expr) : Except ValueFault Unit :=
  if e.isReal || e.isImaginary then .ok () else .error (.malformed e.kindName)

/-- Checks that an expression is a number, perhaps with a sign, and tells whether it is real. -/
def Expr.checkSigned (e : Expr) : Except ValueFault Bool := do
  match e with
  | signed operand =>
    operand.checkNumber
    return operand.isReal
  | e =>
    e.checkNumber
    return e.isReal

/-- What of a value is known: the name of a kind in it that is not hashable, if there is one. -/
abbrev Unhashable := Option Text

/-- Refuses a value that is not hashable. -/
def Unhashable.refuse : Unhashable → Except ValueFault Unit
  | some kind => .error (.unhashable kind)
  | none => .ok ()

mutual

/-- Checks that an expression has a plain value, and tells whether that is hashable. -/
def Expr.checkPlain : Expr → Except ValueFault Unhashable
  | .constant _ => .ok none
  | .tuple items => checkItems items
  | .set items => do
    checkMembers items
    return some "set".toList
  | .table entries => do
    checkEntries entries
    return some "dict".toList
  | .noKey => .error .nothing
  | .call (.name n) true =>
    if n = "set".toList then .ok (some "set".toList) else .error (.malformed "Call")
  | .sum left right => do
    let real ← left.checkSigned
    right.checkNumber
    if real && right.isImaginary then return none else throw (.malformed "BinOp")
  | e => do
    let _ ← e.checkSigned
    return none

/-- Checks the items of a tuple. -/
def checkItems : List Expr → Except ValueFault Unhashable
  | [] => .ok none
  | e :: es => do
    let first ← e.checkPlain
    let others ← checkItems es
    return first.or others

/-- Checks the items of a set. -/
def checkMembers : List Expr → Except ValueFault Unit
  | [] => .ok ()
  | e :: es => do
    (← e.checkPlain).refuse
    checkMembers es

/-- Checks the entries of a table: keys and values by turns. -/
def checkEntries : List Expr → Except ValueFault Unit
  | key :: value :: rest => do
    let unhashable ← key.checkPlain
    let _ ← value.checkPlain
    unhashable.refuse
    checkEntries rest
  | _ => .ok ()

end

end Pinpoint.Markup.Handler
