import Pinpoint.Text

/-!
# Expressions

The expressions that can stand in the arguments of a handler. Only those that may have a plain value
keep their parts; of the others only the form is left.
-/

namespace Pinpoint.Markup.Handler

/-- The forms of expressions that have no plain value. -/
inductive Form
  | part
  | boolean
  | binary
  | unary
  | comparison
  | conditional
  | naming
  | starred
  | formatted
  deriving DecidableEq, Repr

/-- Values that are written as they are. -/
inductive Constant
  | text
  | bytes
  | number (imaginary : Bool)
  | true
  | false
  | nothing
  | ellipsis
  deriving DecidableEq, Repr

/-- An expression. The entries of a table are its keys and values by turns, and instead of a key
there may be none. A call is bare if nothing stands between its parentheses. -/
inductive Expr
  | constant (value : Constant)
  | name (name : Text)
  | tuple (items : List Expr)
  | set (items : List Expr)
  | table (entries : List Expr)
  | noKey
  | signed (operand : Expr)
  | sum (left right : Expr)
  | call (function : Expr) (bare : Bool)
  | form (f : Form)
  deriving Repr

/-- How a constant is called in messages. -/
def Constant.description : Constant → Text
  | true => "True"
  | false => "False"
  | nothing => "None"
  | ellipsis => "ellipsis"
  | _ => "literal"

/-- How a form is called in messages. -/
def Form.description : Form → Text
  | part => "attribute"
  | comparison => "comparison"
  | conditional => "conditional expression"
  | naming => "named expression"
  | starred => "starred"
  | formatted => "f-string expression"
  | boolean | binary | unary => "expression"

/-- The name of the kind of a form. -/
def Form.name : Form → Text
  | part => "Attribute"
  | boolean => "BoolOp"
  | binary => "BinOp"
  | unary => "UnaryOp"
  | comparison => "Compare"
  | conditional => "IfExp"
  | naming => "NamedExpr"
  | starred => "Starred"
  | formatted => "JoinedStr"

/-- How an expression is called in messages. -/
def Expr.description : Expr → Text
  | constant value => value.description
  | name _ => "name"
  | tuple _ => "tuple"
  | set _ => "set display"
  | table _ => "dict literal"
  | noKey | signed _ | sum _ _ => "expression"
  | call _ _ => "function call"
  | form f => f.description

end Pinpoint.Markup.Handler
