import Pinpoint.Decimal.Shortest
import Pinpoint.Text.Quoted
import Pinpoint.Toml.Moment

/-!
# Values of a document

A value is a text, a number, a truth value, a date or time, a list of values, or a table of named
values in the order in which they were given.

* `Value.literal` — a value as it is shown in messages, texts in quotes.
* `Value.display` — a value as it is shown in tables, a text as it is.
-/

namespace Pinpoint.Toml

/-- A value of a document. -/
inductive Value
  | text (t : Text)
  | integer (n : Int)
  | float (x : Decimal.Binary64)
  | boolean (b : Bool)
  | dateTime (d : DateTime)
  | date (d : Date)
  | time (t : Time)
  | list (items : List Value)
  | table (entries : List (Text × Value))

/-- Named values in order. -/
abbrev Table := List (Text × Value)

namespace Value

mutual

/-- A value as it is shown in messages. -/
def literal : Value → Text
  | text t => Text.quoted t
  | integer n => Text.ofInt n
  | float x => x.text
  | boolean b => if b then "True" else "False"
  | dateTime d => d.call
  | date d => d.call
  | time t => t.call
  | list items => "[" ++ Text.join ", ".toList (literals items) ++ "]"
  | table entries => "\x7b" ++ Text.join ", ".toList (entryLiterals entries) ++ "\x7d"

/-- The items of a list, shown in messages. -/
def literals : List Value → List Text
  | [] => []
  | v :: rest => v.literal :: literals rest

/-- The entries of a table, shown in messages. -/
def entryLiterals : List (Text × Value) → List Text
  | [] => []
  | (key, v) :: rest => (Text.quoted key ++ ": " ++ v.literal) :: entryLiterals rest

end

/-- A value as it is shown in tables. -/
def display : Value → Text
  | text t => t
  | dateTime d => d.render ' '
  | date d => d.render
  | time t => t.render
  | v => v.literal

mutual

/-- No number in a value has more digits than are written at all. -/
def isWritable : Value → Bool
  | integer n => n.natAbs < Nat.pow 10 Decimal.digitLimit
  | list items => areWritable items
  | table entries => entriesAreWritable entries
  | _ => true

/-- The items of a list are writable. -/
def areWritable : List Value → Bool
  | [] => true
  | v :: rest => v.isWritable && areWritable rest

/-- The entries of a table are writable. -/
def entriesAreWritable : List (Text × Value) → Bool
  | [] => true
  | (_, v) :: rest => v.isWritable && entriesAreWritable rest

end

/-- The name of the kind of a value in messages. -/
def kindName : Value → Text
  | text _ => "str"
  | integer _ => "int"
  | float _ => "float"
  | boolean _ => "bool"
  | dateTime _ => "datetime.datetime"
  | date _ => "datetime.date"
  | time _ => "datetime.time"
  | list _ => "list"
  | table _ => "dict"

end Value

end Pinpoint.Toml
