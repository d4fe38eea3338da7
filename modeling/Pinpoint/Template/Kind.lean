import Pinpoint.Text

/-!
# Kinds of values

What a field names is a text or a whole number, but the way into a value leads further: to the kind
of a value, to the kinds above that, to the methods and operations of a value, and to the members
that a kind keeps for its values. All of these are values in turn, and have kinds.

* `Kind.ancestors` — a kind and those above it.
-/

namespace Pinpoint.Template

/-- The kinds of values. -/
inductive Kind
  | text
  | number
  | boolean
  | object
  | kinds
  | tuple
  | nothing
  | method
  | operation
  | methodMember
  | operationMember
  | propertyMember
  | fieldMember
  | classMember
  | staticMember
  | memberTable
  | dictionary
  | generic
  deriving DecidableEq, Repr

namespace Kind

/-- The name of a kind in messages. -/
def name : Kind → Text
  | text => "str"
  | number => "int"
  | boolean => "bool"
  | object => "object"
  | kinds => "type"
  | tuple => "tuple"
  | nothing => "NoneType"
  | method => "builtin_function_or_method"
  | operation => "method-wrapper"
  | methodMember => "method_descriptor"
  | operationMember => "wrapper_descriptor"
  | propertyMember => "getset_descriptor"
  | fieldMember => "member_descriptor"
  | classMember => "classmethod_descriptor"
  | staticMember => "staticmethod"
  | memberTable => "mappingproxy"
  | dictionary => "dict"
  | generic => "types.GenericAlias"

/-- Where a kind is declared. -/
def module : Kind → Text
  | generic => "types"
  | _ => "builtins"

/-- The name of a kind where it is declared. -/
def ownName : Kind → Text
  | generic => "GenericAlias"
  | k => k.name

/-- The kind above a kind. All kinds but `object` and the truth values stand right below it. -/
def base? : Kind → Option Kind
  | object => none
  | boolean => some number
  | _ => some object

/-- A kind and those above it, nearest first. There are at most two of them. -/
def ancestors (k : Kind) : List Kind :=
  match k.base? with
  | none => [k]
  | some above => k :: above :: above.base?.toList

/-- The values of a kind are whole numbers; a truth value is zero or one. -/
def isNumber : Kind → Bool
  | number => true
  | boolean => true
  | _ => false

/-- A kind takes an argument that says what its values hold. -/
def isGeneric : Kind → Bool
  | kinds => true
  | tuple => true
  | memberTable => true
  | dictionary => true
  | _ => false

/-- How a kind is written. -/
def plain (k : Kind) : Text := "<class '" ++ k.name ++ "'>"

/-- How the values of a kind are stored: bytes of a value, bytes of each item in it, traits as bits,
and where other things are kept, zero if nowhere. -/
structure Storage where
  size : Nat
  itemSize : Nat := 0
  traits : Nat
  dictionary : Nat := 0
  references : Nat := 0

/-- How the values of each kind are stored. -/
def storage : Kind → Storage
  | text => { size := 80, traits := 273159424 }
  | number => { size := 24, itemSize := 4, traits := 21501184 }
  | boolean => { size := 32, itemSize := 4, traits := 21500160 }
  | object => { size := 16, traits := 529664 }
  | kinds =>
    { size := 904, itemSize := 40, traits := 2148031744, dictionary := 264, references := 368 }
  | tuple => { size := 24, itemSize := 8, traits := 71849248 }
  | nothing => { size := 16, traits := 528640 }
  | method => { size := 56, traits := 547200, references := 40 }
  | operation => { size := 32, traits := 545152 }
  | methodMember => { size := 56, traits := 678272 }
  | operationMember => { size := 56, traits := 676224 }
  | propertyMember => { size := 48, traits := 545152 }
  | fieldMember => { size := 48, traits := 545152 }
  | classMember => { size := 56, traits := 545152 }
  | staticMember => { size := 32, traits := 546048, dictionary := 24 }
  | memberTable => { size := 24, traits := 545088 }
  | dictionary => { size := 48, traits := 541611328 }
  | generic => { size := 64, traits := 548096, references := 40 }

/-- How a kind is called, where that is recorded. -/
def signature? : Kind → Option Text
  | object => some "()"
  | tuple => some "(iterable=(), /)"
  | _ => none

end Kind

end Pinpoint.Template
