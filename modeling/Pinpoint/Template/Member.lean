import Pinpoint.Template.Kind

/-!
# Members

A kind lists members for its values. Methods and operations wait for a value to work on; properties
and fields are read off a value; a method of the kind itself, the maker of its values, and a static
method need no value; a constant is the same for all values.

* `operations` — the members for operators and the like, which read the same in every kind.
-/

namespace Pinpoint.Template

/-- What a member does for a value. -/
inductive Role
  | method
  | operation
  | property
  | field
  | classMethod
  | maker
  | static
  | constant
  deriving DecidableEq, Repr

/-- The member is read off a value, and nothing that the value holds itself can hide it. -/
def Role.isRead : Role → Bool
  | property => true
  | field => true
  | _ => false

/-- A member of a kind, with how it is called and what is said about it. -/
structure Member where
  name : Text
  role : Role
  signature : Option Text := none
  doc : Option Text := none
  deriving DecidableEq, Repr

namespace Member

/-- A text, unless there is nothing in it. -/
def textOf? (s : String) : Option Text := if s = "" then none else some s.toList

/-- Lines as one text, unless there are none. -/
def linesOf? (lines : List String) : Option Text :=
  if lines = [] then none else some ("\n".intercalate lines).toList

def method (name signature : String) (doc : List String) : Member :=
  ⟨name, .method, textOf? signature, linesOf? doc⟩

def classMethod (name signature : String) (doc : List String) : Member :=
  ⟨name, .classMethod, textOf? signature, linesOf? doc⟩

def maker (name signature : String) (doc : List String) : Member :=
  ⟨name, .maker, textOf? signature, linesOf? doc⟩

def static (name signature : String) (doc : List String) : Member :=
  ⟨name, .static, textOf? signature, linesOf? doc⟩

def property (name doc : String) : Member := ⟨name, .property, none, textOf? doc⟩

def field (name doc : String) : Member := ⟨name, .field, none, textOf? doc⟩

/-- A constant is what is said about it. -/
def constant (name : String) (value : List String) : Member :=
  ⟨name, .constant, none, linesOf? value⟩

/-- Every operation, with how it is called and what it does. -/
def allOperations : List (String × String × String) :=
  [("__repr__", "($self, /)", "Return repr(self)."),
    ("__hash__", "($self, /)", "Return hash(self)."),
    ("__str__", "($self, /)", "Return str(self)."),
    ("__getattribute__", "($self, name, /)", "Return getattr(self, name)."),
    ("__lt__", "($self, value, /)", "Return self<value."),
    ("__le__", "($self, value, /)", "Return self<=value."),
    ("__eq__", "($self, value, /)", "Return self==value."),
    ("__ne__", "($self, value, /)", "Return self!=value."),
    ("__gt__", "($self, value, /)", "Return self>value."),
    ("__ge__", "($self, value, /)", "Return self>=value."),
    ("__iter__", "($self, /)", "Implement iter(self)."),
    ("__mod__", "($self, value, /)", "Return self%value."),
    ("__rmod__", "($self, value, /)", "Return value%self."),
    ("__len__", "($self, /)", "Return len(self)."),
    ("__getitem__", "($self, key, /)", "Return self[key]."),
    ("__add__", "($self, value, /)", "Return self+value."),
    ("__mul__", "($self, value, /)", "Return self*value."),
    ("__rmul__", "($self, value, /)", "Return value*self."),
    ("__contains__", "($self, key, /)", "Return key in self."),
    ("__radd__", "($self, value, /)", "Return value+self."),
    ("__sub__", "($self, value, /)", "Return self-value."),
    ("__rsub__", "($self, value, /)", "Return value-self."),
    ("__divmod__", "($self, value, /)", "Return divmod(self, value)."),
    ("__rdivmod__", "($self, value, /)", "Return divmod(value, self)."),
    ("__pow__", "($self, value, mod=None, /)", "Return pow(self, value, mod)."),
    ("__rpow__", "($self, value, mod=None, /)", "Return pow(value, self, mod)."),
    ("__neg__", "($self, /)", "-self"),
    ("__pos__", "($self, /)", "+self"),
    ("__abs__", "($self, /)", "abs(self)"),
    ("__bool__", "($self, /)", "True if self else False"),
    ("__invert__", "($self, /)", "~self"),
    ("__lshift__", "($self, value, /)", "Return self<<value."),
    ("__rlshift__", "($self, value, /)", "Return value<<self."),
    ("__rshift__", "($self, value, /)", "Return self>>value."),
    ("__rrshift__", "($self, value, /)", "Return value>>self."),
    ("__and__", "($self, value, /)", "Return self&value."),
    ("__rand__", "($self, value, /)", "Return value&self."),
    ("__xor__", "($self, value, /)", "Return self^value."),
    ("__rxor__", "($self, value, /)", "Return value^self."),
    ("__or__", "($self, value, /)", "Return self|value."),
    ("__ror__", "($self, value, /)", "Return value|self."),
    ("__int__", "($self, /)", "int(self)"),
    ("__float__", "($self, /)", "float(self)"),
    ("__floordiv__", "($self, value, /)", "Return self//value."),
    ("__rfloordiv__", "($self, value, /)", "Return value//self."),
    ("__truediv__", "($self, value, /)", "Return self/value."),
    ("__rtruediv__", "($self, value, /)", "Return value/self."),
    ("__index__", "($self, /)",
      "Return self converted to an integer, if self is suitable for use as an index into a list."),
    ("__setattr__", "($self, name, value, /)", "Implement setattr(self, name, value)."),
    ("__delattr__", "($self, name, /)", "Implement delattr(self, name)."),
    ("__init__", "($self, /, *args, **kwargs)",
      "Initialize self.  See help(type(self)) for accurate signature."),
    ("__call__", "($self, /, *args, **kwargs)", "Call self as a function."),
    ("__get__", "($self, instance, owner=None, /)",
      "Return an attribute of instance, which is of type owner."),
    ("__set__", "($self, instance, value, /)", "Set an attribute of instance to value."),
    ("__delete__", "($self, instance, /)", "Delete an attribute of instance."),
    ("__ior__", "($self, value, /)", "Return self|=value."),
    ("__setitem__", "($self, key, value, /)", "Set self[key] to value."),
    ("__delitem__", "($self, key, /)", "Delete self[key].")]

/-- The operations of the given names. -/
def operations (names : List String) : List Member :=
  names.map fun name =>
    match allOperations.lookup name with
    | some (signature, doc) => ⟨name, .operation, signature.toList, doc.toList⟩
    | none => ⟨name, .operation, none, none⟩

end Member

end Pinpoint.Template
