import Pinpoint.Template.Field
import Pinpoint.Template.Members

/-!
# Values

A field names a text or a whole number, and accessors lead on from there: an attribute is looked up
among the members of the value's kind, an index takes a character of a text or an item of a tuple,
and some kinds take an argument. A method that is bound to a value shows where that is kept, which
only the machine knows.

* `Value.access` — one step into a value.
* `Memory` — what the machine has to say.
* `Value.plain`, `Value.quoted` — a value as text, as it is and in quotes.
-/

namespace Pinpoint.Template

/-- What tuples hold: kinds, and the arguments that kinds are given. -/
inductive Item
  | kind (k : Kind)
  | key (key : Key)
  deriving DecidableEq, Repr

/-- What accessors can lead to. A member stands on its own, as a kind holds it; bound to a value it
works on that one. The only dictionary is empty: nothing is ever set on a static method. -/
inductive Value
  | text (t : Text)
  | number (n : Int)
  | boolean (b : Bool)
  | nothing
  | kind (k : Kind)
  | tuple (items : List Item)
  | memberTable (k : Kind)
  | dictionary
  | generic (origin : Kind) (argument : Key)
  | member (owner : Kind) (m : Member)
  | staticMember (owner : Kind) (m : Member)
  | bound (owner : Kind) (m : Member) (self : Value)
  deriving DecidableEq, Repr

/-- The kind of a member that stands on its own. -/
def Role.kind : Role → Kind
  | operation => .operationMember
  | property => .propertyMember
  | field => .fieldMember
  | classMethod => .classMember
  | _ => .methodMember

/-- A kind's own member of a name. -/
def Kind.own? (k : Kind) (name : Text) : Option Member := k.members.find? (·.name = name)

/-- The member of a name that the values of a kind have, and the kind that holds it: the nearest. -/
def Kind.member? (k : Kind) (name : Text) : Option (Kind × Member) :=
  k.ancestors.findSome? fun a => (a.own? name).map (a, ·)

namespace Value

/-- A text, or nothing. -/
def ofText? : Option Text → Value
  | some t => text t
  | none => nothing

/-- An item of a tuple as a value of its own. -/
def ofItem : Item → Value
  | .kind k => kind k
  | .key (.number n) => number n
  | .key (.name t) => text t

/-- The number that a value is, if it is one. -/
def number? : Value → Option Int
  | number n => some n
  | boolean b => some b.toNat
  | _ => none

/-- The kind of a value. -/
def kindOf : Value → Kind
  | text _ => .text
  | number _ => .number
  | boolean _ => .boolean
  | nothing => .nothing
  | kind _ => .kinds
  | tuple _ => .tuple
  | memberTable _ => .memberTable
  | dictionary => .dictionary
  | generic _ _ => .generic
  | member _ m => m.role.kind
  | staticMember _ _ => .staticMember
  | bound _ m _ => if m.role = .operation then .operation else .method

/-! ## Attributes -/

/-- A member as the kind that holds it has it. -/
def ofMember (owner : Kind) (m : Member) : Value :=
  match m.role with
  | .constant => ofText? m.doc
  | .maker | .static => bound owner m (kind owner)
  | _ => member owner m

/-- A member as the table of its kind has it. -/
def stored (owner : Kind) (m : Member) : Value :=
  if m.role = .static then staticMember owner m else ofMember owner m

/-- What is said about a kind. -/
def docOf (k : Kind) : Value :=
  if k = .kinds then
    text ("type(object) -> the object's type\n" ++
      "type(name, bases, dict, **kwds) -> a new type")
  else
    match k.own? "__doc__".toList with
    | some m => ofMember k m
    | none => nothing

/-- The name of a member together with what it is looked up in. -/
def qualified (owner : Kind) (name : Text) : Value := text (owner.ownName ++ "." ++ name)

/-- What the properties of a whole number read: it is its own numerator and its own real part. -/
def numberProperties (n : Int) : List (String × Value) :=
  [("real", number n), ("imag", number 0), ("numerator", number n), ("denominator", number 1)]

/-- What the properties and fields of a value read. -/
def properties : Value → List (String × Value)
  | number n => numberProperties n
  | boolean b => numberProperties b.toNat
  | kind k =>
    [("__name__", text k.ownName), ("__qualname__", text k.ownName),
      ("__module__", text k.module),
      ("__doc__", docOf k), ("__text_signature__", ofText? k.signature?),
      ("__base__", k.base?.elim nothing kind), ("__bases__", tuple (k.base?.toList.map .kind)),
      ("__mro__", tuple (k.ancestors.map .kind)), ("__dict__", memberTable k),
      ("__basicsize__", number k.storage.size), ("__itemsize__", number k.storage.itemSize),
      ("__flags__", number k.storage.traits), ("__dictoffset__", number k.storage.dictionary),
      ("__weakrefoffset__", number k.storage.references)]
  | generic origin argument =>
    [("__origin__", kind origin), ("__args__", tuple [.key argument]),
      ("__unpacked__", boolean false), ("__parameters__", tuple []),
      ("__typing_unpacked_tuple_args__", nothing)]
  | member owner m =>
    [("__name__", text m.name), ("__qualname__", qualified owner m.name),
      ("__objclass__", kind owner), ("__doc__", ofText? m.doc),
      ("__text_signature__", ofText? m.signature)]
  | staticMember owner m =>
    [("__func__", ofMember owner m), ("__wrapped__", ofMember owner m),
      ("__isabstractmethod__", boolean false), ("__dict__", dictionary)]
  | bound owner m self =>
    let finder := match m.role, self with
      | .operation, _ => owner
      | _, kind k => k
      | _, v => v.kindOf
    [("__name__", text m.name), ("__qualname__", qualified finder m.name),
      ("__objclass__", kind owner), ("__self__", if m.role = .static then nothing else self),
      ("__module__", nothing),
      ("__doc__", ofText? m.doc), ("__text_signature__", ofText? m.signature)]
  | _ => []

/-- Reads a property or a field of a value. Two that every kind has are never set. -/
def read (v : Value) (name : Text) : Except Fault Value :=
  if name = "__class__".toList then .ok (kind v.kindOf)
  else
    match v.properties.find? (·.1.toList = name), v with
    | some (_, w), _ => .ok w
    | none, kind k =>
      .error (if name = "__annotations__".toList then .kindLacks k name else .unset name)
    | none, _ => .error (.lacks v.kindOf name)

/-- Takes a member for a value that has it. -/
def take (v : Value) (owner : Kind) (m : Member) : Except Fault Value :=
  match m.role with
  | .property | .field => v.read m.name
  | .method | .operation => .ok (bound owner m v)
  | .classMethod => .ok (bound owner m (kind v.kindOf))
  | .maker | .static | .constant => .ok (ofMember owner m)

/-- The attribute of a kind: what is read off kinds comes first, then the members that it has for
its values, then what all kinds have. -/
def ofKind (k : Kind) (name : Text) : Except Fault Value :=
  match Kind.kinds.member? name, k.member? name with
  | none, none => .error (.kindLacks k name)
  | some (owner, m), none => (kind k).take owner m
  | shared, some (owner, m) =>
    match shared with
    | some (above, read) =>
      if read.role.isRead then (kind k).take above read else .ok (held owner m)
    | none => .ok (held owner m)
where
  held (owner : Kind) (m : Member) : Value :=
    if m.role = .classMethod then bound owner m (kind k) else ofMember owner m

/-- The attribute of a value that is no kind: a member that its kind has for it. -/
def ofMembers (v : Value) (name : Text) : Except Fault Value :=
  match v.kindOf.member? name with
  | some (owner, m) => v.take owner m
  | none => .error (.lacks v.kindOf name)

/-- What a kind with an argument is asked for itself. Anything else is asked of the kind. -/
def askedOfGeneric : List Text :=
  ["__class__", "__origin__", "__args__", "__unpacked__", "__parameters__",
    "__typing_unpacked_tuple_args__", "__mro_entries__", "__reduce_ex__", "__reduce__",
    "__copy__", "__deepcopy__"]

/-- The attribute of a name. -/
def attributeNamed (v : Value) (name : Text) : Except Fault Value :=
  match v with
  | kind k => ofKind k name
  | generic origin argument =>
    if askedOfGeneric.contains name then (generic origin argument).ofMembers name
    else ofKind origin name
  | v => v.ofMembers name

/-! ## Items -/

/-- The item of a value, or a kind with an argument. -/
def itemAt : Value → Key → Except Fault Value
  | text t, .number n => match t[n]? with
    | some c => .ok (text [c])
    | none => .error (.indexOutOfRange .text)
  | text _, .name _ => .error (.keyInto .text)
  | tuple items, .number n => match items[n]? with
    | some item => .ok (ofItem item)
    | none => .error (.indexOutOfRange .tuple)
  | tuple _, .name _ => .error (.keyInto .tuple)
  | memberTable _, .number n => .error (.unknownNumber n)
  | memberTable k, .name name => match k.own? name with
    | some m => .ok (stored k m)
    | none => .error (.unknownName name)
  | dictionary, .number n => .error (.unknownNumber n)
  | dictionary, .name name => .error (.unknownName name)
  | kind k, key =>
    if k.isGeneric then .ok (generic k key) else .error (.kindNotSubscriptable k)
  | generic origin argument, _ => .error (.hasArgument origin argument)
  | v, _ => .error (.notSubscriptable v.kindOf)

/-- Takes one step into a value. -/
def access (v : Value) : Accessor → Except Fault Value
  | .attribute name => v.attributeNamed name
  | .item key => v.itemAt key
  | .broken fault => .error fault

end Value

/-! ## Texts -/

/-- What the machine has to say about filling in: whether its memory holds a text of a length, and
where it keeps a value. -/
structure Memory where
  holds : Nat → Bool
  place : Value → Text

namespace Value

/-- Items in parentheses; a single one is told from a grouping by a comma. -/
def inParentheses : List Text → Text
  | [t] => "(" ++ t ++ ",)"
  | ts => "(" ++ List.intercalate ", ".toList ts ++ ")"

/-- An item of a tuple as it would be written out. -/
def quotedItem : Item → Text
  | .kind k => k.plain
  | .key key => key.quoted

/-- The text of a member that stands on its own. -/
def memberText (owner : Kind) (m : Member) : Text :=
  let role : Text := match m.role with
    | .operation => "slot wrapper"
    | .property => "attribute"
    | .field => "member"
    | _ => "method"
  "<" ++ role ++ " '" ++ m.name ++ "' of '" ++ owner.name ++ "' objects>"

/-- The text of a member that is bound to a value. -/
def boundText (memory : Memory) (m : Member) (self : Value) : Text :=
  let role : Text :=
    if m.role = .operation then "method-wrapper '" ++ m.name ++ "'"
    else "built-in method " ++ m.name
  "<" ++ role ++ " of " ++ self.kindOf.name ++ " object at " ++ memory.place self ++ ">"

/-- The text of a static member where its kind holds it. -/
def staticText (memory : Memory) (owner : Kind) (m : Member) : Text :=
  "<staticmethod(" ++ boundText memory m (kind owner) ++ ")>"

/-- The text of a value that is neither a text nor a table. -/
def simple (memory : Memory) : Value → Text
  | text t => Text.quoted t
  | number n => Text.ofInt n
  | boolean b => if b then "True" else "False"
  | nothing => "None"
  | kind k => k.plain
  | tuple items => inParentheses (items.map quotedItem)
  | memberTable k => k.plain
  | dictionary => "\x7b\x7d"
  | generic origin argument => origin.withArgument argument
  | member owner m => memberText owner m
  | staticMember owner m => staticText memory owner m
  | bound _ m self => boundText memory m self

/-- The table of the members of a kind. -/
def table (memory : Memory) (k : Kind) : Text :=
  let entries := k.members.map fun m =>
    Text.quoted m.name ++ ": " ++ (stored k m).simple memory
  "\x7b" ++ List.intercalate ", ".toList entries ++ "\x7d"

/-- The text of a value. -/
def plain (memory : Memory) : Value → Text
  | text t => t
  | memberTable k => table memory k
  | v => v.simple memory

/-- A value as it would be written out: texts are in quotes. -/
def quoted (memory : Memory) : Value → Text
  | memberTable k => "mappingproxy(" ++ table memory k ++ ")"
  | v => v.simple memory

/-- A value as it would be written out in ASCII alone. -/
def asciiQuoted (memory : Memory) (v : Value) : Text := Text.asciiOnly (v.quoted memory)

end Value

end Pinpoint.Template
