import Pinpoint.Template.Layout
import Pinpoint.Template.Value

/-!
# Filling in templates

Each field of a template is replaced by the value that it names. A value is a text or a whole
number; accessors take a character of a text or a part of a number, a conversion turns the value
into a text, and a layout says how it is written. What is filled in is never read again. It may hold
surrogates, since a number can be laid out as any code point.

* `fill` — a template with its fields filled in.
-/

namespace Pinpoint.Template

/-- The values of the names that a template may use. -/
abbrev Values := List (Text × Value)

/-- The value that the first part of a name stands for. Fields are never counted: a number, or no
name at all, asks for a position, and there are none. -/
def lookUp (values : Values) (first : Text) : Except Fault Value := do
  if first = [] then throw (.positional 0)
  match ← index? first with
  | some n => throw (.positional n)
  | none =>
    match values.lookup first with
    | some v => return v
    | none => throw (.unknownName first)

/-- The value of a field. -/
def Name.value (values : Values) (name : Name) : Except Fault Value := do
  name.path.foldlM Value.access (← lookUp values name.first)

/-- Turns a value into a text: in quotes, as it is, or in quotes and in ASCII alone. -/
def Value.convert (memory : Memory) (v : Value) : Option Char → Except Fault Value
  | none => .ok v
  | some 'r' => .ok (text (v.quoted memory))
  | some 's' => .ok (text (v.plain memory))
  | some 'a' => .ok (text (v.asciiQuoted memory))
  | some c => .error (.unknownConversion c)

/-- Writes a value in a layout. Only texts and numbers have layouts. -/
def Value.layout (memory : Memory) (v : Value) (spec : Points) : Except Fault Points :=
  if spec = [] then .ok (v.plain memory)
  else
    match v, v.number? with
    | text t, _ => (do (← Spec.parse .text spec).layoutText memory.holds t).mapError .spec
    | v, some n =>
      (do (← Spec.parse v.kindOf spec).layoutNumber memory.holds v.kindOf n).mapError .spec
    | v, none => .error (.noLayout v.kindOf)

/-- Fills one piece in. A field is looked up and converted before its layout, which `nested` fills
in if it holds fields itself, is read. -/
def fillPiece (memory : Memory) (values : Values) (nested : Text → Except Fault Points) :
    Piece → Except Fault Points
  | .char c => .ok [.char c]
  | .broken fault => .error fault
  | .field f => do
    let v ← (← (Name.parse f.name).value values).convert memory f.conversion
    let spec ← if f.isNested then nested f.spec else pure f.spec.points
    v.layout memory spec

/-- Fills a template in, fields in layouts included, `depth` levels deep. -/
def fillWithin (memory : Memory) (values : Values) :
    (depth : Nat) → Text → Except Fault Points
  | 0, _ => .error .tooDeep
  | depth + 1, t => do
    let nested := fillWithin memory values depth
    return (← (pieces t).mapM (fillPiece memory values nested)).flatten

/-- Fills a template in. A layout may hold fields, but their layouts may not. -/
def fill (memory : Memory) (values : Values) (t : Text) : Except Fault Points :=
  fillWithin memory values 2 t

namespace Fault

/-- The wording of a fault. -/
def message : Fault → Points
  | strayClose => "Single '\x7d' encountered in format string"
  | strayOpen => "Single '\x7b' encountered in format string"
  | braceInName => "unexpected '\x7b' in field name"
  | noConversion => "end of string while looking for conversion specifier"
  | afterConversion => "expected ':' after conversion specifier"
  | unclosedSpec => "unmatched '\x7b' in format spec"
  | unclosedField => "expected '\x7d' before end of string"
  | tooDeep => "Max string recursion exceeded"
  | afterBracket => "Only '.' or '[' may follow ']' in format field specifier"
  | noBracket => "Missing ']' in format string"
  | emptyAccessor => "Empty attribute in format string"
  | unknownConversion c =>
    "Unknown conversion specifier " ++
      (if 32 < c.toNat ∧ c.toNat < 127 then [c] else '\\' :: 'x' :: Nat.toDigits 16 c.toNat)
  | unknownName name => Text.quoted name
  | positional n =>
    "Replacement index " ++ Text.ofNat n ++ " out of range for positional args tuple"
  | unknownNumber key => Text.ofNat key
  | indexOutOfRange kind =>
    (if kind = .text then "string".toList else kind.name) ++ " index out of range"
  | lacks kind name => "'" ++ kind.name ++ "' object has no attribute '" ++ name ++ "'"
  | kindLacks kind name => "type object '" ++ kind.name ++ "' has no attribute '" ++ name ++ "'"
  | unset name => name
  | keyInto kind =>
    if kind = .text then "string indices must be integers, not 'str'"
    else kind.name ++ " indices must be integers or slices, not str"
  | notSubscriptable kind => "'" ++ kind.name ++ "' object is not subscriptable"
  | kindNotSubscriptable kind => "type '" ++ kind.name ++ "' is not subscriptable"
  | hasArgument kind argument => kind.withArgument argument ++ " is not a generic class"
  | noLayout kind => "unsupported format string passed to " ++ kind.name ++ ".__format__"
  | spec fault => fault.message

/-- The fault is about a name or a position that has no value. -/
def isUnknown : Fault → Bool
  | unknownName _ => true
  | positional _ => true
  | unknownNumber _ => true
  | indexOutOfRange _ => true
  | _ => false

end Fault

end Pinpoint.Template
