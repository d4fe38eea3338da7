import Pinpoint.Template.Kind
import Pinpoint.Text.CodePoint
import Pinpoint.Text.Digit

/-!
# Format specifications

A field of a template may say how its value is laid out:
`[[fill]align][sign][z][#][0][width][grouping][.precision][type]`. `Spec.parse` reads that; laying
out is in `Template.Layout`. A specification may itself have been put together from fields, and may
hold surrogates then.
-/

namespace Pinpoint.Template

/-- On which side a value is filled up. -/
inductive Align
  | left
  | right
  | center
  | afterSign
  deriving DecidableEq, Repr

/-- The alignment that a character asks for. -/
def Align.ofPoint? : CodePoint → Option Align
  | .char '<' => some left
  | .char '>' => some right
  | .char '^' => some center
  | .char '=' => some afterSign
  | _ => none

/-- What stands before a number that is not negative. -/
inductive Sign
  | plus
  | minus
  | space
  deriving DecidableEq, Repr

/-- The sign that a character asks for. -/
def Sign.ofPoint? : CodePoint → Option Sign
  | .char '+' => some plus
  | .char '-' => some minus
  | .char ' ' => some space
  | _ => none

/-- What separates groups of digits. -/
inductive Grouping
  | comma
  | underscore
  deriving DecidableEq, Repr

/-- The separator itself. -/
def Grouping.char : Grouping → Char
  | comma => ','
  | underscore => '_'

/-- How a value is laid out. -/
structure Spec where
  fill : CodePoint := .char ' '
  align : Align
  sign : Option Sign := none
  noNegativeZero : Bool := false
  alternate : Bool := false
  width : Option Nat := none
  grouping : Option Grouping := none
  precision : Option Nat := none
  type : Char
  deriving DecidableEq, Repr

/-- Why a value cannot be laid out. -/
inductive SpecFault
  | tooManyDigits
  | bothGroupings
  | missingPrecision
  | invalid (spec : Points) (kind : Kind)
  | groupingWithType (grouping : Grouping) (type : CodePoint)
  | unknownType (type : CodePoint) (kind : Kind)
  | textSign
  | textSpace
  | textNegativeZero
  | textAlternate
  | textAfterSign
  | numberPrecision
  | numberNegativeZero
  | characterSign
  | characterAlternate
  | characterRange
  | characterTooLarge
  | precisionTooLarge
  | floatTooLarge
  | tooLong
  deriving DecidableEq, Repr

/-- A type letter in a message; characters that are not printable ASCII show by number. -/
def shownType (c : CodePoint) : Text :=
  if 32 < c.toNat ∧ c.toNat < 128 then c.escaped else '\\' :: 'x' :: Nat.toDigits 16 c.toNat

/-- The wording of a fault. A specification that nobody can read is quoted as it is, surrogates
included. -/
def SpecFault.message : SpecFault → Points
  | tooManyDigits => "Too many decimal digits in format string"
  | bothGroupings => "Cannot specify both ',' and '_'."
  | missingPrecision => "Format specifier missing precision"
  | invalid spec kind =>
    "Invalid format specifier '" ++ spec ++ "' for object of type '" ++ kind.name ++ "'"
  | groupingWithType g type =>
    "Cannot specify '" ++ [g.char] ++ "' with '" ++ shownType type ++ "'."
  | unknownType type kind =>
    "Unknown format code '" ++ shownType type ++ "' for object of type '" ++ kind.name ++ "'"
  | textSign => "Sign not allowed in string format specifier"
  | textSpace => "Space not allowed in string format specifier"
  | textNegativeZero => "Negative zero coercion (z) not allowed in string format specifier"
  | textAlternate => "Alternate form (#) not allowed in string format specifier"
  | textAfterSign => "'=' alignment not allowed in string format specifier"
  | numberPrecision => "Precision not allowed in integer format specifier"
  | numberNegativeZero => "Negative zero coercion (z) not allowed in integer format specifier"
  | characterSign => "Sign not allowed with integer format specifier 'c'"
  | characterAlternate => "Alternate form (#) not allowed with integer format specifier 'c'"
  | characterRange => "%c arg not in range(0x110000)"
  | characterTooLarge => "Python int too large to convert to C long"
  | precisionTooLarge => "precision too big"
  | floatTooLarge => "int too large to convert to float"
  | tooLong => []

/-- A fault of magnitude: the value itself is too large for its layout. -/
def SpecFault.isOverflow : SpecFault → Bool
  | characterRange => true
  | characterTooLarge => true
  | floatTooLarge => true
  | _ => false

/-- The largest width, precision or index. -/
def maxCount : Nat := 0x7FFFFFFFFFFFFFFF

/-- The digits of any script at the start of some code points, as numbers, and what follows them. -/
def splitDigits : Points → List Nat × Points
  | [] => ([], [])
  | c :: rest =>
    match c.char?.bind Text.digitValue? with
    | none => ([], c :: rest)
    | some d => (d :: (splitDigits rest).1, (splitDigits rest).2)

/-- The number that digits spell. -/
def ofDigitValues (ds : List Nat) : Nat := ds.foldl (fun n d => 10 * n + d) 0

/-- The count at the start of some code points, if there is one, and what follows it. -/
def takeCount (t : Points) : Except SpecFault (Option Nat × Points) :=
  let (ds, rest) := splitDigits t
  if ds = [] then .ok (none, rest)
  else if maxCount < ofDigitValues ds then .error .tooManyDigits
  else .ok (some (ofDigitValues ds), rest)

/-- A fill character and an alignment in front of a specification. -/
def takeAlign : Points → Option (Option CodePoint × Align) × Points
  | c :: d :: rest =>
    match Align.ofPoint? d with
    | some a => (some (some c, a), rest)
    | none =>
      match Align.ofPoint? c with
      | some a => (some (none, a), d :: rest)
      | none => (none, c :: d :: rest)
  | [c] =>
    match Align.ofPoint? c with
    | some a => (some (none, a), [])
    | none => (none, [c])
  | [] => (none, [])

/-- A sign in front of what is left. -/
def takeSign : Points → Option Sign × Points
  | c :: rest =>
    match Sign.ofPoint? c with
    | some s => (some s, rest)
    | none => (none, c :: rest)
  | [] => (none, [])

/-- Whether a character stands in front of what is left, and what follows it. -/
def takeChar (c : Char) : Points → Bool × Points
  | d :: rest => if d = .char c then (true, rest) else (false, d :: rest)
  | [] => (false, [])

/-- A grouping in front of what is left. -/
def takeGrouping (t : Points) : Except SpecFault (Option Grouping × Points) :=
  let (comma, t) := takeChar ',' t
  let (underscore, t) := takeChar '_' t
  if comma && underscore then .error .bothGroupings
  else if underscore && (takeChar ',' t).1 then .error .bothGroupings
  else
    .ok (if comma then some .comma else if underscore then some .underscore else none, t)

/-- A precision in front of what is left. -/
def takePrecision (t : Points) : Except SpecFault (Option Nat × Points) := do
  let (dot, t) := takeChar '.' t
  if dot then
    match ← takeCount t with
    | (none, _) => throw .missingPrecision
    | (some n, rest) => return (some n, rest)
  else return (none, t)

/-- The types that digits may be grouped for. A NUL is let through here, though it is no type. -/
def mayGroup (g : Grouping) (type : CodePoint) : Bool :=
  type.char?.any fun c =>
    (Text.nul :: "defgEG%F".toList).contains c || (g = .underscore && "boxX".toList.contains c)

namespace Spec

/-- The alignment of a kind of value where none is asked for. -/
def defaultAlign (kind : Kind) : Align := if kind.isNumber then .right else .left

/-- The type of a kind of value where none is asked for. -/
def defaultType (kind : Kind) : Char := if kind.isNumber then 'd' else 's'

/-- The type that is left of a specification: the default one, if nothing is. -/
def takeType (kind : Kind) (spec : Points) : Points → Except SpecFault CodePoint
  | [] => .ok (.char (defaultType kind))
  | [c] => .ok c
  | _ => .error (.invalid spec kind)

/-- Refuses a grouping of digits that the type does not have. -/
def ensureGroups (grouping : Option Grouping) (type : CodePoint) : Except SpecFault Unit :=
  match grouping with
  | some g => if mayGroup g type then .ok () else .error (.groupingWithType g type)
  | none => .ok ()

/-- The letter of a type. No surrogate is a type of any value. -/
def letterOf (kind : Kind) (type : CodePoint) : Except SpecFault Char :=
  match type with
  | .char c => .ok c
  | type => .error (.unknownType type kind)

/-- Reads how a value of a kind is laid out. A zero before the width fills with zeros, after the
sign of a number, unless something else is asked for. -/
def parse (kind : Kind) (spec : Points) : Except SpecFault Spec := do
  let (asked, t) := takeAlign spec
  let (sign, t) := takeSign t
  let (noNegativeZero, t) := takeChar 'z' t
  let (alternate, t) := takeChar '#' t
  let fill := asked.bind (·.1)
  let (zero, t) := if fill.isNone then takeChar '0' t else (false, t)
  let (width, t) ← takeCount t
  let (grouping, t) ← takeGrouping t
  let (precision, t) ← takePrecision t
  let type ← takeType kind spec t
  ensureGroups grouping type
  let type ← letterOf kind type
  let align := match asked with
    | some (_, a) => a
    | none => if zero && kind.isNumber then .afterSign else defaultAlign kind
  return {
    fill := fill.getD (.char (if zero then '0' else ' '))
    align, sign, noNegativeZero, alternate, width, grouping, precision, type }

end Spec

end Pinpoint.Template
