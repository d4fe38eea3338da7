import Pinpoint.Decimal.Binary64
import Pinpoint.Text.Hex
import Pinpoint.Toml.Value

/-!
# Numbers of a document

Whole numbers are written in base ten, or after a mark in base sixteen, eight or two; a fraction or
an exponent makes a float. Single underscores may stand between digits. A number is as long as
these rules allow, and whatever follows is not part of it.
-/

namespace Pinpoint.Toml

/-- The digits at the start of a text, single underscores between them left out, and what
follows. -/
def digitRun (ok : Char → Bool) : Text → Text × Text
  | [] => ([], [])
  | [c] => if ok c then ([c], []) else ([], [c])
  | c :: d :: rest =>
    if ok c then
      if d = '_' then
        match digitRun ok rest with
        | ([], _) => ([c], d :: rest)
        | (ds, after) => (c :: ds, after)
      else
        let (ds, after) := digitRun ok (d :: rest)
        (c :: ds, after)
    else ([], c :: d :: rest)

/-- A digit of a base up to sixteen. -/
def isDigitOf (base : Nat) (c : Char) : Bool :=
  match Text.hexValue? c with
  | some n => n < base
  | none => false

/-- The number that digits spell in a base. -/
def ofDigitsIn (base : Nat) (ds : Text) : Nat :=
  ds.foldl (fun n c => base * n + (Text.hexValue? c).getD 0) 0

/-- The bases that have a mark. -/
def markedBase? : Char → Option Nat
  | 'x' => some 16
  | 'o' => some 8
  | 'b' => some 2
  | _ => none

/-- A whole number with a mark at the start of a text. -/
def takeMarked? : Text → Option (Nat × Text)
  | '0' :: mark :: rest => do
    let base ← markedBase? mark
    match digitRun (isDigitOf base) rest with
    | ([], _) => none
    | (ds, after) => some (ofDigitsIn base ds, after)
  | _ => none

/-- The digits of the whole part: a zero alone, or digits that do not start with one. -/
def takeWhole? : Text → Option (Text × Text)
  | '0' :: rest => some (['0'], rest)
  | t =>
    match digitRun Char.isDigit t with
    | ([], _) => none
    | (ds, after) => some (ds, after)

/-- The digits after a point, if there are some. -/
def takeFraction (t : Text) : Text × Text :=
  match t with
  | '.' :: rest =>
    match digitRun Char.isDigit rest with
    | ([], _) => ([], t)
    | (ds, after) => (ds, after)
  | _ => ([], t)

/-- A sign at the start of a text: whether it is a minus. -/
def takeSign (t : Text) : Bool × Text :=
  match t with
  | '-' :: rest => (true, rest)
  | '+' :: rest => (false, rest)
  | _ => (false, t)

/-- The exponent after its mark, if there is one. -/
def takeExponent (t : Text) : Option Int × Text :=
  match t with
  | c :: rest =>
    if c = 'e' ∨ c = 'E' then
      let (negative, rest) := takeSign rest
      match digitRun Char.isDigit rest with
      | ([], _) => (none, t)
      | (ds, after) =>
        let n : Int := Decimal.value ds
        (some (if negative then -n else n), after)
    else (none, t)
  | [] => (none, t)

/-- A number in base ten, sign and parts apart. -/
structure Decimals where
  negative : Bool
  whole : Text
  fraction : Text
  exponent : Option Int

/-- A number in base ten at the start of a text. -/
def takeDecimals? (t : Text) : Option (Decimals × Text) := do
  let (negative, t) := takeSign t
  let (whole, t) ← takeWhole? t
  let (fraction, t) := takeFraction t
  let (exponent, t) := takeExponent t
  return (⟨negative, whole, fraction, exponent⟩, t)

/-- The value of a number in base ten: whole without a fraction and an exponent. A whole number
with too many digits is given as their count. -/
def Decimals.value (d : Decimals) : Except Nat Value :=
  if d.fraction = [] ∧ d.exponent = none then
    if Decimal.digitLimit < d.whole.length then .error d.whole.length
    else
      let n : Int := Decimal.value d.whole
      .ok (.integer (if d.negative then -n else n))
  else
    let digits := Decimal.value (d.whole ++ d.fraction)
    let exponent := d.exponent.getD 0 - (d.fraction.length : Int)
    .ok (.float (.ofDecimal d.negative digits exponent))

/-- A number at the start of a text. -/
def takeNumber? (t : Text) : Option (Except Nat Value × Text) :=
  match takeMarked? t with
  | some (n, rest) => some (.ok (.integer n), rest)
  | none => (takeDecimals? t).map fun (d, rest) => (d.value, rest)

/-- The floats that are no numbers, and the infinities. -/
def specialFloats : List (String × Decimal.Binary64) := [
  ("inf", .infinite false), ("nan", .nan), ("-inf", .infinite true), ("+inf", .infinite false),
  ("-nan", .nan), ("+nan", .nan)]

/-- A special float at the start of a text. -/
def takeSpecial? (t : Text) : Option (Value × Text) :=
  specialFloats.findSome? fun (name, x) =>
    (Text.dropHead? name.toList t).map fun rest => (.float x, rest)

end Pinpoint.Toml
