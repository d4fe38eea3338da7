import Pinpoint.Text

/-!
# Decimal numbers

Reading digits as a number, and rounding a quotient of natural numbers to the nearest whole one.
-/

namespace Pinpoint.Decimal

/-- The value of a list of ASCII digits, most significant first. -/
def value (digits : Text) : Nat :=
  digits.foldl (fun n c => 10 * n + (c.toNat - '0'.toNat)) 0

/-- The longest number text, in digits, that is converted from text at all. -/
def digitLimit : Nat := 4300

/-- What is said of a number text of too many digits. -/
def limitMessage (digits : Nat) : Text :=
  "Exceeds the limit (" ++ Text.ofNat digitLimit ++
    " digits) for integer string conversion: value has " ++ Text.ofNat digits ++
    " digits; use sys.set_int_max_str_digits() to increase the limit"

/-- The quotient rounded to the nearest whole number, a half to the even neighbour. -/
def roundDiv (num den : Nat) : Nat :=
  let q := num / den
  let r := num % den
  if 2 * r < den then q
  else if den < 2 * r then q + 1
  else if q % 2 = 0 then q
  else q + 1

/-- A natural number rounded to `count` significant digits, with the exponent of its first digit. A
number with fewer digits is filled up with zeros. -/
def significant (n count : Nat) : Text × Nat :=
  let ds := Text.ofNat n
  if ds.length ≤ count then (ds ++ List.replicate (count - ds.length) '0', ds.length - 1)
  else
    let q := roundDiv n (Nat.pow 10 (ds.length - count))
    if q = Nat.pow 10 count then (Text.ofNat (Nat.pow 10 (count - 1)), ds.length)
    else (Text.ofNat q, ds.length - 1)

/-- Digits without the zeros at their end. -/
def dropTrailingZeros (ds : Text) : Text := (ds.reverse.dropWhile (· = '0')).reverse

/-- A decimal exponent: a sign and at least two digits. -/
def exponentText (e : Int) : Text :=
  let sign : Char := if e < 0 then '-' else '+'
  sign :: Text.padLeft 2 '0' (Text.ofNat e.natAbs)

end Pinpoint.Decimal
