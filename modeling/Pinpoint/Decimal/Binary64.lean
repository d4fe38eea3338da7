import Pinpoint.Decimal

/-!
# Binary floating point with 53 bits

A float is not a number, an infinity, or a sign with `mantissa * 2 ^ exponent`, where the mantissa
has exactly 53 bits unless the exponent is the least one. Decimal texts and whole numbers are
rounded to the nearest float, a half to the even mantissa. All arithmetic is exact, on natural
numbers.
-/

namespace Pinpoint.Decimal

/-- A binary floating-point number. -/
inductive Binary64
  | nan
  | infinite (negative : Bool)
  | finite (negative : Bool) (mantissa : Nat) (exponent : Int)
  deriving DecidableEq, Repr

namespace Binary64

/-- The least mantissa of 53 bits. -/
def hiddenBit : Nat := Nat.pow 2 52

/-- The exponent of the smallest floats. -/
def minExponent : Int := -1074

/-- The exponent of the largest floats. -/
def maxExponent : Int := 971

/-- `x * 2 ^ e` as a quotient of natural numbers. -/
def scale (num den : Nat) (e : Int) : Nat × Nat :=
  if 0 ≤ e then (num * Nat.pow 2 e.toNat, den) else (num, den * Nat.pow 2 (-e).toNat)

/-- Rounds `num / den` at the mantissa exponent `e`, stepping up once if it gets a 54th bit. -/
def roundAt (negative : Bool) (num den : Nat) (e : Int) : Binary64 :=
  let e := max e minExponent
  let (n, d) := scale num den (-e)
  let m := roundDiv n d
  let (m, e) := if m = hiddenBit * 2 then (hiddenBit, e + 1) else (m, e)
  if maxExponent < e then .infinite negative else .finite negative m e

/-- The exponent at which `num / den` has a mantissa of 53 bits before rounding. -/
def mantissaExponent (num den : Nat) : Int :=
  let e : Int := (num.log2 : Int) - (den.log2 : Int) - 52
  let (n, d) := scale num den (-e)
  if n / d < hiddenBit then e - 1 else e

/-- The float nearest to `num / den`. -/
def ofRatio (negative : Bool) (num den : Nat) : Binary64 :=
  if num = 0 then .finite negative 0 minExponent
  else roundAt negative num den (mantissaExponent num den)

/-- The float nearest to `digits * 10 ^ exponent`. Exponents far outside the range are settled by
the number of digits alone. -/
def ofDecimal (negative : Bool) (digits : Nat) (exponent : Int) : Binary64 :=
  if digits = 0 then .finite negative 0 minExponent
  else
    let magnitude : Int := exponent + ((Nat.toDigits 10 digits).length : Int)
    if 400 < magnitude then .infinite negative
    else if magnitude < -400 then .finite negative 0 minExponent
    else if 0 ≤ exponent then ofRatio negative (digits * Nat.pow 10 exponent.toNat) 1
    else ofRatio negative digits (Nat.pow 10 (-exponent).toNat)

/-- The absolute value of a finite float as a quotient. -/
def ratio (mantissa : Nat) (exponent : Int) : Nat × Nat := scale mantissa 1 exponent

end Binary64

end Pinpoint.Decimal
