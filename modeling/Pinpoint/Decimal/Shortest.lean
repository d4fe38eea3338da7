import Pinpoint.Decimal.Binary64

/-!
# The shortest decimal text of a float

A float is written with the fewest digits that read back as the same float; of the candidates with
that many digits, with the one nearest to it. Positions from `10 ^ -4` up to below `10 ^ 16` are
written without an exponent.
-/

namespace Pinpoint.Decimal.Binary64

/-- The least `p` with `num / den < 10 ^ p`, searched upwards from an underestimate. -/
def decimalPoint (num den : Nat) : (steps : Nat) → (start : Int) → Int
  | 0, start => start
  | steps + 1, start =>
    let below := if 0 ≤ start then num < den * Nat.pow 10 start.toNat
      else num * Nat.pow 10 (-start).toNat < den
    if below then start else decimalPoint num den steps (start + 1)

/-- The two whole numbers of `count` digits around the value, on the grid that ends `point` digits
before the decimal point, the nearer first. -/
def neighbours (num den : Nat) (point : Int) (count : Nat) : List Nat :=
  let shift : Int := (count : Int) - point
  let (n, d) :=
    if 0 ≤ shift then (num * Nat.pow 10 shift.toNat, den)
    else (num, den * Nat.pow 10 (-shift).toNat)
  let q := n / d
  if 2 * (n % d) < d ∨ (2 * (n % d) = d ∧ q % 2 = 0) then [q, q + 1] else [q + 1, q]

/-- The fewest digits, at least `count`, that read back, with their decimal point. -/
def shortestFrom (m : Nat) (e : Int) (num den : Nat) (point : Int) : (left count : Nat) → Nat × Int
  | 0, count => (roundDiv num den, count)
  | left + 1, count =>
    let fits (digits : Nat) : Bool :=
      decide (ofDecimal false digits (point - (count : Int)) = .finite false m e)
    match (neighbours num den point count).find? fits with
    | some digits => (digits, point - (count : Int))
    | none => shortestFrom m e num den point left (count + 1)

/-- Digits and exponent (`digits * 10 ^ exponent`) of the shortest decimal of `m * 2 ^ e`. -/
def shortest (m : Nat) (e : Int) : Nat × Int :=
  let (num, den) := ratio m e
  let estimate : Int := ((num.log2 : Int) - (den.log2 : Int)) * 30103 / 100000 - 1
  shortestFrom m e num den (decimalPoint num den 5 estimate) 17 1

/-- Digits without trailing zeros, and the place of the decimal point before them. -/
def digitsAndPoint (digits : Nat) (exponent : Int) : Text × Int :=
  let t := Text.ofNat digits
  (dropTrailingZeros t, exponent + (t.length : Int))

/-- The shortest text of `m * 2 ^ e`. -/
def magnitudeText (m : Nat) (e : Int) : Text :=
  if m = 0 then "0.0"
  else
    let (ds, point) := digitsAndPoint (shortest m e).1 (shortest m e).2
    if point < -3 ∨ 16 < point then
      let mantissa := match ds with
        | [] => []
        | [d] => [d]
        | d :: rest => d :: '.' :: rest
      mantissa ++ ['e'] ++ exponentText (point - 1)
    else if point ≤ 0 then "0." ++ List.replicate (-point).toNat '0' ++ ds
    else if ds.length ≤ point.toNat then
      ds ++ List.replicate (point.toNat - ds.length) '0' ++ ".0"
    else ds.take point.toNat ++ ['.'] ++ ds.drop point.toNat

/-- The shortest text of a float. -/
def text : Binary64 → Text
  | .nan => "nan"
  | .infinite negative => if negative then "-inf" else "inf"
  | .finite negative m e => (if negative then ['-'] else []) ++ magnitudeText m e

end Pinpoint.Decimal.Binary64
