import Pinpoint.Text.Blank
import Pinpoint.Text.Digit

/-!
# Whole numbers of option values

A whole number may have blanks around it, a sign, and single underscores between its digits. A
fraction may follow it as long as it is zero. This is how people may write the value of an option;
documents and suffixes have stricter rules of their own.

**Limits.** Readers of options differ in what they let pass, a fraction above all; this is one of
them.

* `Text.toInt?` — the number that a text spells.
-/

namespace Pinpoint.Text

/-- A blank around a number: ASCII separators are none. -/
def isNumberBlank (c : Char) : Bool := isBlank c && !(0x1C ≤ c.toNat && c.toNat ≤ 0x1F)

/-- Drops the blanks around a number. -/
def trimNumber (t : Text) : Text :=
  ((t.dropWhile isNumberBlank).reverse.dropWhile isNumberBlank).reverse

/-- Reads digits with single underscores between them; `afterDigit` says whether an underscore may
come now. -/
def takeDigitValues? : (afterDigit : Bool) → Text → Option (List Nat)
  | afterDigit, [] => if afterDigit then some [] else none
  | afterDigit, c :: rest =>
    if c = '_' then if afterDigit then takeDigitValues? false rest else none
    else if c.isDigit then
      (takeDigitValues? true rest).map ((c.toNat - '0'.toNat) :: ·)
    else none

/-- The natural number that digits spell. -/
def toNat? (t : Text) : Option Nat :=
  (takeDigitValues? false t).map (·.foldl (fun n d => 10 * n + d) 0)

/-- A fraction that is zero: a point and at least one digit, every one of them a zero. -/
def isZeroFraction : Text → Bool
  | '.' :: c :: rest => (c :: rest).all (· = '0')
  | _ => false

/-- The whole part of a number, if its fraction is zero or missing. -/
def wholePart? (t : Text) : Option Text :=
  let fraction := t.dropWhile (· ≠ '.')
  if fraction = [] ∨ isZeroFraction fraction then some (t.takeWhile (· ≠ '.')) else none

/-- The longest text that is read as a number. -/
def maxNumberLength : Nat := 4300

/-- The whole number that a text spells. -/
def toInt? (t : Text) : Option Int := do
  let t := trimNumber t
  if maxNumberLength < t.length then none
  else
    match ← wholePart? t with
    | '-' :: digits => (toNat? digits).map fun n => -(n : Int)
    | '+' :: digits => (toNat? digits).map Int.ofNat
    | digits => (toNat? digits).map Int.ofNat

end Pinpoint.Text
