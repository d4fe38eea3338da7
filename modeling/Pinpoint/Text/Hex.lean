import Pinpoint.Text

/-!
# Hexadecimal digits

Escapes write a code point in a fixed number of lower-case hexadecimal digits; messages name it by
its upper-case ones.
-/

namespace Pinpoint.Text

/-- The digit of value `n < 16`, in lower case. -/
def hexDigit (n : Nat) : Char := Nat.digitChar (n % 16)

/-- The last `width` hexadecimal digits of `n`, zeros in front. -/
def hex : (width : Nat) → (n : Nat) → Text
  | 0, _ => []
  | width + 1, n => hex width (n / 16) ++ [hexDigit n]

/-- The number of a character in upper-case hexadecimal digits, four at least. -/
def codePoint (c : Char) : Text :=
  padLeft 4 '0' ((Nat.toDigits 16 c.toNat).map Char.toUpper)

/-- The value of a hexadecimal digit of either case. -/
def hexValue? (c : Char) : Option Nat :=
  if c.isDigit then some (c.toNat - '0'.toNat)
  else if 'a' ≤ c && c ≤ 'f' then some (c.toNat - 'a'.toNat + 10)
  else if 'A' ≤ c && c ≤ 'F' then some (c.toNat - 'A'.toNat + 10)
  else none

end Pinpoint.Text
