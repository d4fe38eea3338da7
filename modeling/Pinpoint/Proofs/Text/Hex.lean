import Mathlib.Tactic.Ring
import Pinpoint.Text.Hex

/-!
# Hexadecimal digits read back

Digits in a fixed number are written from the last one to the first and read from the
first one to the last.

* `hexValue?_hexDigit`: one digit read back.
* `hex_succ`: the digit that comes first.
-/

namespace Pinpoint.Text

theorem hexValue?_hexDigit (n : Nat) : hexValue? (hexDigit n) = some (n % 16) := by
  have hdigit : ∀ d < 16, hexValue? (Nat.digitChar d) = some d := by decide
  exact hdigit (n % 16) (Nat.mod_lt n (by decide))

theorem hex_succ (width n : Nat) :
    hex (width + 1) n = hexDigit (n / 16 ^ width) :: hex width n := by
  induction width generalizing n with
  | zero => simp [hex]
  | succ width ih =>
    calc hex (width + 2) n = hex (width + 1) (n / 16) ++ [hexDigit n] := rfl
      _ = hexDigit (n / 16 / 16 ^ width) :: (hex width (n / 16) ++ [hexDigit n]) := by
        rw [ih, List.cons_append]
      _ = hexDigit (n / 16 ^ (width + 1)) :: hex (width + 1) n := by
        rw [Nat.div_div_eq_div_mul, ← Nat.pow_succ', hex]

/-- One digit more in front. -/
theorem mod_pow_succ_eq (width n : Nat) :
    n % 16 ^ (width + 1) = n / 16 ^ width % 16 * 16 ^ width + n % 16 ^ width := by
  rw [Nat.pow_succ, Nat.mod_mul, Nat.mul_comm (16 ^ width), Nat.add_comm]

end Pinpoint.Text
