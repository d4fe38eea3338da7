import Pinpoint.Text

/-!
# Ranges of code points

The character tables of this library are lists of closed ranges. Membership is what the tables
mean; the order of the ranges does not matter.
-/

namespace Pinpoint.Text

/-- Closed ranges of code points. -/
abbrev Ranges := List (Nat × Nat)

/-- Code point `n` lies in one of the ranges. -/
def Ranges.has (rs : Ranges) (n : Nat) : Bool := rs.any fun (lo, hi) => lo ≤ n && n ≤ hi

end Pinpoint.Text
