import Mathlib.Data.List.Basic
import Pinpoint.Text.CodePoint

/-!
# What stands in for surrogates

Code points that cannot be encoded are shown with a character in the place of every surrogate. That
character is none that means anything in markup or in a command line.

* `Points.standIn_ne`: what that character is not.
* `Points.getLast?_veiled`: the last of such characters.
-/

namespace Pinpoint.Points

variable {p : Points} {c : Char}

/-- What stands in for surrogates is not among the first characters, NUL apart. -/
theorem standIn_ne (hnul : c ≠ Text.nul) (hc : c.toNat < 0xF0000) : p.standIn ≠ c := by
  rw [standIn]
  intro h
  cases hfind : ((List.range (p.length + 1)).map fun n => Char.ofNat (0xF0000 + n)).find?
      (.char · ∉ p) with
  | none =>
    rw [hfind] at h
    exact hnul h.symm
  | some d =>
    rw [hfind, Option.getD_some] at h
    obtain ⟨n, -, hn⟩ := List.mem_map.1 (List.mem_of_find?_eq_some hfind)
    rw [h] at hn
    by_cases hvalid : (0xF0000 + n).isValidChar
    · have hnat : c.toNat = 0xF0000 + n := hn ▸ CodePoint.toNat_char_ofNat hvalid
      omega
    · rw [Char.ofNat, dif_neg hvalid] at hn
      exact hnul hn.symm

/-- A character in the place of surrogates is not one of these. -/
theorem getLast?_veiled (hnul : c ≠ Text.nul) (hc : c.toNat < 0xF0000)
    (h : p.getLast? ≠ some (.char c)) : p.veiled.getLast? ≠ some c := by
  rw [veiled, List.getLast?_map]
  intro hlast
  obtain ⟨d, hd, hchar⟩ := Option.map_eq_some_iff.1 hlast
  cases d with
  | char d =>
    cases hchar
    exact h hd
  | surrogate n => exact standIn_ne hnul hc hchar

end Pinpoint.Points
