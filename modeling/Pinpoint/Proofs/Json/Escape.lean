import Mathlib.Data.List.Basic
import Pinpoint.Json
import Pinpoint.Proofs.Text.Hex

/-!
# Escapes of a JSON text

What a character between double quotes is written as, told without the order in which
`Json.escapeChar` asks its questions: as itself, as a letter behind a backslash, by its
number, or by the numbers of two surrogates. Readers of such texts are shown to undo
each of the four.

* `escaped`: every character is written in one of the four ways.
* `visible_of_mem_quote`: nothing but visible ASCII characters is written.
-/

namespace Pinpoint.Json

/-! ## Ways of writing a character -/

/-- The letters behind a backslash, each with the character that it stands for. -/
def escapeLetters : List (Char × Char) := [
  ('"', '"'), ('\\', '\\'), ('n', '\n'), ('r', '\r'), ('t', '\t'), ('b', '\x08'), ('f', '\x0c')]

/-- The first number of a character beyond the basic plane. -/
def highSurrogate (c : Char) : Nat := 0xD800 + (c.toNat - 0x10000) / 0x400

/-- The second number of a character beyond the basic plane. -/
def lowSurrogate (c : Char) : Nat := 0xDC00 + (c.toNat - 0x10000) % 0x400

/-- A visible ASCII character, or the blank. -/
def IsVisible (c : Char) : Prop := 0x20 ≤ c.toNat ∧ c.toNat < 0x7F

instance (c : Char) : Decidable (IsVisible c) := inferInstanceAs (Decidable (_ ∧ _))

/-- How a character between double quotes is written. -/
inductive Escaped : Char → Text → Prop
  | plain {c : Char} (h : IsVisible c) (hquote : c ≠ '"') (hslash : c ≠ '\\') : Escaped c [c]
  | letter {l c : Char} (h : (l, c) ∈ escapeLetters) : Escaped c ['\\', l]
  | unit {c : Char} (h : c.toNat < 0x10000) : Escaped c (escapeUnit c.toNat)
  | pair {c : Char} (h : 0x10000 ≤ c.toNat) :
      Escaped c (escapeUnit (highSurrogate c) ++ escapeUnit (lowSurrogate c))

theorem escaped (c : Char) : Escaped c (escapeChar c) := by
  unfold escapeChar
  split_ifs with hquote hslash hn hr ht hb hf hvisible
  · exact .letter (by subst hquote; decide)
  · exact .letter (by subst hslash; decide)
  · exact .letter (by subst hn; decide)
  · exact .letter (by subst hr; decide)
  · exact .letter (by subst ht; decide)
  · exact .letter (by subst hb; decide)
  · exact .letter (by subst hf; decide)
  · exact .plain hvisible hquote hslash
  · unfold escapeByNumber
    dsimp only
    split_ifs with h
    · exact .unit h
    · exact .pair (Nat.le_of_not_lt h)

/-- What is written for a character does not start with a quote. -/
theorem exists_escapeChar_eq_cons (c : Char) : ∃ d rest, d ≠ '"' ∧ escapeChar c = d :: rest := by
  have hc := escaped c
  generalize escapeChar c = t at hc
  cases hc with
  | plain _ hquote _ => exact ⟨c, [], hquote, rfl⟩
  | letter _ => exact ⟨'\\', _, by decide, rfl⟩
  | unit _ => exact ⟨'\\', _, by decide, rfl⟩
  | pair _ => exact ⟨'\\', _, by decide, rfl⟩

theorem lt_of_toNat (c : Char) : c.toNat < 0x110000 := by
  rcases c.valid with h | h
  · exact Nat.lt_trans h (by decide)
  · exact h.2

/-! ## Characters that are written -/

theorem visible_of_mem_hex {width n : Nat} {c : Char} (h : c ∈ Text.hex width n) :
    IsVisible c := by
  have hdigit : ∀ d < 16, IsVisible (Nat.digitChar d) := by decide
  induction width generalizing n with
  | zero => exact absurd h List.not_mem_nil
  | succ width ih =>
    rcases List.mem_append.1 h with h | h
    · exact ih h
    · rw [List.mem_singleton.1 h]
      exact hdigit (n % 16) (Nat.mod_lt n (by decide))

theorem visible_of_mem_escapeUnit {n : Nat} {c : Char} (h : c ∈ escapeUnit n) : IsVisible c := by
  rcases List.mem_cons.1 h with rfl | h
  · decide
  · rcases List.mem_cons.1 h with rfl | h
    · decide
    · exact visible_of_mem_hex h

theorem visible_of_mem_escapeChar {c d : Char} (h : d ∈ escapeChar c) : IsVisible d := by
  have hc := escaped c
  generalize escapeChar c = t at h hc
  cases hc with
  | plain hvisible _ _ => rwa [List.mem_singleton.1 h]
  | @letter l _ hl =>
    have hletters : ∀ p ∈ escapeLetters, IsVisible p.1 := by decide
    rcases List.mem_cons.1 h with rfl | h
    · decide
    · rw [List.mem_singleton.1 h]
      exact hletters _ hl
  | unit _ => exact visible_of_mem_escapeUnit h
  | pair _ => exact (List.mem_append.1 h).elim visible_of_mem_escapeUnit visible_of_mem_escapeUnit

theorem visible_of_mem_quote {t : Text} {d : Char} (h : d ∈ quote t) : IsVisible d := by
  rcases List.mem_cons.1 h with rfl | h
  · decide
  · rcases List.mem_append.1 h with h | h
    · obtain ⟨c, -, hd⟩ := List.mem_flatMap.1 h
      exact visible_of_mem_escapeChar hd
    · rw [List.mem_singleton.1 h]
      decide

end Pinpoint.Json
