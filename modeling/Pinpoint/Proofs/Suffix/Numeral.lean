import Mathlib.Data.Nat.Digits.Defs
import Pinpoint.Proofs.Suffix.Number

/-!
# Numbers read and written

A fragment is read from its first digit on; its value is the sum of its digits by
their places, and writing that value gives the fragment back, less the zeros in
front that say nothing.

* `value_eq_placeValue`: reading digit by digit is counting digits by their places.
* `ofNat_value`: a value is written as the digits it was read from, without
  superfluous zeros.
* `refused_empty_iff`, `refused_invalidDigit_iff`, `refused_tooLarge_iff`: which
  fragments are refused; `refusedFor_message_iff`: the words tell why.
* `fragments_read_and_written`: all of this up to the largest number and the longest
  fragment.
-/

namespace Pinpoint

/-! ## Specification -/

/-- The number that a decimal digit stands for. -/
def Decimal.digit (c : Char) : ℕ := c.toNat - '0'.toNat

/-- The number that digits stand for, each of them counted by its place from the right. -/
def Decimal.placeValue (t : Text) : ℕ := Nat.ofDigits 10 (t.reverse.map Decimal.digit)

/-- Digits without superfluous zeros: a zero in front of another digit is left out. -/
def Decimal.dropLeadingZeros : Text → Text
  | [] => []
  | [c] => [c]
  | c :: d :: t => if c = '0' then dropLeadingZeros (d :: t) else c :: d :: t

/-- A fragment is refused, and this is what is said of it. -/
def RefusedFor (t cause : Text) : Prop :=
  ∃ fault, Reading.ofText t = .refused fault ∧ fault.message = cause

/-! ## Place values -/

theorem value_eq_placeValue (t : Text) : Decimal.value t = Decimal.placeValue t :=
  calc Decimal.value t
    _ = t.reverse.foldr (fun c n => 10 * n + Decimal.digit c) 0 := List.foldl_eq_foldr_reverse
    _ = t.reverse.foldr (fun c n => Decimal.digit c + 10 * n) 0 := by simp only [Nat.add_comm]
    _ = Decimal.placeValue t := by
      rw [Decimal.placeValue, Nat.ofDigits_eq_foldr, List.foldr_map]
      rfl

/-! ## Zeros in front -/

theorem value_replicate_zero_append (k : ℕ) (t : Text) :
    Decimal.value (List.replicate k '0' ++ t) = Decimal.value t := by
  induction k with
  | zero => rfl
  | succ k ih =>
    -- a zero that is read first leaves the count at zero
    rw [List.replicate_succ, List.cons_append]
    exact ih

theorem isDigits_replicate_zero_append (k : ℕ) {t : Text} (h : IsDigits t) :
    IsDigits (List.replicate k '0' ++ t) := by
  refine ⟨?_, fun c hc => ?_⟩
  · simp [h.1]
  · rcases List.mem_append.1 hc with hzero | ht
    · rw [List.eq_of_mem_replicate hzero]
      decide
    · exact h.2 c ht

/-! ## Values written out -/

/-- The digits stand one after the other, from zero to nine. -/
theorem toNat_of_isDigit {c : Char} (h : c.isDigit = true) :
    c.toNat = 48 + Decimal.digit c ∧ Decimal.digit c < 10 := by
  rw [Char.isDigit, Bool.and_eq_true, decide_eq_true_eq, decide_eq_true_eq] at h
  have hge : 48 ≤ c.toNat := h.1
  have hle : c.toNat ≤ 57 := h.2
  have hdigit : Decimal.digit c = c.toNat - 48 := rfl
  omega

theorem digitChar_digit {c : Char} (h : c.isDigit = true) : (Decimal.digit c).digitChar = c := by
  obtain ⟨hcode, hlt⟩ := toNat_of_isDigit h
  apply Char.toNat_inj.1
  rw [Nat.toNat_digitChar_of_lt_ten hlt, hcode]

/-- A single digit is written as itself. -/
theorem ofNat_digit {c : Char} (h : c.isDigit = true) : Text.ofNat (Decimal.digit c) = [c] := by
  rw [Text.ofNat, Nat.toDigits_of_lt_base (toNat_of_isDigit h).2, digitChar_digit h]

theorem digit_pos {c : Char} (h : c.isDigit = true) (hc : c ≠ '0') : 0 < Decimal.digit c := by
  apply Nat.pos_of_ne_zero
  intro hzero
  exact hc (by rw [← digitChar_digit h, hzero, Nat.digitChar_eq_zero])

/-- Digits that are read behind a number other than zero are written behind it. -/
theorem ofNat_foldl {n : ℕ} (hn : 0 < n) {t : Text} (ht : ∀ c ∈ t, c.isDigit = true) :
    Text.ofNat (t.foldl (fun m c => 10 * m + Decimal.digit c) n) = Text.ofNat n ++ t := by
  induction t generalizing n with
  | nil => simp
  | cons c t ih =>
    have hc : c.isDigit = true := ht c List.mem_cons_self
    have hlast : Text.ofNat (10 * n + Decimal.digit c) = Text.ofNat n ++ [c] := by
      rw [← ofNat_digit hc]
      exact (Nat.toDigits_append_toDigits (by decide) hn (toNat_of_isDigit hc).2).symm
    rw [List.foldl_cons, ih (by omega) fun d hd => ht d (List.mem_cons_of_mem c hd), hlast,
      List.append_assoc, List.singleton_append]

theorem ofNat_value {t : Text} (h : IsDigits t) :
    Text.ofNat (Decimal.value t) = Decimal.dropLeadingZeros t := by
  obtain ⟨hne, hdigit⟩ := h
  fun_induction Decimal.dropLeadingZeros t with
  | case1 => exact absurd rfl hne
  | case2 c =>
    have hvalue : Decimal.value [c] = Decimal.digit c := by simp [Decimal.value, Decimal.digit]
    rw [hvalue]
    exact ofNat_digit (hdigit c (by simp))
  | case3 d t ih =>
    exact ih (by simp) fun c hc => hdigit c (List.mem_cons_of_mem _ hc)
  | case4 c d t hc =>
    have hfirst : c.isDigit = true := hdigit c List.mem_cons_self
    have hvalue : Decimal.value (c :: d :: t) =
        (d :: t).foldl (fun m c => 10 * m + Decimal.digit c) (Decimal.digit c) := by
      simp [Decimal.value, Decimal.digit]
    rw [hvalue, ofNat_foldl (digit_pos hfirst hc) fun e he => hdigit e (List.mem_cons_of_mem c he),
      ofNat_digit hfirst, List.singleton_append]

/-! ## Refusals -/

theorem NumberFault.message_injective : Function.Injective NumberFault.message := by
  intro fault fault'
  cases fault <;> cases fault' <;> decide

/-- The words of a refusal tell the fault. -/
theorem refusedFor_message_iff {t : Text} {fault : NumberFault} :
    RefusedFor t fault.message ↔ Reading.ofText t = .refused fault := by
  constructor
  · rintro ⟨fault', hread, hmessage⟩
    rwa [NumberFault.message_injective hmessage] at hread
  · intro hread
    exact ⟨fault, hread, rfl⟩

theorem NumberFault.ofText_eq_empty_iff {t : Text} : NumberFault.ofText t = .empty ↔ t = [] := by
  unfold NumberFault.ofText
  split_ifs with hnil <;> simp [hnil]

theorem NumberFault.ofText_eq_tooLarge_iff {t : Text} :
    NumberFault.ofText t = .tooLarge ↔ IsDigits t := by
  unfold NumberFault.ofText
  split_ifs with hnil hdigits
  · simp [hnil, IsDigits]
  · simp [hdigits]
  · simp [hdigits]

theorem NumberFault.ofText_eq_invalidDigit_iff {t : Text} :
    NumberFault.ofText t = .invalidDigit ↔ t ≠ [] ∧ ¬ IsDigits t := by
  unfold NumberFault.ofText
  split_ifs with hnil hdigits <;> simp [*]

theorem refused_empty_iff {t : Text} : Reading.ofText t = .refused .empty ↔ t = [] := by
  rw [ofText_eq_refused_iff, NumberFault.ofText_eq_empty_iff]
  constructor
  · exact fun h => h.2.2
  · rintro rfl
    exact ⟨fun h => h.digits.1 rfl, fun h => h.digits.1 rfl, rfl⟩

theorem refused_invalidDigit_iff {t : Text} :
    Reading.ofText t = .refused .invalidDigit ↔ t ≠ [] ∧ ∃ c ∈ t, c.isDigit = false := by
  have hother (hne : t ≠ []) : ¬ IsDigits t ↔ ∃ c ∈ t, c.isDigit = false := by
    simp [IsDigits, hne]
  rw [ofText_eq_refused_iff, NumberFault.ofText_eq_invalidDigit_iff]
  constructor
  · rintro ⟨-, -, hne, hdigits⟩
    exact ⟨hne, (hother hne).1 hdigits⟩
  · rintro ⟨hne, hc⟩
    have hdigits : ¬ IsDigits t := (hother hne).2 hc
    exact ⟨fun h => hdigits h.digits, fun h => hdigits h.digits, hne, hdigits⟩

theorem refused_tooLarge_iff {t : Text} :
    Reading.ofText t = .refused .tooLarge ↔
      IsDigits t ∧ t.length ≤ Decimal.digitLimit ∧ maxNumber < Decimal.value t := by
  rw [ofText_eq_refused_iff, NumberFault.ofText_eq_tooLarge_iff]
  constructor
  · rintro ⟨hn, ho, hdigits⟩
    have hlength : t.length ≤ Decimal.digitLimit := Nat.le_of_not_lt fun h => ho ⟨hdigits, h⟩
    exact ⟨hdigits, hlength, Nat.lt_of_not_le fun h => hn ⟨⟨hdigits, h⟩, hlength⟩⟩
  · rintro ⟨hdigits, hlength, hvalue⟩
    exact ⟨fun h => Nat.not_le_of_lt hvalue h.value_le,
      fun h => Nat.not_le_of_lt h.lt_length hlength, hdigits⟩

/-! ## Reading and writing at the bounds -/

/-- Zeros in front change nothing, as long as there are not too many of them. -/
theorem ofText_replicate_zero_append {n k : ℕ} (hn : n ≤ maxNumber)
    (hk : k + (Text.ofNat n).length ≤ Decimal.digitLimit) :
    Reading.ofText (List.replicate k '0' ++ Text.ofNat n) = .number n := by
  have hvalue : Decimal.value (List.replicate k '0' ++ Text.ofNat n) = n := by
    rw [value_replicate_zero_append, value_ofNat]
  refine ofText_eq_number_iff.2 ⟨⟨⟨?_, ?_⟩, ?_⟩, hvalue.symm⟩
  · exact isDigits_replicate_zero_append k (isDigits_ofNat n)
  · rwa [hvalue]
  · rwa [List.length_append, List.length_replicate]

/-- A text is read as a number exactly if it is one of at most 4300 ASCII digits whose value fits in
    64 bits. Otherwise it is refused for what is wrong with it, unless it has more digits than are
    converted at all, where it is neither read nor refused. Zeros in front change nothing of what is
    read, and are left out where it is written again. -/
theorem fragments_read_and_written (t : Text) :
    (∀ n, Reading.ofText t = .number n ↔
      IsDigits t ∧ t.length ≤ 4300 ∧ Decimal.placeValue t = n ∧ n ≤ 2 ^ 64 - 1) ∧
    (RefusedFor t "number too large to fit in target type" ↔
      IsDigits t ∧ t.length ≤ 4300 ∧ 2 ^ 64 - 1 < Decimal.placeValue t) ∧
    (RefusedFor t "invalid digit found in string" ↔ t ≠ [] ∧ ∃ c ∈ t, c.isDigit = false) ∧
    (RefusedFor t "cannot parse integer from empty string" ↔ t = []) ∧
    (∀ k, Reading.ofText t = .overlong k ↔ IsDigits t ∧ 4300 < t.length ∧ k = t.length) ∧
    (∀ n k, n ≤ 2 ^ 64 - 1 → k + (Text.ofNat n).length ≤ 4300 →
      Reading.ofText (List.replicate k '0' ++ Text.ofNat n) = .number n) ∧
    (∀ n, Reading.ofText t = .number n → Text.ofNat n = Decimal.dropLeadingZeros t) := by
  rw [← value_eq_placeValue]
  refine ⟨fun n => ?_, ?_, ?_, ?_, fun k => ?_, fun n k hn hk => ?_, fun n h => ?_⟩
  · rw [ofText_eq_number_iff]
    constructor
    · rintro ⟨hn, rfl⟩
      exact ⟨hn.digits, hn.length_le, rfl, hn.value_le⟩
    · rintro ⟨hdigits, hlength, rfl, hvalue⟩
      exact ⟨⟨⟨hdigits, hvalue⟩, hlength⟩, rfl⟩
  · exact refusedFor_message_iff.trans refused_tooLarge_iff
  · exact refusedFor_message_iff.trans refused_invalidDigit_iff
  · exact refusedFor_message_iff.trans refused_empty_iff
  · rw [ofText_eq_overlong_iff]
    constructor
    · rintro ⟨ho, hk⟩
      exact ⟨ho.digits, ho.lt_length, hk⟩
    · rintro ⟨hdigits, hlength, hk⟩
      exact ⟨⟨hdigits, hlength⟩, hk⟩
  · exact ofText_replicate_zero_append hn hk
  · obtain ⟨hn, rfl⟩ := ofText_eq_number_iff.1 h
    exact ofNat_value hn.digits

/-- The largest number is read from the longest fragment, which its zeros make it, and zeros in
    front are not written again. -/
theorem largest_number_in_longest_fragment :
    4280 + (Text.ofNat (2 ^ 64 - 1)).length ≤ 4300 ∧
      Reading.ofText (List.replicate 4280 '0' ++ Text.ofNat (2 ^ 64 - 1)) = .number (2 ^ 64 - 1) ∧
      Reading.ofText "0070" = .number 70 ∧
      Text.ofNat 70 = Decimal.dropLeadingZeros "0070" := by
  have hlength : 4280 + (Text.ofNat (2 ^ 64 - 1)).length ≤ 4300 := by decide
  have hread : Reading.ofText "0070" = .number 70 := by decide
  obtain ⟨-, -, -, -, -, hzeros, hwritten⟩ := fragments_read_and_written "0070"
  exact ⟨hlength, hzeros _ _ le_rfl hlength, hread, hwritten _ hread⟩

end Pinpoint
