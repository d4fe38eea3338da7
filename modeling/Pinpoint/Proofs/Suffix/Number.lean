import Mathlib.Data.List.Basic
import Pinpoint.Suffix

/-!
# Number fragments

What counts as a line or column number, told without the order in which
`Reading.ofText` asks its questions. Every text is a number, too long to be
converted, or refused, and never two of these:

* `ofText_eq_number_iff`, `ofText_eq_overlong_iff`: which texts are converted and
  which are too long for it, with what is read.
* `ofText_eq_refused_iff`: every other text is refused, for the reason that
  `NumberFault.ofText` gives.
* `value_ofNat`, `isNumber_ofNat`: numbers that are written out can be read again.
-/

namespace Pinpoint

/-! ## Classes of fragments -/

/-- One ASCII digit or more, and nothing else. -/
def IsDigits (t : Text) : Prop := t ≠ [] ∧ ∀ c ∈ t, c.isDigit = true

instance (t : Text) : Decidable (IsDigits t) := inferInstanceAs (Decidable (_ ∧ _))

/-- Digits whose value fits in 64 bits. -/
structure IsUnsigned (t : Text) : Prop where
  digits : IsDigits t
  value_le : Decimal.value t ≤ maxNumber

instance (t : Text) : Decidable (IsUnsigned t) :=
  decidable_of_iff (IsDigits t ∧ Decimal.value t ≤ maxNumber)
    ⟨fun h => ⟨h.1, h.2⟩, fun h => ⟨h.digits, h.value_le⟩⟩

/-- A line or column number: an unsigned number that is short enough to be converted. -/
structure IsNumber (t : Text) : Prop extends IsUnsigned t where
  length_le : t.length ≤ Decimal.digitLimit

/-- Digits that are too many to be converted, whatever their value. -/
structure IsOverlong (t : Text) : Prop where
  digits : IsDigits t
  lt_length : Decimal.digitLimit < t.length

/-- Why a fragment that is short enough is no number. -/
def NumberFault.ofText (t : Text) : NumberFault :=
  if t = [] then .empty else if IsDigits t then .tooLarge else .invalidDigit

theorem IsUnsigned.isNumber {t : Text} (h : IsUnsigned t) (hn : ¬ IsOverlong t) : IsNumber t :=
  ⟨h, Nat.le_of_not_lt fun hlt => hn ⟨h.digits, hlt⟩⟩

theorem IsNumber.not_isOverlong {t : Text} (h : IsNumber t) : ¬ IsOverlong t :=
  fun ho => absurd ho.lt_length (Nat.not_lt.2 h.length_le)

/-- Where a text is not overlong, the two notions of a number agree. -/
theorem isUnsigned_iff_isNumber {t : Text} (hn : ¬ IsOverlong t) : IsUnsigned t ↔ IsNumber t :=
  ⟨fun h => h.isNumber hn, IsNumber.toIsUnsigned⟩

theorem isOverlong_replicate {n : Nat} {c : Char} (hc : c.isDigit = true)
    (hn : Decimal.digitLimit < n) : IsOverlong (List.replicate n c) := by
  refine ⟨⟨?_, fun d hd => ?_⟩, ?_⟩
  · rw [Ne, List.replicate_eq_nil_iff]
    omega
  · rwa [List.eq_of_mem_replicate hd]
  · rwa [List.length_replicate]

/-! ## What a fragment reads as -/

theorem ofText_of_isNumber {t : Text} (h : IsNumber t) :
    Reading.ofText t = .number (Decimal.value t) := by
  unfold Reading.ofText
  rw [if_neg h.digits.1, if_neg (by simpa using h.digits.2),
    if_neg (Nat.not_lt.2 h.length_le), if_pos h.value_le]

theorem ofText_of_isOverlong {t : Text} (h : IsOverlong t) :
    Reading.ofText t = .overlong t.length := by
  unfold Reading.ofText
  rw [if_neg h.digits.1, if_neg (by simpa using h.digits.2), if_pos h.lt_length]

theorem ofText_eq_refused {t : Text} (hn : ¬ IsNumber t) (ho : ¬ IsOverlong t) :
    Reading.ofText t = .refused (.ofText t) := by
  unfold Reading.ofText NumberFault.ofText
  by_cases hnil : t = []
  · rw [if_pos hnil, if_pos hnil]
  · rw [if_neg hnil, if_neg hnil]
    by_cases hd : ∀ c ∈ t, c.isDigit = true
    · have hdigits : IsDigits t := ⟨hnil, hd⟩
      have hlen : t.length ≤ Decimal.digitLimit :=
        Nat.le_of_not_lt fun hlt => ho ⟨hdigits, hlt⟩
      have hvalue : ¬ Decimal.value t ≤ maxNumber := fun hle => hn ⟨⟨hdigits, hle⟩, hlen⟩
      rw [if_neg (by simpa using hd), if_neg (Nat.not_lt.2 hlen), if_neg hvalue, if_pos hdigits]
    · rw [if_pos (by simpa using hd), if_neg fun h : IsDigits t => hd h.2]

/-- The three outcomes of a reading, each with the class of texts that it comes from. -/
theorem ofText_cases (t : Text) :
    (IsNumber t ∧ Reading.ofText t = .number (Decimal.value t)) ∨
      (IsOverlong t ∧ Reading.ofText t = .overlong t.length) ∨
      (¬ IsNumber t ∧ ¬ IsOverlong t ∧ Reading.ofText t = .refused (.ofText t)) := by
  by_cases hn : IsNumber t
  · exact .inl ⟨hn, ofText_of_isNumber hn⟩
  · by_cases ho : IsOverlong t
    · exact .inr (.inl ⟨ho, ofText_of_isOverlong ho⟩)
    · exact .inr (.inr ⟨hn, ho, ofText_eq_refused hn ho⟩)

/-- The outcomes exclude each other, so each determines its class. -/
theorem ofText_eq_number_iff {t : Text} {n : Nat} :
    Reading.ofText t = .number n ↔ IsNumber t ∧ n = Decimal.value t := by
  constructor
  · intro h
    obtain ⟨hn, hread⟩ | ⟨-, hread⟩ | ⟨-, -, hread⟩ := ofText_cases t <;> rw [hread] at h
    · exact ⟨hn, (Reading.number.inj h).symm⟩
    · cases h
    · cases h
  · rintro ⟨hn, rfl⟩
    exact ofText_of_isNumber hn

theorem ofText_eq_overlong_iff {t : Text} {k : Nat} :
    Reading.ofText t = .overlong k ↔ IsOverlong t ∧ k = t.length := by
  constructor
  · intro h
    obtain ⟨-, hread⟩ | ⟨ho, hread⟩ | ⟨-, -, hread⟩ := ofText_cases t <;> rw [hread] at h
    · cases h
    · exact ⟨ho, (Reading.overlong.inj h).symm⟩
    · cases h
  · rintro ⟨ho, rfl⟩
    exact ofText_of_isOverlong ho

theorem ofText_eq_refused_iff {t : Text} {fault : NumberFault} :
    Reading.ofText t = .refused fault ↔
      ¬ IsNumber t ∧ ¬ IsOverlong t ∧ NumberFault.ofText t = fault := by
  constructor
  · intro h
    obtain ⟨-, hread⟩ | ⟨-, hread⟩ | ⟨hn, ho, hread⟩ := ofText_cases t <;> rw [hread] at h
    · cases h
    · cases h
    · exact ⟨hn, ho, Reading.refused.inj h⟩
  · rintro ⟨hn, ho, rfl⟩
    exact ofText_eq_refused hn ho

/-! ## Numbers written out -/

theorem value_ofNat (n : Nat) : Decimal.value (Text.ofNat n) = n :=
  calc Decimal.value (Text.ofNat n) = Nat.ofDigitChars 10 (Nat.toDigits 10 n) 0 :=
        Nat.ofDigitChars_eq_foldl.symm
    _ = n := Nat.ofDigitChars_ten_toDigits

theorem isDigits_ofNat (n : Nat) : IsDigits (Text.ofNat n) :=
  ⟨Nat.toDigits_ne_nil, fun _ hc => Nat.isDigit_of_mem_toDigits (by decide) (by decide) hc⟩

/-- A number that fits in 64 bits is written with 20 digits at most. -/
theorem isNumber_ofNat {n : Nat} (h : n ≤ maxNumber) : IsNumber (Text.ofNat n) := by
  have hlength : (Text.ofNat n).length ≤ 20 :=
    (Nat.length_toDigits_le_iff (by decide) (by decide)).2 (Nat.lt_of_le_of_lt h (by decide))
  refine ⟨⟨isDigits_ofNat n, ?_⟩, Nat.le_trans hlength (by decide)⟩
  rwa [value_ofNat]

end Pinpoint
