import Mathlib.Data.List.Basic
import Pinpoint.Proofs.Json.Escape
import Pinpoint.Toml.Reader

/-!
# Quoted texts that JSON has written

A document reads the escapes of JSON, with one exception: a character beyond the basic
plane is written as two surrogates, and no surrogate is a character of a document.

* `takeBasic_quote`: a text within the basic plane is read back.
* `takeBasic_quote_of_beyond`: any other text is refused.
* `takeValue_quote_of_isBasic`, `takeValue_quote_of_beyond`: the same of values.
-/

namespace Pinpoint.Toml

open Json (Escaped escapeChar escaped escapeLetters escapeUnit highSurrogate IsVisible)

/-- All characters are in the basic plane. -/
def IsBasic (t : Text) : Prop := ∀ c ∈ t, c.toNat < 0x10000

instance (t : Text) : Decidable (IsBasic t) := inferInstanceAs (Decidable (∀ c ∈ t, _))

variable {multiline : Bool} {rest start : Text}

/-! ## Steps of the reader -/

theorem basicFrom_quote (rest : Text) : basicFrom false .plain ('"' :: rest) = .ok ([], rest) := by
  rw [basicFrom.eq_def]
  rfl

theorem basicFrom_letter {l c : Char} (h : (l, c) ∈ escapeLetters) (rest : Text) :
    basicFrom multiline .plain ('\\' :: l :: rest) = (do
      let (t, after) ← basicFrom multiline .plain rest
      return (c :: t, after)) := by
  have hl : ∀ p ∈ escapeLetters, escapedChar? p.1 = some p.2 ∧ p.1 ≠ ' ' ∧ p.1 ≠ '\t' ∧
      p.1 ≠ '\n' ∧ p.1 ≠ 'u' ∧ p.1 ≠ 'U' := by decide
  obtain ⟨hescaped, hblank, htab, hnewline, hu, hU⟩ := hl _ h
  rw [basicFrom.eq_def]
  simp [hescaped, hblank, htab, hnewline, hu, hU]

theorem basicFrom_visible {c : Char} (h : IsVisible c) (hquote : c ≠ '"') (hslash : c ≠ '\\')
    (rest : Text) :
    basicFrom multiline .plain (c :: rest) = (do
      let (t, after) ← basicFrom multiline .plain rest
      return (c :: t, after)) := by
  have hlegal : isIllegal multiline c = false := by
    have h₁ : ¬ c.toNat < 0x20 := Nat.not_lt.2 h.1
    have h₂ : c.toNat ≠ 0x7F := Nat.ne_of_lt h.2
    simp [isIllegal, h₁, h₂]
  rw [basicFrom]
  · simp [hlegal]
  all_goals simp_all

/-- Digits are read one by one; behind the last of them stands the number that they spell. -/
theorem basicFrom_hex (multiline : Bool) (start rest : Text) {left : Nat} (value n : Nat)
    (hleft : left ≠ 0) :
    basicFrom multiline (.hex left value start) (Text.hex left n ++ rest) =
      match scalar? (value * 16 ^ left + n % 16 ^ left) with
      | none => .error (.fault .notScalar rest)
      | some c => do
        let (t, after) ← basicFrom multiline .plain rest
        return (c :: t, after) := by
  induction left generalizing value with
  | zero => exact absurd rfl hleft
  | succ left ih =>
    have hnumber : value * 16 ^ (left + 1) + n % 16 ^ (left + 1) =
        (16 * value + n / 16 ^ left % 16) * 16 ^ left + n % 16 ^ left := by
      rw [Text.mod_pow_succ_eq, Nat.pow_succ]
      ring
    rw [Text.hex_succ, List.cons_append, basicFrom, Text.hexValue?_hexDigit, hnumber]
    by_cases hlast : left = 0
    · subst hlast
      have hdigit : (16 * value + n / 16 ^ 0 % 16) * 16 ^ 0 + n % 16 ^ 0 = 16 * value + n % 16 := by
        rw [Nat.pow_zero, Nat.div_one, Nat.mul_one, Nat.mod_one, Nat.add_zero]
      rw [hdigit, Nat.pow_zero, Nat.div_one]
      cases hscalar : scalar? (16 * value + n % 16) with
      | none => simp [hscalar, Text.hex]
      | some c => simp [hscalar, Text.hex]
    · simp only [Nat.add_eq_right, hlast, if_false, Nat.add_sub_cancel]
      exact ih _ hlast

theorem basicFrom_unit (n : Nat) (rest : Text) :
    basicFrom false .plain (escapeUnit n ++ rest) =
      match scalar? (n % 0x10000) with
      | none => .error (.fault .notScalar rest)
      | some c => do
        let (t, after) ← basicFrom false .plain rest
        return (c :: t, after) := by
  have hdigits := basicFrom_hex false (Text.hex 4 n ++ rest) rest 0 n (Nat.succ_ne_zero 3)
  rw [Nat.zero_mul, Nat.zero_add] at hdigits
  rw [escapeUnit, List.cons_append, List.cons_append, basicFrom.eq_def]
  simpa using hdigits

theorem scalar?_toNat (c : Char) : scalar? c.toNat = some c := by
  have hvalid : c.toNat.isValidChar := c.valid
  rw [scalar?, if_pos hvalid, Char.ofNat_toNat]

/-! ## Characters -/

theorem basicFrom_escapeChar {c : Char} (h : c.toNat < 0x10000) (rest : Text) :
    basicFrom false .plain (escapeChar c ++ rest) = (do
      let (t, after) ← basicFrom false .plain rest
      return (c :: t, after)) := by
  have hc := escaped c
  generalize escapeChar c = written at hc ⊢
  cases hc with
  | plain hvisible hquote hslash => exact basicFrom_visible hvisible hquote hslash rest
  | letter hl => exact basicFrom_letter hl rest
  | unit _ => rw [basicFrom_unit, Nat.mod_eq_of_lt h, scalar?_toNat]
  | pair hbeyond => omega

theorem basicFrom_escapeChar_of_beyond {c : Char} (h : 0x10000 ≤ c.toNat) (rest : Text) :
    ∃ after, basicFrom false .plain (escapeChar c ++ rest) = .error (.fault .notScalar after) := by
  have hc := escaped c
  generalize escapeChar c = written at hc ⊢
  cases hc with
  | plain hvisible _ _ => exact absurd hvisible.2 (by omega)
  | letter hl =>
    have hletters : ∀ p ∈ escapeLetters, p.2.toNat < 0x10000 := by decide
    exact absurd (hletters _ hl) (Nat.not_lt.2 h)
  | unit hbasic => omega
  | pair _ =>
    have hlt := Json.lt_of_toNat c
    have hsurrogate : ¬ (highSurrogate c % 0x10000).isValidChar := by
      unfold highSurrogate Nat.isValidChar
      omega
    rw [List.append_assoc, basicFrom_unit, scalar?, if_neg hsurrogate]
    exact ⟨_, rfl⟩

/-! ## Texts -/

/-- The escapes of JSON are read back within the basic plane. -/
theorem takeBasic_quote {t : Text} (h : IsBasic t) (rest : Text) :
    takeBasic (t.flatMap escapeChar ++ '"' :: rest) = .ok (t, rest) := by
  unfold takeBasic
  induction t with
  | nil => exact basicFrom_quote rest
  | cons c t ih =>
    obtain ⟨hc, ht⟩ := List.forall_mem_cons.1 h
    rw [List.flatMap_cons, List.append_assoc, basicFrom_escapeChar hc, ih ht]
    rfl

/-- They are refused beyond it. -/
theorem takeBasic_quote_of_beyond {t : Text} (h : ¬ IsBasic t) (rest : Text) :
    ∃ after, takeBasic (t.flatMap escapeChar ++ '"' :: rest) =
      .error (.fault .notScalar after) := by
  unfold takeBasic
  induction t with
  | nil => exact absurd (fun _ => by simp) h
  | cons c t ih =>
    rw [List.flatMap_cons, List.append_assoc]
    by_cases hc : c.toNat < 0x10000
    · obtain ⟨after, hafter⟩ := ih fun ht => h (List.forall_mem_cons.2 ⟨hc, ht⟩)
      rw [basicFrom_escapeChar hc, hafter]
      exact ⟨after, rfl⟩
    · exact basicFrom_escapeChar_of_beyond (Nat.le_of_not_lt hc) _

/-! ## Values -/

/-- A quoted text is a value, unless a quote follows. -/
theorem takeValue_quote (t : Text) {c : Char} (hc : c ≠ '"') (rest : Text) :
    takeValue (Json.quote t ++ c :: rest) =
      asText (takeBasic (t.flatMap escapeChar ++ '"' :: c :: rest)) := by
  rw [takeValue, Json.quote, List.cons_append, takeValueWithin]
  · rw [List.append_assoc]
    rfl
  · intro after heq
    cases t with
    | nil => exact hc (List.cons.inj (List.cons.inj heq).2).1
    | cons first t =>
      obtain ⟨d, tail, hd, hfirst⟩ := Json.exists_escapeChar_eq_cons first
      rw [List.flatMap_cons, hfirst] at heq
      exact hd (List.cons.inj heq).1

theorem takeValue_quote_of_isBasic {t : Text} (h : IsBasic t) {c : Char} (hc : c ≠ '"')
    (rest : Text) : takeValue (Json.quote t ++ c :: rest) = .ok (.text t, c :: rest) := by
  rw [takeValue_quote t hc, takeBasic_quote h]
  rfl

theorem takeValue_quote_of_beyond {t : Text} (h : ¬ IsBasic t) {c : Char} (hc : c ≠ '"')
    (rest : Text) :
    ∃ after, takeValue (Json.quote t ++ c :: rest) = .error (.fault .notScalar after) := by
  obtain ⟨after, hafter⟩ := takeBasic_quote_of_beyond h (c :: rest)
  rw [takeValue_quote t hc, hafter]
  exact ⟨after, rfl⟩

end Pinpoint.Toml
