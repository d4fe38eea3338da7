import Mathlib.Data.List.Basic
import Pinpoint.Text.CodePoint
import Pinpoint.Text.Utf8

/-!
# Bytes of a text read back

The bytes of a character start with one that announces how many follow, and each of the
others adds six bits to its number. What has been written is read as it was, without a
fault, and nothing else is read as a text.

* `decodeFirst_encodeChar`, `encodeChar_of_decodeFirst`: one character.
* `decode_encode`: a whole text.
* `decode_eq_ok_iff`: the bytes that are read as a text are its own.
-/

namespace Pinpoint.Utf8

open CodePoint (toNat_char_ofNat)

/-! ## Bytes of one character -/

theorem toNat_ofNat_of_lt {n : Nat} (h : n < 256) : (UInt8.ofNat n).toNat = n := by
  simp [Nat.mod_eq_of_lt h]

theorem follow_zero (bits lo hi seen : Nat) (rest : List UInt8) :
    follow bits 0 lo hi seen rest = .ok (bits, seen) := by
  cases rest <;> rfl

/-- A byte that continues a sequence adds six bits. -/
theorem follow_succ {bits count lo hi seen m : Nat} (hlo : lo ≤ 0x80 + m) (hhi : 0x80 + m ≤ hi)
    (hm : m < 64) (rest : List UInt8) :
    follow bits (count + 1) lo hi seen (UInt8.ofNat (0x80 + m) :: rest) =
      follow (bits * 64 + m) count 0x80 0xBF (seen + 1) rest := by
  rw [follow, toNat_ofNat_of_lt (by omega), if_pos ⟨hlo, hhi⟩, Nat.add_sub_cancel_left]

theorem lead_of_two {b : Nat} (h : 0xC2 ≤ b) (h' : b < 0xE0) :
    lead b = .sequence (b - 0xC0) 1 0x80 0xBF := by
  unfold lead
  split_ifs <;> first | omega | rfl

/-- The first of three or four bytes may narrow the second one: no longer form than needed is read,
    no surrogate, and nothing beyond the last scalar value. -/
theorem lead_of_three {b : Nat} (h : 0xE0 ≤ b) (h' : b < 0xF0) :
    lead b = .sequence (b - 0xE0) 2 (if b = 0xE0 then 0xA0 else 0x80)
      (if b = 0xED then 0x9F else 0xBF) := by
  unfold lead
  split_ifs <;> first | omega | simp_all

theorem lead_of_four {b : Nat} (h : 0xF0 ≤ b) (h' : b ≤ 0xF4) :
    lead b = .sequence (b - 0xF0) 3 (if b = 0xF0 then 0x90 else 0x80)
      (if b = 0xF4 then 0x8F else 0xBF) := by
  unfold lead
  split_ifs <;> first | omega | simp_all

/-- The bytes of a character are read as its number. -/
theorem decodeFirst_encodeChar (c : Char) (rest : List UInt8) :
    ∃ b tail, encodeChar c = b :: tail ∧
      decodeFirst b (tail ++ rest) = .ok (c.toNat, tail.length + 1) := by
  have hvalid : c.toNat < 0xD800 ∨ 0xDFFF < c.toNat ∧ c.toNat < 0x110000 := c.valid
  unfold encodeChar
  generalize c.toNat = n at hvalid
  simp only [Nat.div_one]
  split_ifs with h₁ h₂ h₃
  · refine ⟨_, _, rfl, ?_⟩
    rw [decodeFirst, toNat_ofNat_of_lt (by omega), lead, if_pos h₁]
    exact follow_zero ..
  · refine ⟨_, _, rfl, ?_⟩
    rw [decodeFirst, toNat_ofNat_of_lt (by omega), lead_of_two (by omega) (by omega)]
    simp only [List.cons_append, List.nil_append]
    rw [follow_succ (by omega) (by omega) (by omega), follow_zero]
    simp only [Except.ok.injEq, Prod.mk.injEq]
    exact ⟨by omega, rfl⟩
  · refine ⟨_, _, rfl, ?_⟩
    rw [decodeFirst, toNat_ofNat_of_lt (by omega), lead_of_three (by omega) (by omega)]
    simp only [List.cons_append, List.nil_append]
    rw [follow_succ (by split_ifs <;> omega) (by split_ifs <;> omega) (by omega),
      follow_succ (by omega) (by omega) (by omega), follow_zero]
    simp only [Except.ok.injEq, Prod.mk.injEq]
    exact ⟨by omega, rfl⟩
  · refine ⟨_, _, rfl, ?_⟩
    rw [decodeFirst, toNat_ofNat_of_lt (by omega), lead_of_four (by omega) (by omega)]
    simp only [List.cons_append, List.nil_append]
    rw [follow_succ (by split_ifs <;> omega) (by split_ifs <;> omega) (by omega),
      follow_succ (by omega) (by omega) (by omega), follow_succ (by omega) (by omega) (by omega),
      follow_zero]
    simp only [Except.ok.injEq, Prod.mk.injEq]
    exact ⟨by omega, rfl⟩

/-! ## Bytes of a text -/

/-- Bytes that belong to the character before are passed over. -/
theorem decodeFrom_skip (skipped rest : List UInt8) (position : Nat) :
    decodeFrom position skipped.length (skipped ++ rest) =
      decodeFrom (position + skipped.length) 0 rest := by
  induction skipped generalizing position with
  | nil => rfl
  | cons b skipped ih =>
    rw [List.length_cons, List.cons_append, decodeFrom, ih, Nat.add_right_comm, Nat.add_assoc]

theorem decodeFrom_encode (t : Text) (position : Nat) :
    decodeFrom position 0 (encode t) = .ok t := by
  induction t generalizing position with
  | nil => rfl
  | cons c t ih =>
    obtain ⟨b, tail, hc, hfirst⟩ := decodeFirst_encodeChar c (encode t)
    have hcons : encode (c :: t) = b :: (tail ++ encode t) := by
      rw [encode, List.flatMap_cons, hc]
      rfl
    rw [hcons, decodeFrom, hfirst]
    dsimp only
    rw [Nat.add_sub_cancel, decodeFrom_skip, ih, Char.ofNat_toNat]
    rfl

/-- Every text is read back from its bytes. -/
theorem decode_encode (t : Text) : decode (encode t) = .ok t := decodeFrom_encode t 0

theorem encode_injective : Function.Injective encode := fun t t' h =>
  Except.ok.inj ((decode_encode t).symm.trans (h ▸ decode_encode t'))

/-! ## Bytes that are read -/

theorem encodeChar_two {k m : Nat} (hk : 2 ≤ k) (hk' : k < 32) (hm : m < 64) :
    encodeChar (Char.ofNat (k * 64 + m)) = [UInt8.ofNat (0xC0 + k), UInt8.ofNat (0x80 + m)] := by
  have hfirst : (k * 64 + m) / 64 = k := by omega
  have hlast : (k * 64 + m) / 1 % 64 = m := by omega
  rw [encodeChar, toNat_char_ofNat (by omega), if_neg (by omega), if_pos (by omega), hfirst]
  simp only [hlast]

theorem encodeChar_three {k m m' : Nat} (hk : k < 16) (hm : m < 64) (hm' : m' < 64)
    (hshort : k = 0 → 0x20 ≤ m) (hscalar : k = 13 → m < 0x20) :
    encodeChar (Char.ofNat ((k * 64 + m) * 64 + m')) =
      [UInt8.ofNat (0xE0 + k), UInt8.ofNat (0x80 + m), UInt8.ofNat (0x80 + m')] := by
  have hfirst : ((k * 64 + m) * 64 + m') / 4096 = k := by omega
  have hsecond : ((k * 64 + m) * 64 + m') / 64 % 64 = m := by omega
  have hlast : ((k * 64 + m) * 64 + m') / 1 % 64 = m' := by omega
  rw [encodeChar, toNat_char_ofNat (by omega), if_neg (by omega), if_neg (by omega),
    if_pos (by omega), hfirst]
  simp only [hsecond, hlast]

theorem encodeChar_four {k m m' m'' : Nat} (hk : k < 5) (hm : m < 64) (hm' : m' < 64)
    (hm'' : m'' < 64) (hshort : k = 0 → 0x10 ≤ m) (hscalar : k = 4 → m < 0x10) :
    encodeChar (Char.ofNat (((k * 64 + m) * 64 + m') * 64 + m'')) =
      [UInt8.ofNat (0xF0 + k), UInt8.ofNat (0x80 + m), UInt8.ofNat (0x80 + m'),
        UInt8.ofNat (0x80 + m'')] := by
  have hfirst : (((k * 64 + m) * 64 + m') * 64 + m'') / 262144 = k := by omega
  have hsecond : (((k * 64 + m) * 64 + m') * 64 + m'') / 4096 % 64 = m := by omega
  have hthird : (((k * 64 + m) * 64 + m') * 64 + m'') / 64 % 64 = m' := by omega
  have hlast : (((k * 64 + m) * 64 + m') * 64 + m'') / 1 % 64 = m'' := by omega
  rw [encodeChar, toNat_char_ofNat (by omega), if_neg (by omega), if_neg (by omega),
    if_neg (by omega), hfirst]
  simp only [hsecond, hthird, hlast]

/-- A byte that continues a sequence gives six bits. -/
theorem exists_of_follow_succ {bits count lo hi seen : Nat} {rest : List UInt8} {r : Nat × Nat}
    (hlo : 0x80 ≤ lo) (hhi : hi ≤ 0xBF) (h : follow bits (count + 1) lo hi seen rest = .ok r) :
    ∃ m after, rest = UInt8.ofNat (0x80 + m) :: after ∧ m < 64 ∧ lo ≤ 0x80 + m ∧ 0x80 + m ≤ hi ∧
      follow (bits * 64 + m) count 0x80 0xBF (seen + 1) after = .ok r := by
  cases rest with
  | nil => cases h
  | cons b after =>
    rw [follow] at h
    split_ifs at h with hb
    have hm : 0x80 + (b.toNat - 0x80) = b.toNat := by omega
    exact ⟨b.toNat - 0x80, after, by rw [hm, UInt8.ofNat_toNat], by omega, by omega, by omega, h⟩

/-- A sequence that is read is the one of the character that it is read as. -/
theorem encodeChar_of_decodeFirst {b : UInt8} {rest : List UInt8} {value length : Nat}
    (h : decodeFirst b rest = .ok (value, length)) :
    ∃ tail after, rest = tail ++ after ∧ length = tail.length + 1 ∧
      encodeChar (Char.ofNat value) = b :: tail := by
  have hfirst : ∀ n, n ≤ b.toNat → UInt8.ofNat (n + (b.toNat - n)) = b := fun n hn => by
    rw [Nat.add_sub_cancel' hn, UInt8.ofNat_toNat]
  rw [decodeFirst] at h
  by_cases h₁ : b.toNat < 0x80
  · have hlead : lead b.toNat = .sequence b.toNat 0 0x80 0xBF := by rw [lead, if_pos h₁]
    simp only [hlead, follow_zero, Except.ok.injEq, Prod.mk.injEq] at h
    obtain ⟨rfl, rfl⟩ := h
    refine ⟨[], rest, rfl, rfl, ?_⟩
    rw [encodeChar, toNat_char_ofNat (by omega), if_pos h₁, UInt8.ofNat_toNat]
  by_cases h₂ : b.toNat < 0xC2
  · have hlead : lead b.toNat = .none := by rw [lead, if_neg h₁, if_pos h₂]
    simp [hlead] at h
  by_cases h₃ : b.toNat < 0xE0
  · simp only [lead_of_two (by omega) h₃] at h
    obtain ⟨m, after, rfl, hm, -, -, h⟩ := exists_of_follow_succ (by omega) (by omega) h
    simp only [follow_zero, Except.ok.injEq, Prod.mk.injEq] at h
    obtain ⟨rfl, rfl⟩ := h
    refine ⟨[_], after, rfl, rfl, ?_⟩
    rw [encodeChar_two (by omega) (by omega) hm, hfirst _ (by omega)]
  by_cases h₄ : b.toNat < 0xF0
  · simp only [lead_of_three (by omega) h₄] at h
    obtain ⟨m, after, rfl, hm, hlo, hhi, h⟩ :=
      exists_of_follow_succ (by split_ifs <;> omega) (by split_ifs <;> omega) h
    obtain ⟨m', after, rfl, hm', -, -, h⟩ := exists_of_follow_succ (by omega) (by omega) h
    simp only [follow_zero, Except.ok.injEq, Prod.mk.injEq] at h
    obtain ⟨rfl, rfl⟩ := h
    refine ⟨[_, _], after, rfl, rfl, ?_⟩
    rw [encodeChar_three (by omega) hm hm' (by split_ifs at hlo <;> omega)
      (by split_ifs at hhi <;> omega), hfirst _ (by omega)]
  by_cases h₅ : b.toNat ≤ 0xF4
  · simp only [lead_of_four (by omega) h₅] at h
    obtain ⟨m, after, rfl, hm, hlo, hhi, h⟩ :=
      exists_of_follow_succ (by split_ifs <;> omega) (by split_ifs <;> omega) h
    obtain ⟨m', after, rfl, hm', -, -, h⟩ := exists_of_follow_succ (by omega) (by omega) h
    obtain ⟨m'', after, rfl, hm'', -, -, h⟩ := exists_of_follow_succ (by omega) (by omega) h
    simp only [follow_zero, Except.ok.injEq, Prod.mk.injEq] at h
    obtain ⟨rfl, rfl⟩ := h
    refine ⟨[_, _, _], after, rfl, rfl, ?_⟩
    rw [encodeChar_four (by omega) hm hm' hm'' (by split_ifs at hlo <;> omega)
      (by split_ifs at hhi <;> omega), hfirst _ (by omega)]
  · have hlead : lead b.toNat = .none := by
      unfold lead
      split_ifs <;> first | omega | rfl
    simp [hlead] at h

/-- Bytes that are read as a text are the bytes of this text. -/
theorem encode_of_decodeFrom {bytes : List UInt8} {position : Nat} {t : Text}
    (h : decodeFrom position 0 bytes = .ok t) : encode t = bytes := by
  induction bytes using (measure List.length).wf.induction generalizing position t with
  | h bytes ih =>
    cases bytes with
    | nil =>
      cases h
      rfl
    | cons b rest =>
      rw [decodeFrom] at h
      split at h
      · cases h
      · next value length hfirst =>
        obtain ⟨tail, after, rfl, rfl, hchar⟩ := encodeChar_of_decodeFirst hfirst
        rw [Nat.add_sub_cancel, decodeFrom_skip] at h
        cases hafter : decodeFrom (position + 1 + tail.length) 0 after with
        | error fault =>
          rw [hafter] at h
          cases h
        | ok t' =>
          rw [hafter] at h
          cases h
          have hlt : after.length < (b :: (tail ++ after)).length := by
            simp only [List.length_cons, List.length_append]
            omega
          rw [encode, List.flatMap_cons, hchar, ← encode, ih after hlt hafter, List.cons_append]

/-- Bytes are read as a text exactly if they are the bytes of this text. -/
theorem decode_eq_ok_iff {bytes : List UInt8} {t : Text} :
    decode bytes = .ok t ↔ encode t = bytes :=
  ⟨encode_of_decodeFrom, fun h => h ▸ decode_encode t⟩

end Pinpoint.Utf8
