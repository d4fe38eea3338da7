import Pinpoint.Text

/-!
# UTF-8

`decode` reads bytes as UTF-8 and refuses the first place where they are none, telling why: a byte
that starts no sequence, a sequence cut short by another byte, or one cut short by the end. Only
the shortest form of a scalar value is UTF-8; surrogates are not scalar values.
-/

namespace Pinpoint.Utf8

/-- Why bytes are not UTF-8. -/
inductive Reason
  | startByte
  | continuationByte
  | endOfData
  deriving DecidableEq, Repr

/-- The wording of a reason. -/
def Reason.message : Reason → Text
  | .startByte => "invalid start byte"
  | .continuationByte => "invalid continuation byte"
  | .endOfData => "unexpected end of data"

/-- A place where decoding stops: `length` bytes from `position` on, the first of them `byte`. -/
structure Fault where
  reason : Reason
  byte : UInt8
  position : Nat
  length : Nat
  deriving DecidableEq, Repr

/-- What a byte at the start of a sequence announces. -/
inductive Lead
  | none
  /-- `count` bytes follow, the first of them between `lo` and `hi`; `bits` is the payload. -/
  | sequence (bits count lo hi : Nat)
  deriving DecidableEq, Repr

/-- The sequence that byte `b` starts. -/
def lead (b : Nat) : Lead :=
  if b < 0x80 then .sequence b 0 0x80 0xBF
  else if b < 0xC2 then .none
  else if b < 0xE0 then .sequence (b - 0xC0) 1 0x80 0xBF
  else if b = 0xE0 then .sequence 0 2 0xA0 0xBF
  else if b = 0xED then .sequence 13 2 0x80 0x9F
  else if b < 0xF0 then .sequence (b - 0xE0) 2 0x80 0xBF
  else if b = 0xF0 then .sequence 0 3 0x90 0xBF
  else if b < 0xF4 then .sequence (b - 0xF0) 3 0x80 0xBF
  else if b = 0xF4 then .sequence 4 3 0x80 0x8F
  else .none

/-- The scalar value that `count` following bytes complete, or why they do not and how many of
them belong to the broken sequence. -/
def follow : (bits count lo hi seen : Nat) → List UInt8 → Except (Reason × Nat) (Nat × Nat)
  | bits, 0, _, _, seen, _ => .ok (bits, seen)
  | _, _ + 1, _, _, seen, [] => .error (.endOfData, seen)
  | bits, count + 1, lo, hi, seen, b :: rest =>
    if lo ≤ b.toNat ∧ b.toNat ≤ hi then
      follow (bits * 64 + (b.toNat - 0x80)) count 0x80 0xBF (seen + 1) rest
    else
      .error (.continuationByte, seen)

/-- The first scalar value and the number of bytes it takes. -/
def decodeFirst (b : UInt8) (rest : List UInt8) : Except (Reason × Nat) (Nat × Nat) :=
  match lead b.toNat with
  | .none => .error (.startByte, 1)
  | .sequence bits count lo hi => follow bits count lo hi 1 rest

/-- Decodes from byte number `position` on; `skip` bytes belong to the character before. -/
def decodeFrom : (position skip : Nat) → List UInt8 → Except Fault Text
  | _, _, [] => .ok []
  | position, skip + 1, _ :: rest => decodeFrom (position + 1) skip rest
  | position, 0, b :: rest =>
    match decodeFirst b rest with
    | .error (reason, length) => .error ⟨reason, b, position, length⟩
    | .ok (value, length) => do
      let tail ← decodeFrom (position + 1) (length - 1) rest
      return Char.ofNat value :: tail

/-- The text that the bytes spell, or the first fault. -/
def decode (bytes : List UInt8) : Except Fault Text := decodeFrom 0 0 bytes

/-- The bytes of one character. -/
def encodeChar (c : Char) : List UInt8 :=
  let n := c.toNat
  let tail (unit : Nat) : UInt8 := UInt8.ofNat (0x80 + n / unit % 64)
  if n < 0x80 then [UInt8.ofNat n]
  else if n < 0x800 then [UInt8.ofNat (0xC0 + n / 64), tail 1]
  else if n < 0x10000 then [UInt8.ofNat (0xE0 + n / 4096), tail 64, tail 1]
  else [UInt8.ofNat (0xF0 + n / 262144), tail 4096, tail 64, tail 1]

/-- The bytes of a text. -/
def encode (t : Text) : List UInt8 := t.flatMap encodeChar

/-- The number of bytes of a text. -/
def size (t : Text) : Nat := (encode t).length

end Pinpoint.Utf8
