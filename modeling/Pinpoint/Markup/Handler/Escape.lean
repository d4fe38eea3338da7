import Pinpoint.Markup.Handler.Token

/-!
# Escapes in quoted texts

A backslash and a letter stand for a character that is given by number or by name. Places in a
quoted text are counted in its escaped form, in which characters outside ASCII are given by number.

* `Quotation.check` — every escape of a quoted text stands for something.
-/

namespace Pinpoint.Markup.Handler

/-- A character as an escape of eight digits. -/
def longEscape (c : Char) : Text := '\\' :: 'U' :: Text.hex 8 c.toNat

/-- A quoted text with everything outside ASCII escaped. A backslash in front of such a character
is one that stands for itself. -/
def escapeWide : Text → Text
  | [] => []
  | '\\' :: c :: rest =>
    if c.toNat < 0x80 then '\\' :: c :: escapeWide rest
    else '\\' :: ("u005c".toList ++ longEscape c ++ escapeWide rest)
  | c :: rest => if c.toNat < 0x80 then c :: escapeWide rest else longEscape c ++ escapeWide rest

/-- The hexadecimal digits that an escape letter asks for. -/
def escapeDigits? : Char → Option Nat
  | 'x' => some 2
  | 'u' => some 4
  | 'U' => some 8
  | _ => none

/-- Checks the number of an escape: its digits, of `count` that there should be. -/
def checkNumber (letter : Char) (count position : Nat) (rest : Text) : Except SyntaxFault Unit :=
  let digits := (rest.take count).takeWhile fun c => (Text.hexValue? c).isSome
  if digits.length < count then
    .error (.escape (.truncated letter count) position (position + 1 + digits.length))
  else if 0x10FFFF < digits.foldl (fun n c => 16 * n + (Text.hexValue? c).getD 0) 0 then
    .error (.escape .tooLarge position (position + 1 + count))
  else .ok ()

/-- Checks the name of an escape: something between braces. -/
def checkName (position : Nat) (rest : Text) : Except SyntaxFault Unit :=
  match rest with
  | '\x7b' :: '\x7d' :: _ => .error (.escape .malformedName position (position + 2))
  | '\x7b' :: after =>
    if '\x7d' ∈ after then .ok ()
    else .error (.escape .malformedName position (position + 2 + after.length))
  | _ => .error (.escape .malformedName position (position + 1))

/-- Checks the escapes of a text that starts at a position. -/
def checkEscapes (position : Nat) : Text → Except SyntaxFault Unit
  | '\\' :: c :: rest => do
    if let some count := escapeDigits? c then checkNumber c count position rest
    if c = 'N' then checkName position rest
    checkEscapes (position + 2) rest
  | _ :: rest => checkEscapes (position + 1) rest
  | [] => .ok ()

/-- Checks the escapes of bytes, which have two digits. -/
def checkByteEscapes (position : Nat) : Text → Except SyntaxFault Unit
  | '\\' :: 'x' :: rest => do
    match (rest.take 2).map Text.hexValue? with
    | [some _, some _] => pure ()
    | some _ :: _ => throw (.byteEscape (position + 1))
    | _ => throw (.byteEscape position)
    checkByteEscapes (position + 2) rest
  | '\\' :: _ :: rest => checkByteEscapes (position + 2) rest
  | _ :: rest => checkByteEscapes (position + 1) rest
  | [] => .ok ()

/-- Checks a quoted text. What stands in the fields of a formatted one is not looked into. -/
def Quotation.check (q : Quotation) : Except SyntaxFault Unit :=
  if q.formatted then .ok ()
  else if q.bytes then
    if q.body.any fun c => 0x80 ≤ c.toNat then .error .bytesNotAscii
    else if q.raw then .ok ()
    else checkByteEscapes 0 q.body
  else if q.raw then .ok ()
  else checkEscapes 0 (escapeWide q.body)

/-- Checks quoted texts that stand next to each other and make up one. -/
def checkQuotations (qs : List Quotation) : Except SyntaxFault Unit :=
  qs.forM fun q => do
    q.check
    if qs.head?.any (·.bytes ≠ q.bytes) then throw .mixedBytes

end Pinpoint.Markup.Handler
