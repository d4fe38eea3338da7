import Pinpoint.Text.Hex

/-!
# Code points

Numbers name characters, but some of them name surrogates, which are code points and no characters.
Whoever is asked for the code point of a number may come upon one. A row of code points is handled
like a text, until it has to be encoded: surrogates have no encoding, and then it fails.

* `Alphabet` — what texts may be made of: characters, and perhaps others besides.
* `Points` — code points one after another; `Text.points` are those of a text.
* `Points.text?` — the text that some code points are, if there is no surrogate among them.
* `Points.faultIn` — what is wrong with encoding them.
-/

namespace Pinpoint

/-! ## Alphabets -/

/-- What texts may be made of: characters, and perhaps others besides. -/
class Alphabet (α : Type) where
  ofChar : Char → α
  char? : α → Option Char
  char?_eq_some_iff : ∀ {a c}, char? a = some c ↔ a = ofChar c

instance : Alphabet Char where
  ofChar := id
  char? := some
  char?_eq_some_iff := by simp

@[simp] theorem Alphabet.char?_ofChar {α : Type} [Alphabet α] (c : Char) :
    char? (ofChar c : α) = some c := char?_eq_some_iff.2 rfl

/-- A code point: a character, or the surrogate with a number counted from `0xD800`. -/
inductive CodePoint
  | char (c : Char)
  | surrogate (n : Fin 0x800)
  deriving DecidableEq, Repr

namespace CodePoint

/-- The character that a code point is, if it is one. -/
def char? : CodePoint → Option Char
  | char c => some c
  | surrogate _ => none

instance : Alphabet CodePoint where
  ofChar := char
  char? := char?
  char?_eq_some_iff := by
    rintro (a | n) c <;> simp [char?]

/-- The number of a code point. -/
def toNat : CodePoint → Nat
  | char c => c.toNat
  | surrogate n => 0xD800 + n

/-- The code point of a number up to `0x10FFFF`. -/
def ofNat (n : Nat) : CodePoint :=
  if h : 0xD800 ≤ n ∧ n < 0xE000 then surrogate ⟨n - 0xD800, by omega⟩ else char (Char.ofNat n)

/-- A number that is not a surrogate's numbers a character. -/
theorem toNat_char_ofNat {n : Nat} (h : n < 0xD800 ∨ 0xDFFF < n ∧ n < 0x110000) :
    (Char.ofNat n).toNat = n := by
  have hvalid : n.isValidChar := h
  rw [Char.ofNat, dif_pos hvalid]
  rfl

/-- The code point of a number has that number. -/
theorem toNat_ofNat {n : Nat} (h : n ≤ 0x10FFFF) : (ofNat n).toNat = n := by
  rw [ofNat]
  split
  · simp only [toNat]
    omega
  · exact toNat_char_ofNat (by omega)

/-- A code point by number, as messages and logs show a surrogate. -/
def escaped : CodePoint → Text
  | char c => [c]
  | surrogate n => '\\' :: 'u' :: Text.hex 4 (0xD800 + n)

end CodePoint

/-! ## Rows of code points -/

/-- Code points one after another. -/
abbrev Points := List CodePoint

/-- The code points of a text. -/
def Text.points (t : Text) : Points := t.map .char

instance : Coe Text Points := ⟨Text.points⟩

theorem Text.points_inj {t u : Text} : t.points = u.points ↔ t = u :=
  List.map_inj_right fun _ _ => CodePoint.char.inj

namespace Points

/-- The text that some code points are, if there is no surrogate among them. -/
def text? : Points → Option Text
  | [] => some []
  | .char c :: p => (text? p).map (c :: ·)
  | .surrogate _ :: _ => none

/-- Code points as they are shown where nothing may fail: surrogates by number. -/
def escaped (p : Points) : Text := p.flatMap CodePoint.escaped

theorem text?_eq_some_iff {p : Points} {t : Text} : p.text? = some t ↔ p = t.points := by
  rw [Text.points]
  induction p generalizing t with
  | nil => cases t <;> simp [text?]
  | cons c p ih =>
    cases c with
    | surrogate n => cases t <;> simp [text?]
    | char c =>
      cases t with
      | nil => simp [text?]
      | cons d t => simpa [text?, ih] using and_comm

@[simp] theorem text?_points (t : Text) : t.points.text? = some t := text?_eq_some_iff.2 rfl

/-- Two rows of code points make a text if both do. -/
theorem isSome_text?_append (p q : Points) :
    (text? (p ++ q)).isSome = ((text? p).isSome && (text? q).isSome) := by
  induction p with
  | nil => simp [text?]
  | cons c p ih => cases c <;> simp [text?, ih]

/-! ## Encoding -/

/-- Why code points cannot be encoded: from a position on, the first of their surrogates stand next
to each other. -/
structure EncodingFault where
  first : CodePoint
  position : Nat
  count : Nat
  deriving DecidableEq, Repr

/-- The wording of a fault. -/
def EncodingFault.message (fault : EncodingFault) : Text :=
  let place := if fault.count = 1 then
      " '" ++ fault.first.escaped ++ "' in position " ++ Text.ofNat fault.position
    else
      "s in position " ++ Text.ofNat fault.position ++ "-" ++
        Text.ofNat (fault.position + fault.count - 1)
  "'utf-8' codec can't encode character" ++ place ++ ": surrogates not allowed"

/-- A character that is not among some code points, nor means anything to anybody. -/
def standIn (p : Points) : Char :=
  let candidates := (List.range (p.length + 1)).map fun n => Char.ofNat (0xF0000 + n)
  (candidates.find? (.char · ∉ p)).getD Text.nul

/-- Code points as a text, with a character in the place of every surrogate. -/
def veiled (p : Points) : Text := p.map fun c => c.char?.getD p.standIn

/-- What is wrong with encoding some code points, given how they are shown with another character in
the place of every surrogate. -/
def faultIn (p : Points) (shown : Text) : EncodingFault where
  first := (p.find? (·.char?.isNone)).getD (.char p.standIn)
  position := (shown.takeWhile (· ≠ p.standIn)).length
  count := ((shown.dropWhile (· ≠ p.standIn)).takeWhile (· = p.standIn)).length

end Points

end Pinpoint
