/-!
# Texts

A text is the list of its characters. Paths, arguments, templates, documents and messages are all
texts, so that "what is left to read" is always a plain suffix of the data.

**Limits.** No character is a surrogate, so that every text can be encoded. Where surrogates may
come in, in what a template is filled in with, there are code points instead
(`Pinpoint.Text.CodePoint`).

* `Text.cut`, `Text.join` — a text in pieces, and pieces put together. There is always a piece
  (`cut_ne_nil`).
* `Text.replace` — a text with every occurrence of another one replaced.
-/

namespace Pinpoint

/-- A text is the list of its code points. -/
abbrev Text := List Char

instance : Coe String Text := ⟨String.toList⟩

namespace Text

/-- What holds of all characters of a text is decided by going through the text, rather than through
all characters that there are. -/
instance (priority := 1100) decidableForallMem {p : Char → Prop} [DecidablePred p] (t : Text) :
    Decidable (∀ c ∈ t, p c) := List.decidableBAll p t

/-- The character with number zero, which no file name can hold. -/
def nul : Char := '\x00'

/-- The pieces between separators: `n` separators give `n + 1` pieces. -/
def cut (sep : Char) : Text → List Text
  | [] => [[]]
  | c :: rest =>
    if c = sep then [] :: cut sep rest
    else
      match cut sep rest with
      | [] => [[c]]
      | piece :: pieces => (c :: piece) :: pieces

/-- Puts `sep` between the pieces. -/
def join (sep : Text) (pieces : List Text) : Text := sep.intercalate pieces

/-- What follows `head`, if the text starts with it. -/
def dropHead? : (head t : Text) → Option Text
  | [], t => some t
  | _ :: _, [] => none
  | a :: head, b :: t => if a = b then dropHead? head t else none

/-- The text starts with `head`. -/
def startsWith (t head : Text) : Bool := (dropHead? head t).isSome

/-- The text ends with `tail`. -/
def endsWith (t tail : Text) : Bool := startsWith t.reverse tail.reverse

/-- Everything up to the first place where `pattern` starts, and everything after that pattern. -/
def breakOn? (pattern : Text) : Text → Option (Text × Text)
  | [] => if pattern = [] then some ([], []) else none
  | c :: rest =>
    match dropHead? pattern (c :: rest) with
    | some after => some ([], after)
    | none => (breakOn? pattern rest).map fun (before, after) => (c :: before, after)

/-- Passes over `skip` characters, and puts `new` in the stead of every occurrence of `pattern`
behind them. -/
def replaceAfter (pattern new : Text) : (skip : Nat) → Text → Text
  | _, [] => []
  | skip + 1, _ :: rest => replaceAfter pattern new skip rest
  | 0, c :: rest =>
    if startsWith (c :: rest) pattern then
      new ++ replaceAfter pattern new (pattern.length - 1) rest
    else c :: replaceAfter pattern new 0 rest

/-- Puts `new` in the stead of every occurrence of `pattern`, which is not empty, from left to
right. What has been put in is not searched again. -/
def replace (t pattern new : Text) : Text := replaceAfter pattern new 0 t

/-- Comparison by code points, the shorter text first where one continues the other. -/
def le : Text → Text → Bool
  | [], _ => true
  | _ :: _, [] => false
  | a :: s, b :: t => a.toNat < b.toNat || (a == b && le s t)

/-- Ascending order of code points. -/
def sort (ts : List Text) : List Text := ts.mergeSort le

/-- Fills up with `fill` on the right to `width` characters. -/
def padRight (width : Nat) (fill : Char) (t : Text) : Text :=
  t ++ List.replicate (width - t.length) fill

/-- Fills up with `fill` on the left to `width` characters. -/
def padLeft (width : Nat) (fill : Char) (t : Text) : Text :=
  List.replicate (width - t.length) fill ++ t

/-- A natural number in decimal digits. -/
def ofNat (n : Nat) : Text := Nat.toDigits 10 n

/-- An integer in decimal digits, with a sign only below zero. -/
def ofInt : Int → Text
  | .ofNat n => ofNat n
  | .negSucc n => '-' :: ofNat (n + 1)

theorem cut_ne_nil (sep : Char) (t : Text) : cut sep t ≠ [] := by
  induction t with
  | nil => simp [cut]
  | cons c rest ih =>
    by_cases h : c = sep
    · simp [cut, h]
    · simp only [cut, h, if_false]
      split <;> simp

end Text

end Pinpoint
