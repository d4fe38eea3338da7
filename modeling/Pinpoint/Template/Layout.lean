import Pinpoint.Decimal.Binary64
import Pinpoint.Template.Spec

/-!
# Laying out values

A text is cut to its precision and filled up to its width. A whole number is written in a base, or
as a character, or rounded to a float and written with a precision; its digits may be grouped, and
zeros in front of them are grouped along with them. What is laid out may hold surrogates: as fill
characters, or because a number is written as the code point that it numbers. How long a text may
be that is filled up is for the machine to say, and a parameter here.
-/

namespace Pinpoint.Template

/-! ## Texts -/

/-- Fills a text up to a width. -/
def fillUp (width : Option Nat) (align : Align) (fill : CodePoint) (t : Points) : Points :=
  let missing := width.getD 0 - t.length
  let before := match align with
    | .right => missing
    | .center => missing / 2
    | .left => 0
    | .afterSign => 0
  List.replicate before fill ++ t ++ List.replicate (missing - before) fill

/-- Refuses a width or a number of places that the memory does not hold. -/
def ensureFits (holds : Nat → Bool) (size : Option Nat) : Except SpecFault Unit :=
  if size.all holds then .ok () else .error .tooLong

/-- What is wrong with laying out a text. -/
def Spec.textFault? (s : Spec) : Option SpecFault :=
  if s.type ≠ 's' then some (.unknownType (.char s.type) .text)
  else if s.sign = some .space then some .textSpace
  else if s.sign.isSome then some .textSign
  else if s.noNegativeZero then some .textNegativeZero
  else if s.alternate then some .textAlternate
  else if s.align = .afterSign then some .textAfterSign
  else none

/-- Lays out a text. -/
def Spec.layoutText (holds : Nat → Bool) (s : Spec) (t : Text) : Except SpecFault Points :=
  match s.textFault? with
  | some fault => .error fault
  | none => do
    ensureFits holds s.width
    let t := match s.precision with
      | none => t
      | some n => t.take n
    return fillUp s.width s.align s.fill t.points

/-! ## Digits in groups -/

/-- The length of the last group of `digits` digits with zeros in front up to `width` characters. -/
def groupLength (size digits width : Nat) : Nat := min (max size 1) (max (max digits width) 1)

theorem groupLength_pos (size digits width : Nat) : 0 < groupLength size digits width := by
  unfold groupLength
  omega

/-- Digits, the last one first, in groups of `size` with zeros in front up to `width` characters;
the result has its last character first, too. -/
def groupReversed (size : Nat) (sep : Char) (digits : Text) (width : Nat) : Text :=
  let len := groupLength size digits.length width
  let group := digits.take len ++ List.replicate (len - digits.length) '0'
  if digits.length ≤ len ∧ width ≤ len then group
  else group ++ sep :: groupReversed size sep (digits.drop len) (width - len - 1)
termination_by digits.length + width
decreasing_by
  have := groupLength_pos size digits.length width
  simp only [List.length_drop]
  omega

/-- How digits are grouped: into how many, and with what between them. -/
structure Groups where
  size : Nat
  sep : Char

/-- Digits in groups, with zeros in front up to `width` characters. -/
def grouped (groups : Option Groups) (digits : Text) (width : Nat) : Text :=
  match groups with
  | none => Text.padLeft width '0' digits
  | some g => (groupReversed g.size g.sep digits.reverse width).reverse

/-! ## Numbers -/

/-- The parts of a written number. The digits are what is grouped; the tail is copied. -/
structure Numeral where
  negative : Bool := false
  radixMark : Text := []
  digits : Text
  tail : Points := []

/-- The sign of a number. -/
def signText (asked : Option Sign) (negative : Bool) : Text :=
  if negative then ['-']
  else
    match asked with
    | some .plus => ['+']
    | some .space => [' ']
    | _ => []

/-- The groups that a grouping makes; bases other than ten have groups of four. -/
def Spec.groups (s : Spec) : Option Groups :=
  s.grouping.map fun g => ⟨if "boxX".toList.contains s.type then 4 else 3, g.char⟩

/-- Puts the parts of a number together and fills them up to the width. -/
def Spec.assemble (s : Spec) (n : Numeral) : Points :=
  let head : Text := signText s.sign n.negative ++ n.radixMark
  let used := head.length + n.tail.length
  let zeros := if s.fill = .char '0' ∧ s.align = .afterSign then s.width.getD 0 - used else 0
  let digits : Text := if n.digits = [] then [] else grouped s.groups n.digits zeros
  let missing := s.width.getD 0 - (used + digits.length)
  match s.align with
  | .afterSign => head.points ++ List.replicate missing s.fill ++ digits.points ++ n.tail
  | align => fillUp s.width align s.fill (head.points ++ digits.points ++ n.tail)

/-- The base of a type of whole number, with the mark in front of its digits. -/
def radix : Char → Nat × Text
  | 'b' => (2, "0b")
  | 'o' => (8, "0o")
  | 'x' => (16, "0x")
  | 'X' => (16, "0X")
  | _ => (10, [])

/-- Writes a whole number in the base of the type. -/
def Spec.wholeNumeral (s : Spec) (n : Int) : Numeral :=
  let (base, mark) := radix s.type
  let digits := Nat.toDigits base n.natAbs
  { negative := n < 0
    radixMark := if s.alternate then mark else []
    digits := if s.type = 'X' then digits.map Char.toUpper else digits }

/-- Lays out a number as the code point that it numbers. -/
def Spec.layoutCharacter (holds : Nat → Bool) (s : Spec) (n : Int) : Except SpecFault Points :=
  if s.sign.isSome then .error .characterSign
  else if s.alternate then .error .characterAlternate
  else if n < -0x8000000000000000 ∨ 0x8000000000000000 ≤ n then .error .characterTooLarge
  else if n < 0 ∨ 0x10FFFF < n then .error .characterRange
  else do
    ensureFits holds s.width
    return s.assemble { digits := [], tail := [.ofNat n.toNat] }

/-- Lays out a whole number. -/
def Spec.layoutWhole (holds : Nat → Bool) (s : Spec) (n : Int) : Except SpecFault Points :=
  if s.precision.isSome then .error .numberPrecision
  else if s.noNegativeZero then .error .numberNegativeZero
  else if s.type = 'c' then s.layoutCharacter holds n
  else do
    ensureFits holds s.width
    return s.assemble (s.wholeNumeral n)

/-! ## Whole numbers as floats -/

/-- The value of a float that holds a whole number; nothing for an infinity. -/
def wholeValue? : Decimal.Binary64 → Option Nat
  | .finite _ m e =>
    let (num, den) := Decimal.Binary64.ratio m e
    some (num / den)
  | _ => none

/-- A point, if something follows it or the alternate form keeps it. -/
def pointBefore (alternate : Bool) (places : Text) : Text :=
  if places = [] ∧ !alternate then [] else '.' :: places

/-- A natural number with a fixed number of places. -/
def fixedNumeral (alternate : Bool) (places n : Nat) : Numeral :=
  { digits := Text.ofNat n, tail := pointBefore alternate (List.replicate places '0') }

/-- A digit, places, and an exponent. -/
def exponentNumeral (alternate : Bool) (mark : Char) (digits : Text) (exponent : Nat) : Numeral :=
  { digits := digits.take 1
    tail := pointBefore alternate (digits.drop 1) ++ mark :: Decimal.exponentText exponent }

/-- A natural number with a number of significant digits, with an exponent if it has more. Zeros at
the end of the places are dropped, except in the alternate form. -/
def generalNumeral (alternate : Bool) (mark : Char) (count n : Nat) : Numeral :=
  let count := max count 1
  let (ds, exponent) := Decimal.significant n count
  if count ≤ exponent then
    exponentNumeral alternate mark (if alternate then ds else
      ds.take 1 ++ Decimal.dropTrailingZeros (ds.drop 1)) exponent
  else
    let places := ds.drop (exponent + 1)
    { digits := ds.take (exponent + 1)
      tail := pointBefore alternate (if alternate then places else
        Decimal.dropTrailingZeros places) }

/-- The numeral of an absolute value in a type that writes floats; no value is an infinity. -/
def Spec.floatNumeral (s : Spec) (value : Option Nat) (places : Nat) : Numeral :=
  match value with
  | none => { digits := [], tail := Text.points "inf" }
  | some n =>
    match s.type with
    | 'e' | 'E' =>
      let (ds, exponent) := Decimal.significant n (places + 1)
      exponentNumeral s.alternate s.type ds exponent
    | 'g' => generalNumeral s.alternate 'e' places n
    | 'G' => generalNumeral s.alternate 'E' places n
    | _ => fixedNumeral s.alternate places n

/-- Lays out a whole number as the nearest float, or as the hundredfold of it with a percent
sign. -/
def Spec.layoutFloat (holds : Nat → Bool) (s : Spec) (n : Int) : Except SpecFault Points :=
  match wholeValue? (.ofRatio false n.natAbs 1) with
  | none => .error .floatTooLarge
  | some value =>
    if s.precision.any (0x80000000 ≤ ·) then .error .precisionTooLarge
    else do
      ensureFits holds s.width
      ensureFits holds s.precision
      let percent := s.type = '%'
      let shown := if percent then wholeValue? (.ofRatio false (value * 100) 1) else some value
      let numeral := s.floatNumeral shown (s.precision.getD 6)
      return s.assemble { numeral with
        negative := n < 0
        tail := numeral.tail ++ if percent then [.char '%'] else [] }

/-- Lays out a number, which is of kind `kind`. -/
def Spec.layoutNumber (holds : Nat → Bool) (s : Spec) (kind : Kind) (n : Int) :
    Except SpecFault Points :=
  if "bcdoxXn".toList.contains s.type then s.layoutWhole holds n
  else if "eEfFgG%".toList.contains s.type then s.layoutFloat holds n
  else .error (.unknownType (.char s.type) kind)

end Pinpoint.Template
