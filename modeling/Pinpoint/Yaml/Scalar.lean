import Pinpoint.Text.Hex
import Pinpoint.Yaml.Reserved

/-!
# Texts in YAML

A text is written plain if nothing in it can be taken for notation, between single quotes if it is
at least made of visible ASCII characters, blanks and lone line ends, and between double quotes
with escapes otherwise. A line that has grown beyond 80 columns is broken at the next place where
reading the text back joins it again.

* `Yaml.styleOf` — the plainest style that a text allows.
* `Yaml.renderText` — a text in that style.
-/

namespace Pinpoint.Yaml

/-! ## Styles -/

/-- How a text is written. -/
inductive Style
  | plain
  | single
  | double
  deriving DecidableEq, Repr

/-- A blank, a tab or a line end, for the notation's own marks. -/
def isGap (c : Char) : Bool :=
  c = ' ' || c = '\t' || c = '\r' || c = '\n' || c = '\x00'

/-- A text starts with a gap or is at its end. -/
def gapFollows (rest : Text) : Bool := rest.head?.all isGap

/-- Marks that start something other than a text. -/
def openingMarks : Text := "#,[]\x7b\x7d&*!|>'\"%@`"

/-- A mark of the notation within a text, after the character `previous`: a colon before a gap, or
a number sign after one. -/
def hasInnerMark : (previous : Char) → Text → Bool
  | _, [] => false
  | previous, c :: rest =>
    (c = ':' && gapFollows rest) || (c = '#' && isGap previous) || hasInnerMark c rest

/-- A mark of the notation at the start of a text or within it. -/
def hasMark (t : Text) : Bool :=
  t.startsWith "---" || t.startsWith "..." ||
    match t with
    | [] => false
    | c :: rest =>
      openingMarks.contains c || ((c = '?' || c = ':' || c = '-') && gapFollows rest) ||
        hasInnerMark c rest

/-- A character that may stand between single quotes as itself. -/
def isVisible (c : Char) : Bool := c = '\n' || (' ' ≤ c && c ≤ '~')

/-- A blank meets a line end somewhere in a text. -/
def hasBlankAtLineEnd (t : Text) : Bool :=
  (Text.breakOn? " \n" t).isSome || (Text.breakOn? "\n " t).isSome

/-- A text may stand between single quotes. -/
def allowsSingle (t : Text) : Bool := t.all isVisible && !hasBlankAtLineEnd t

/-- A text starts or ends with a blank. -/
def hasOuterBlank (t : Text) : Bool := t.head? = some ' ' || t.getLast? = some ' '

/-- A text may stand without quotes. -/
def allowsPlain (t : Text) : Bool :=
  allowsSingle t && !t.contains '\n' && !hasOuterBlank t && !hasMark t && !isReserved t

/-- The plainest style that a text allows. -/
def styleOf (t : Text) : Style :=
  if allowsPlain t then .plain else if allowsSingle t then .single else .double

/-! ## Lines -/

/-- The column after which a line is broken at the next occasion. -/
def width : Nat := 80

/-- The start of a line of a text that goes on. -/
def indentation : Nat := 4

/-- A line end and the indentation of the next line. -/
def newline : Text := '\n' :: List.replicate indentation ' '

/-- A blank between two characters that are none stands alone, and may become a line end. -/
def standsAlone (previous : Option Char) (rest : Text) : Bool :=
  previous.any (· ≠ ' ') && rest.head?.any (· ≠ ' ')

/-- Writes characters from a column on, each by `write`; a lone blank in a full line becomes a line
end, and a line end is written as an empty line. -/
def fold (write : Char → Text) : (column : Nat) → (previous : Option Char) → Text → Text
  | _, _, [] => []
  | column, previous, c :: rest =>
    if c = '\n' then
      (if previous = some '\n' then [] else ['\n']) ++
        (if rest.head? = some '\n' then ['\n'] else newline) ++ fold write indentation (some c) rest
    else if c = ' ' ∧ standsAlone previous rest ∧ width < column then
      newline ++ fold write indentation (some c) rest
    else write c ++ fold write (column + (write c).length) (some c) rest

/-- A character between single quotes: a quote is written twice. -/
def writeSingle (c : Char) : Text := if c = '\'' then ['\'', '\''] else [c]

/-! ## Escapes -/

/-- The escapes of one letter. -/
def letterEscapes : List (Nat × Char) := [
  (0x00, '0'), (0x07, 'a'), (0x08, 'b'), (0x09, 't'), (0x0A, 'n'), (0x0B, 'v'), (0x0C, 'f'),
  (0x0D, 'r'), (0x1B, 'e'), (0x22, '"'), (0x5C, '\\'), (0x85, 'N'), (0xA0, '_'), (0x2028, 'L'),
  (0x2029, 'P')]

/-- Hexadecimal digits in upper case. -/
def upperHex (digits n : Nat) : Text := (Text.hex digits n).map Char.toUpper

/-- The escape of a character that cannot stand between double quotes as itself. -/
def escape? (c : Char) : Option Text :=
  let n := c.toNat
  match letterEscapes.lookup n with
  | some letter => some ['\\', letter]
  | none =>
    if ' ' ≤ c && c ≤ '~' then none
    else if n < 0x100 then some ('\\' :: 'x' :: upperHex 2 n)
    else if n < 0x10000 then some ('\\' :: 'u' :: upperHex 4 n)
    else some ('\\' :: 'U' :: upperHex 8 n)

/-- A line end within double quotes, which reading joins again, and a backslash before a blank that
would be lost at the start of the next line. -/
def continuation (rest : Text) : Text :=
  '\\' :: newline ++ if rest.head? = some ' ' then ['\\'] else []

/-- The column after a continuation. -/
def continuedColumn (rest : Text) : Nat := indentation + if rest.head? = some ' ' then 1 else 0

/-- Writes characters between double quotes from a column on. A full line is broken before a blank
and on either side of an escape, but not next to the quotes. -/
def foldEscaped : (column : Nat) → (isFirst afterEscape : Bool) → Text → Text
  | _, _, _, [] => []
  | column, isFirst, afterEscape, c :: rest =>
    let isInner := !isFirst && rest ≠ []
    match escape? c with
    | some e =>
      if isInner && width + 1 < column + e.length then
        e ++ continuation rest ++ foldEscaped (continuedColumn rest) false true rest
      else e ++ foldEscaped (column + e.length) false true rest
    | none =>
      if isInner && (c = ' ' || afterEscape) && width < column then
        continuation (c :: rest) ++
          c :: foldEscaped (continuedColumn (c :: rest) + 1) false false rest
      else c :: foldEscaped (column + 1) false false rest

/-! ## Texts -/

/-- A text in a style, from a column on. -/
def renderStyled (style : Style) (column : Nat) (t : Text) : Text :=
  match style with
  | .plain => fold (fun c => [c]) column none t
  | .single => '\'' :: (fold writeSingle (column + 1) none t ++ ['\''])
  | .double => '"' :: (foldEscaped (column + 1) true false t ++ ['"'])

/-- A text from a column on, in the plainest style that it allows. -/
def renderText (column : Nat) (t : Text) : Text := renderStyled (styleOf t) column t

end Pinpoint.Yaml
