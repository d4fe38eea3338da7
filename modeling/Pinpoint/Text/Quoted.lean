import Pinpoint.Text.Hex
import Pinpoint.Text.Printable

/-!
# Quoted texts

Messages show a text between quotes, so that its ends and its invisible characters can be seen:
single quotes, unless the text holds a single quote and no double one. Backslashes and the quote
in use are escaped, and characters that are not printable are written by number.
-/

namespace Pinpoint.Text

/-- The quote that a text is put between. -/
def quoteFor (t : Text) : Char :=
  if '\'' ∈ t ∧ '"' ∉ t then '"' else '\''

/-- A code point by number: two, four or eight hexadecimal digits. -/
def escapeByNumber (c : Char) : Text :=
  let n := c.toNat
  if n < 0x100 then '\\' :: 'x' :: hex 2 n
  else if n < 0x10000 then '\\' :: 'u' :: hex 4 n
  else '\\' :: 'U' :: hex 8 n

/-- One character between quotes `quote`; `plain` says which characters stand for themselves. -/
def escapeChar (plain : Char → Bool) (quote c : Char) : Text :=
  if c = '\\' ∨ c = quote then ['\\', c]
  else if c = '\n' then "\\n"
  else if c = '\r' then "\\r"
  else if c = '\t' then "\\t"
  else if plain c then [c]
  else escapeByNumber c

/-- A text between quotes, with every printable character as itself. -/
def quoted (t : Text) : Text :=
  quoteFor t :: (t.flatMap (escapeChar isPrintable (quoteFor t)) ++ [quoteFor t])

/-- The same escapes for whatever lies outside ASCII. -/
def asciiOnly (t : Text) : Text :=
  t.flatMap fun c => if c.toNat < 0x80 then [c] else escapeByNumber c

end Pinpoint.Text
