import Pinpoint.Text

/-!
# Blank characters

The characters that count as white space in any script. Shell words use four of them only
(`Pinpoint.Shell`); an editor template is refused when it holds nothing else but these.
-/

namespace Pinpoint.Text

/-- White space of any script. -/
def isBlank (c : Char) : Bool :=
  let n := c.toNat
  (0x09 ≤ n && n ≤ 0x0D) || (0x1C ≤ n && n ≤ 0x20) || n == 0x85 || n == 0xA0 || n == 0x1680 ||
    (0x2000 ≤ n && n ≤ 0x200A) || n == 0x2028 || n == 0x2029 || n == 0x202F || n == 0x205F ||
    n == 0x3000

/-- Drops blank characters at the start. -/
def trimLeft (t : Text) : Text := t.dropWhile isBlank

/-- Drops blank characters at the end. -/
def trimRight (t : Text) : Text := (t.reverse.dropWhile isBlank).reverse

/-- Drops blank characters at both ends. -/
def trim (t : Text) : Text := trimRight (trimLeft t)

end Pinpoint.Text
