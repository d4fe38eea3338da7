import Pinpoint.Decimal
import Pinpoint.Text.Hex

/-!
# What is wrong with the arguments of a handler

Arguments are an expression in parentheses that can be worked out without running anything. They
may not be an expression at all, or be one that has no plain value.

* `SyntaxFault` — a text that is no expression.
* `ValueFault` — an expression without a plain value.
-/

namespace Pinpoint.Markup.Handler

/-- The ways to write a number that have a name of their own. -/
inductive Numeral
  | hexadecimal
  | octal
  | binary
  | decimal
  | imaginary
  deriving DecidableEq, Repr

/-- The name of a way to write a number. -/
def Numeral.name : Numeral → Text
  | hexadecimal => "hexadecimal"
  | octal => "octal"
  | binary => "binary"
  | decimal => "decimal"
  | imaginary => "imaginary"

/-- Why an escape in a quoted text stands for no character. -/
inductive EscapeFault
  | truncated (letter : Char) (digits : Nat)
  | tooLarge
  | malformedName
  deriving DecidableEq, Repr

/-- The wording of a fault in an escape. -/
def EscapeFault.message : EscapeFault → Text
  | truncated letter digits =>
    "truncated \\" ++ [letter] ++ List.replicate digits 'X' ++ " escape"
  | tooLarge => "illegal Unicode character"
  | malformedName => "malformed \\N character escape"

/-- Why a text is no expression. -/
inductive SyntaxFault
  | invalid
  | neverClosed (bracket : Char)
  | unmatched (bracket : Char)
  | mismatch (closing opening : Char) (line : Option Nat)
  | tooDeep
  | unterminated (line : Nat)
  | unterminatedTriple (line : Nat)
  | afterBackslash
  | badCharacter (c : Char)
  | unprintable (c : Char)
  | badNumeral (numeral : Numeral)
  | badDigit (digit : Char) (numeral : Numeral)
  | leadingZeros
  | tooManyDigits (digits : Nat)
  | escape (fault : EscapeFault) (first last : Nat)
  | byteEscape (position : Nat)
  | bytesNotAscii
  | mixedBytes
  | missingComma
  | missingElse
  | missingParentheses (function : Text)
  | maybeEquals
  | cannotAssign (what : Text)
  | cannotName (what : Text)
  | cannotAssignConstant (what : Text)
  | starredHere
  | doubleStarredHere
  | starredValue
  | missingColon
  | missingValue
  | unpackingOrder
  | afterUnpacking
  | afterKeyword
  | assignmentInCall
  deriving DecidableEq, Repr

/-- The wording of a fault. -/
def SyntaxFault.message : SyntaxFault → Text
  | invalid => "invalid syntax"
  | neverClosed bracket => "'" ++ [bracket] ++ "' was never closed"
  | unmatched bracket => "unmatched '" ++ [bracket] ++ "'"
  | mismatch closing opening line =>
    let onLine : Text := match line with
      | some n => " on line " ++ Text.ofNat n
      | none => []
    "closing parenthesis '" ++ [closing] ++ "' does not match opening parenthesis '" ++
      [opening] ++ "'" ++ onLine
  | tooDeep => "too many nested parentheses"
  | unterminated line =>
    "unterminated string literal (detected at line " ++ Text.ofNat line ++ ")"
  | unterminatedTriple line =>
    "unterminated triple-quoted string literal (detected at line " ++ Text.ofNat line ++ ")"
  | afterBackslash => "unexpected character after line continuation character"
  | badCharacter c => "invalid character '" ++ [c] ++ "' (U+" ++ Text.codePoint c ++ ")"
  | unprintable c => "invalid non-printable character U+" ++ Text.codePoint c
  | badNumeral numeral => "invalid " ++ numeral.name ++ " literal"
  | badDigit digit numeral =>
    "invalid digit '" ++ [digit] ++ "' in " ++ numeral.name ++ " literal"
  | leadingZeros =>
    "leading zeros in decimal integer literals are not permitted; " ++
      "use an 0o prefix for octal integers"
  | tooManyDigits digits =>
    Decimal.limitMessage digits ++
      " - Consider hexadecimal for huge integer literals to avoid decimal conversion limits."
  | escape fault first last =>
    "(unicode error) 'unicodeescape' codec can't decode bytes in position " ++ Text.ofNat first ++
      "-" ++ Text.ofNat last ++ ": " ++ fault.message
  | byteEscape position =>
    "(value error) invalid \\x escape at position " ++ Text.ofNat position
  | bytesNotAscii => "bytes can only contain ASCII literal characters"
  | mixedBytes => "cannot mix bytes and nonbytes literals"
  | missingComma => "invalid syntax. Perhaps you forgot a comma?"
  | missingElse => "expected 'else' after 'if' expression"
  | missingParentheses function =>
    "Missing parentheses in call to '" ++ function ++ "'. Did you mean " ++ function ++ "(...)?"
  | maybeEquals => "invalid syntax. Maybe you meant '==' or ':=' instead of '='?"
  | cannotAssign what =>
    "cannot assign to " ++ what ++ " here. Maybe you meant '==' instead of '='?"
  | cannotName what => "cannot use assignment expressions with " ++ what
  | cannotAssignConstant what => "cannot assign to " ++ what
  | starredHere => "cannot use starred expression here"
  | doubleStarredHere => "cannot use double starred expression here"
  | starredValue => "cannot use a starred expression in a dictionary value"
  | missingColon => "':' expected after dictionary key"
  | missingValue => "expression expected after dictionary key and ':'"
  | unpackingOrder => "iterable argument unpacking follows keyword argument unpacking"
  | afterUnpacking => "positional argument follows keyword argument unpacking"
  | afterKeyword => "positional argument follows keyword argument"
  | assignmentInCall => "expression cannot contain assignment, perhaps you meant \"==\"?"

/-- Why an expression has no plain value. -/
inductive ValueFault
  | nulCharacter
  | unhashable (type : Text)
  | nothing
  | malformed (what : Text)
  deriving DecidableEq, Repr

/-- The wording of a fault. Where an expression is stored does not matter: one place stands for
all. -/
def ValueFault.message : ValueFault → Text
  | nulCharacter => "source code string cannot contain null bytes"
  | unhashable type => "unhashable type: '" ++ type ++ "'"
  | nothing => "malformed node or string: None"
  | malformed what =>
    "malformed node or string on line 1: <ast." ++ what ++ " object at 0x7f0000000000>"

end Pinpoint.Markup.Handler
