import Pinpoint.Text.Pattern

/-!
# Reserved plain texts

A text written without quotes may be taken for something other than a text: a truth value, a
number, a date, nothing at all, or a mark of the notation. Such a text is reserved, and is written
between quotes.
-/

namespace Pinpoint.Yaml

open Pattern

/-- Words with a meaning of their own. -/
def reservedWords : List Text := [
  "", "~", "null", "Null", "NULL",
  "yes", "Yes", "YES", "no", "No", "NO", "true", "True", "TRUE", "false", "False", "FALSE",
  "on", "On", "ON", "off", "Off", "OFF",
  "=", "<<"]

/-- A sign, which may be left out. -/
def sign : Pattern := optional (oneOf "-+")

/-- A digit or an underscore. -/
def digitOrUnderscore : Pattern := one fun c => c.isDigit || c = '_'

/-- Digits, and underscores after the first of them. -/
def digits : Pattern := seq digit (many digitOrUnderscore)

/-- Minutes or seconds after a colon, as often as they come. -/
def sixties : Pattern := atLeastOne (sequence [char ':', optional (oneOf "012345"), digit])

/-- A power of ten with its sign. -/
def powerOfTen : Pattern := sequence [oneOf "eE", oneOf "-+", atLeastOne digit]

/-- Whole numbers: binary, octal, decimal, hexadecimal, and in sixties. -/
def wholeNumbers : List Pattern := [
  sequence [sign, literal "0b", atLeastOne (oneOf "01_")],
  sequence [sign, char '0', atLeastOne (oneOf "01234567_")],
  seq sign (choice (char '0') (seq (oneOf "123456789") (many digitOrUnderscore))),
  sequence [sign, literal "0x", atLeastOne (oneOf "0123456789abcdefABCDEF_")],
  sequence [sign, oneOf "123456789", many digitOrUnderscore, sixties]]

/-- Numbers with a point, and what is no number or no finite one. -/
def pointNumbers : List Pattern := [
  sequence [sign, digits, char '.', many digitOrUnderscore, optional powerOfTen],
  sequence [char '.', digits, optional powerOfTen],
  sequence [sign, digits, sixties, char '.', many digitOrUnderscore],
  sequence [sign, char '.', anyOf [literal "inf", literal "Inf", literal "INF"]],
  sequence [char '.', anyOf [literal "nan", literal "NaN", literal "NAN"]]]

/-- One or two digits. -/
def oneOrTwoDigits : Pattern := seq digit (optional digit)

/-- Blanks and tabs. -/
def blanks : Pattern := many (oneOf " \t")

/-- Four digits of a year. -/
def year : Pattern := sequence [digit, digit, digit, digit]

/-- A minute or a second, with a colon in front. -/
def sixtieth : Pattern := sequence [char ':', digit, digit]

/-- An offset from universal time. -/
def offset : Pattern :=
  choice (char 'Z') (sequence [oneOf "-+", oneOrTwoDigits, optional sixtieth])

/-- Dates, and dates with a time. -/
def moments : List Pattern := [
  sequence [year, char '-', digit, digit, char '-', digit, digit],
  sequence [year, char '-', oneOrTwoDigits, char '-', oneOrTwoDigits,
    choice (oneOf "Tt") (atLeastOne (oneOf " \t")), oneOrTwoDigits, sixtieth, sixtieth,
    optional (seq (char '.') (many digit)), optional (seq blanks offset)]]

/-- A plain text would be taken for something other than a text. -/
def isReserved (t : Text) : Bool :=
  reservedWords.contains t || (anyOf (wholeNumbers ++ pointNumbers ++ moments)).accepts t

end Pinpoint.Yaml
