import Pinpoint.Text.CodePoint

/-!
# Shell words

A command line is split into words at blanks. Quotes and backslashes keep blanks, and each other,
inside a word: between single quotes every character stands for itself; between double quotes a
backslash escapes a double quote or a backslash and stands for itself before anything else;
outside quotes a backslash escapes any character. All this is about characters; whatever else may
stand in a command line stands for itself, and needs quotes.

* `Shell.words` — the words of a command line.
* `Shell.quote`, `Shell.join` — a command line that has given words.
-/

namespace Pinpoint.Shell

/-- Why a text is no command line. -/
inductive Fault
  | noClosingQuotation
  | noEscapedCharacter
  deriving DecidableEq, Repr

/-- The wording of a fault. -/
def Fault.message : Fault → Text
  | noClosingQuotation => "No closing quotation"
  | noEscapedCharacter => "No escaped character"

variable {α : Type} [Alphabet α]

open Alphabet (char? ofChar)

/-- A character that separates words. -/
def isSeparator (c : α) : Bool :=
  (char? c).any fun c => c = ' ' || c = '\t' || c = '\r' || c = '\n'

/-- Where a reader stands: outside quotes, between quotes, or after a backslash. -/
inductive Mode
  | plain
  | escaped
  | single
  | double
  | doubleEscaped
  deriving DecidableEq, Repr

/-- The word read so far, or one that begins without a character. -/
def begun (word : Option (List α)) : Option (List α) := some (word.getD [])

/-- The word read so far, if one has begun, with one more character at its end. -/
def extend (word : Option (List α)) (c : α) : Option (List α) := some (word.getD [] ++ [c])

/-- The word read so far with a backslash at its end, unless that escapes the next character. -/
def keepBackslash (word : Option (List α)) (next : α) : Option (List α) :=
  if char? next = some '"' ∨ char? next = some '\\' then word else extend word (ofChar '\\')

/-- Reads on from a mode and a word that may have begun. -/
def wordsFrom : Mode → (word : Option (List α)) → List α → Except Fault (List (List α))
  | .plain, word, [] => .ok word.toList
  | .escaped, _, [] => .error .noEscapedCharacter
  | .doubleEscaped, _, [] => .error .noEscapedCharacter
  | .single, _, [] => .error .noClosingQuotation
  | .double, _, [] => .error .noClosingQuotation
  | .plain, word, c :: rest =>
    if isSeparator c then do return word.toList ++ (← wordsFrom .plain none rest)
    else if char? c = some '\\' then wordsFrom .escaped (begun word) rest
    else if char? c = some '\'' then wordsFrom .single (begun word) rest
    else if char? c = some '"' then wordsFrom .double (begun word) rest
    else wordsFrom .plain (extend word c) rest
  | .escaped, word, c :: rest => wordsFrom .plain (extend word c) rest
  | .single, word, c :: rest =>
    if char? c = some '\'' then wordsFrom .plain word rest
    else wordsFrom .single (extend word c) rest
  | .double, word, c :: rest =>
    if char? c = some '"' then wordsFrom .plain word rest
    else if char? c = some '\\' then wordsFrom .doubleEscaped word rest
    else wordsFrom .double (extend word c) rest
  | .doubleEscaped, word, c :: rest => wordsFrom .double (extend (keepBackslash word c) c) rest

/-- The words of a command line. -/
def words (t : List α) : Except Fault (List (List α)) := wordsFrom .plain none t

/-- A character that needs no quotes. -/
def isSafe (c : α) : Bool :=
  (char? c).any fun c => c.isAlphanum || "_@%+=:,./-".toList.contains c

/-- One character between single quotes; a single quote itself goes between double ones. -/
def quoteChar (c : α) : List α :=
  if char? c = some '\'' then "'\"'\"'".toList.map ofChar else [c]

/-- A word in quotes, if it needs them. -/
def quote (word : List α) : List α :=
  if word ≠ [] ∧ word.all isSafe then word
  else ofChar '\'' :: (word.flatMap quoteChar ++ [ofChar '\''])

/-- A command line that has given words. -/
def join (ws : List (List α)) : List α := [ofChar ' '].intercalate (ws.map quote)

end Pinpoint.Shell
