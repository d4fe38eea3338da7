import Pinpoint.Text.Quoted

/-!
# Faults of a document

A reader that refuses a document tells why and where: it keeps what was still to be read, and the
place is counted from that.
-/

namespace Pinpoint.Toml

/-- The names that lead to a table or value. -/
abbrev Key := List Text

/-- A key as it is shown in messages. -/
def Key.literal : Key → Text
  | [k] => '(' :: (Text.quoted k ++ ",)")
  | ks => '(' :: (Text.join ", ".toList (ks.map Text.quoted) ++ ")")

/-- Why a document is refused. -/
inductive Reason
  | invalidStatement
  | expectedNewline
  | expected (t : Text)
  | invalidCharacter (c : Char)
  | declaredTwice (key : Key)
  | overwrite
  | tableEnd
  | listEnd
  | immutable (key : Key)
  | redefined (key : Key)
  | expectedEquals
  | keyStart
  | unclosedList
  | unclosedTable
  | duplicateKey (name : Text)
  | badEscape
  | badHex
  | notScalar
  | unterminated
  | illegal (c : Char)
  | badDate
  | invalidValue
  deriving DecidableEq, Repr

/-- The wording of a reason. -/
def Reason.message : Reason → Text
  | invalidStatement => "Invalid statement"
  | expectedNewline => "Expected newline or end of document after a statement"
  | expected t => "Expected " ++ Text.quoted t
  | invalidCharacter c => "Found invalid character " ++ Text.quoted [c]
  | declaredTwice key => "Cannot declare " ++ key.literal ++ " twice"
  | overwrite => "Cannot overwrite a value"
  | tableEnd => "Expected ']' at the end of a table declaration"
  | listEnd => "Expected ']]' at the end of an array declaration"
  | immutable key => "Cannot mutate immutable namespace " ++ key.literal
  | redefined key => "Cannot redefine namespace " ++ key.literal
  | expectedEquals => "Expected '=' after a key in a key/value pair"
  | keyStart => "Invalid initial character for a key part"
  | unclosedList => "Unclosed array"
  | unclosedTable => "Unclosed inline table"
  | duplicateKey name => "Duplicate inline table key " ++ Text.quoted name
  | badEscape => "Unescaped '\\' in a string"
  | badHex => "Invalid hex value"
  | notScalar => "Escaped character is not a Unicode scalar value"
  | unterminated => "Unterminated string"
  | illegal c => "Illegal character " ++ Text.quoted [c]
  | badDate => "Invalid date or datetime"
  | invalidValue => "Invalid value"

/-- What stops a reader: a fault of the document before `rest`, or a number with more digits than
are converted at all. -/
inductive Stop
  | fault (reason : Reason) (rest : Text)
  | overlong (digits : Nat)
  deriving DecidableEq, Repr

/-- The place before `rest`, a line and a column, in a document. -/
def place (source rest : Text) : Text :=
  match rest with
  | [] => "end of document"
  | _ =>
    let before := source.take (source.length - rest.length)
    let column := (before.reverse.takeWhile (· ≠ '\n')).length + 1
    "line " ++ Text.ofNat (before.count '\n' + 1) ++ ", column " ++ Text.ofNat column

end Pinpoint.Toml
