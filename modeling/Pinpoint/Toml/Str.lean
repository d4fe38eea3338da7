import Pinpoint.Text.Hex
import Pinpoint.Toml.Fault

/-!
# Quoted text of a document

Text between double quotes knows escapes, text between single quotes knows none. Three quotes
allow line breaks, drop one at the very start, and may be followed by up to two quotes that still
belong to the text.
-/

namespace Pinpoint.Toml

/-- A control character that no text may hold as it is. Tabs may stand anywhere, line breaks only
where `multiline` allows them. -/
def isIllegal (multiline : Bool) (c : Char) : Bool :=
  (c.toNat < 0x20 || c.toNat = 0x7F) && c ≠ '\t' && !(multiline && c = '\n')

/-- The character that a letter after a backslash stands for. -/
def escapedChar? : Char → Option Char
  | 'b' => some '\x08'
  | 't' => some '\t'
  | 'n' => some '\n'
  | 'f' => some '\x0c'
  | 'r' => some '\r'
  | '"' => some '"'
  | '\\' => some '\\'
  | _ => none

/-- The character of a code point, if it is one. -/
def scalar? (n : Nat) : Option Char := if n.isValidChar then some (Char.ofNat n) else none

/-- Where a reader stands between double quotes. -/
inductive StringMode
  | plain
  /-- `left` digits of a code point are missing; they began at `start`. -/
  | hex (left value : Nat) (start : Text)
  /-- After a backslash and a blank: only blanks may follow on this line. -/
  | lineEnd
  /-- After a backslash and the end of its line: blanks and line breaks are skipped. -/
  | skip

/-- Reads between double quotes up to the closing ones. -/
def basicFrom (multiline : Bool) : StringMode → Text → Except Stop (Text × Text)
  | .hex _ _ start, [] => .error (.fault .badHex start)
  | _, [] => .error (.fault .unterminated [])
  | .hex left value start, c :: rest =>
    match Text.hexValue? c with
    | none => .error (.fault .badHex start)
    | some d =>
      if left = 1 then
        match scalar? (16 * value + d) with
        | none => .error (.fault .notScalar rest)
        | some scalar => do
          let (t, after) ← basicFrom multiline .plain rest
          return (scalar :: t, after)
      else basicFrom multiline (.hex (left - 1) (16 * value + d) start) rest
  | .lineEnd, c :: rest =>
    if c = ' ' ∨ c = '\t' then basicFrom multiline .lineEnd rest
    else if c = '\n' then basicFrom multiline .skip rest
    else .error (.fault .badEscape (c :: rest))
  | .skip, ' ' :: rest => basicFrom multiline .skip rest
  | .skip, '\t' :: rest => basicFrom multiline .skip rest
  | .skip, '\n' :: rest => basicFrom multiline .skip rest
  | _, '"' :: rest =>
    if multiline then
      match rest with
      | '"' :: '"' :: after => .ok ([], after)
      | _ => do
        let (t, after) ← basicFrom multiline .plain rest
        return ('"' :: t, after)
    else .ok ([], rest)
  | _, '\\' :: [] => .error (.fault .badEscape [])
  | _, '\\' :: c :: rest =>
    if multiline ∧ (c = ' ' ∨ c = '\t') then basicFrom multiline .lineEnd rest
    else if multiline ∧ c = '\n' then basicFrom multiline .skip rest
    else if c = 'u' then basicFrom multiline (.hex 4 0 rest) rest
    else if c = 'U' then basicFrom multiline (.hex 8 0 rest) rest
    else
      match escapedChar? c with
      | none => .error (.fault .badEscape rest)
      | some e => do
        let (t, after) ← basicFrom multiline .plain rest
        return (e :: t, after)
  | _, c :: rest =>
    if isIllegal multiline c then .error (.fault (.illegal c) (c :: rest))
    else do
      let (t, after) ← basicFrom multiline .plain rest
      return (c :: t, after)

/-- The first character of a text that may not stand there, with what follows it. -/
def findIllegal? (multiline : Bool) (t : Text) : Option (Char × Text) :=
  match t.dropWhile (!isIllegal multiline ·) with
  | [] => none
  | c :: rest => some (c, c :: rest)

/-- Reads up to a closing mark, without escapes. -/
def takeUntil (mark : Text) (multiline : Bool) (t : Text) : Except Stop (Text × Text) :=
  match Text.breakOn? mark t with
  | none => .error (.fault (.expected mark) [])
  | some (inside, after) =>
    match findIllegal? multiline inside with
    | none => .ok (inside, after)
    | some (c, fromThere) =>
      .error (.fault (.invalidCharacter c) (fromThere ++ mark ++ after))

/-- Adds the quotes, at most two, that follow a closing mark of three. -/
def takeExtraQuotes (quote : Char) (t rest : Text) : Text × Text :=
  match rest with
  | c :: d :: after =>
    if c = quote then
      if d = quote then (t ++ [quote, quote], after) else (t ++ [quote], d :: after)
    else (t, rest)
  | [c] => if c = quote then (t ++ [quote], []) else (t, rest)
  | [] => (t, [])

/-- Drops a line break at the start of a text. -/
def dropNewline : Text → Text
  | '\n' :: rest => rest
  | t => t

/-- Reads text of one line between double quotes, after the opening one. -/
def takeBasic (t : Text) : Except Stop (Text × Text) := basicFrom false .plain t

/-- Reads text of one line between single quotes, after the opening one. -/
def takeLiteral (t : Text) : Except Stop (Text × Text) := takeUntil ['\''] false t

/-- Reads text between three double quotes, after the opening ones. -/
def takeLongBasic (t : Text) : Except Stop (Text × Text) := do
  let (inside, rest) ← basicFrom true .plain (dropNewline t)
  return takeExtraQuotes '"' inside rest

/-- Reads text between three single quotes, after the opening ones. -/
def takeLongLiteral (t : Text) : Except Stop (Text × Text) := do
  let (inside, rest) ← takeUntil ['\'', '\'', '\''] true (dropNewline t)
  return takeExtraQuotes '\'' inside rest

end Pinpoint.Toml
