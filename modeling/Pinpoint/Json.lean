import Pinpoint.Text.Hex

/-!
# JSON text

Values are written with two blanks of indentation a level, in ASCII alone: a character outside it
is written as one escape, or as two beyond the basic plane.

* `Json.quote` — a text between double quotes.
* `Json.render` — a value.
-/

namespace Pinpoint

/-- A value as JSON knows it, as far as reports need it. -/
inductive Json
  | text (t : Text)
  | integer (n : Int)
  | boolean (b : Bool)
  | list (items : List Json)
  | object (fields : List (Text × Json))

namespace Json

/-- One escape of four hexadecimal digits. -/
def escapeUnit (n : Nat) : Text := '\\' :: 'u' :: Text.hex 4 n

/-- A character by its number; beyond the basic plane it takes a pair of surrogates. -/
def escapeByNumber (c : Char) : Text :=
  let n := c.toNat
  if n < 0x10000 then escapeUnit n
  else
    let m := n - 0x10000
    escapeUnit (0xD800 + m / 0x400) ++ escapeUnit (0xDC00 + m % 0x400)

/-- One character between double quotes. -/
def escapeChar (c : Char) : Text :=
  if c = '"' then ['\\', '"']
  else if c = '\\' then ['\\', '\\']
  else if c = '\n' then ['\\', 'n']
  else if c = '\r' then ['\\', 'r']
  else if c = '\t' then ['\\', 't']
  else if c = '\x08' then ['\\', 'b']
  else if c = '\x0c' then ['\\', 'f']
  else if 0x20 ≤ c.toNat ∧ c.toNat < 0x7F then [c]
  else escapeByNumber c

/-- A text between double quotes. -/
def quote (t : Text) : Text := '"' :: (t.flatMap escapeChar ++ ['"'])

/-- A new line at a level of indentation. -/
def newline (level : Nat) : Text := '\n' :: List.replicate (2 * level) ' '

mutual

/-- A value that starts at a level of indentation. -/
def renderAt (level : Nat) : Json → Text
  | text t => quote t
  | integer n => Text.ofInt n
  | boolean b => if b then "true" else "false"
  | list [] => "[]"
  | list items => '[' :: (renderItems (level + 1) items ++ newline level ++ [']'])
  | object [] => "\x7b\x7d"
  | object fields => '\x7b' :: (renderFields (level + 1) fields ++ newline level ++ ['\x7d'])

/-- The items of a list, each on a line of its own. -/
def renderItems (level : Nat) : List Json → Text
  | [] => []
  | [item] => newline level ++ renderAt level item
  | item :: rest => newline level ++ renderAt level item ++ ',' :: renderItems level rest

/-- The fields of an object, each on a line of its own. -/
def renderFields (level : Nat) : List (Text × Json) → Text
  | [] => []
  | [(key, value)] => newline level ++ quote key ++ ':' :: ' ' :: renderAt level value
  | (key, value) :: rest =>
    newline level ++ quote key ++ ':' :: ' ' :: renderAt level value ++
      ',' :: renderFields level rest

end

/-- A value, the outermost at the left margin. -/
def render (v : Json) : Text := renderAt 0 v

end Json

end Pinpoint
