import Pinpoint.Text

/-!
# Regular patterns

A pattern describes texts by characters, sequence, choice and repetition. A text is matched
character by character: what a pattern says about the rest of a text, once its first character is
known, is again a pattern.

* `Pattern.accepts` — a text belongs to a pattern.
* `Pattern.next` — what may follow a first character.
-/

namespace Pinpoint

/-- A regular set of texts. -/
inductive Pattern
  | nothing
  | empty
  | one (p : Char → Bool)
  | seq (a b : Pattern)
  | choice (a b : Pattern)
  | many (a : Pattern)

namespace Pattern

/-- The empty text belongs to the pattern. -/
def acceptsEmpty : Pattern → Bool
  | nothing => false
  | empty => true
  | one _ => false
  | seq a b => a.acceptsEmpty && b.acceptsEmpty
  | choice a b => a.acceptsEmpty || b.acceptsEmpty
  | many _ => true

/-- One pattern after another, kept small. -/
def follow : Pattern → Pattern → Pattern
  | nothing, _ => nothing
  | empty, b => b
  | a, b => seq a b

/-- One pattern or another, kept small. -/
def either : Pattern → Pattern → Pattern
  | nothing, b => b
  | a, nothing => a
  | a, b => choice a b

/-- What may follow the character `c` at the start of a text of the pattern. -/
def next (c : Char) : Pattern → Pattern
  | nothing => nothing
  | empty => nothing
  | one p => if p c then empty else nothing
  | seq a b =>
    if a.acceptsEmpty then either (follow (a.next c) b) (b.next c) else follow (a.next c) b
  | choice a b => either (a.next c) (b.next c)
  | many a => follow (a.next c) (many a)

/-- A text belongs to the pattern. -/
def accepts (a : Pattern) : Text → Bool
  | [] => a.acceptsEmpty
  | c :: rest => (a.next c).accepts rest

/-! ## Building patterns -/

/-- Patterns one after the other. -/
def sequence : List Pattern → Pattern
  | [] => empty
  | a :: rest => seq a (sequence rest)

/-- One of several patterns. -/
def anyOf : List Pattern → Pattern
  | [] => nothing
  | a :: rest => choice a (anyOf rest)

/-- A pattern or the empty text. -/
def optional (a : Pattern) : Pattern := choice a empty

/-- A pattern at least once. -/
def atLeastOne (a : Pattern) : Pattern := seq a (many a)

/-- A single character. -/
def char (c : Char) : Pattern := one (· = c)

/-- One of the characters of a text. -/
def oneOf (cs : Text) : Pattern := one (· ∈ cs)

/-- A text as it is. -/
def literal : Text → Pattern
  | [] => empty
  | c :: rest => seq (char c) (literal rest)

/-- A digit. -/
def digit : Pattern := one Char.isDigit

end Pattern

end Pinpoint
