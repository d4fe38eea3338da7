import Pinpoint.Markup.Handler.Expr
import Pinpoint.Markup.Handler.Token
import Std.Data.HashMap

/-!
# Readers

A reader looks at the tokens in front of it and finds something, finds nothing, or meets a fault
that ends all reading. Choices are ordered: a second reader starts where the first one did. What
has been found at a place is remembered, so that no place is read twice for the same thing.

* `Reader.orElse` — what the first of two readers finds, or else the second.
* `Reader.remembered` — a reader that asks its memory first.
-/

namespace Pinpoint.Markup.Handler

/-- The things that are remembered. -/
inductive Rule
  | expression
  | disjunction
  | conjunction
  | inversion
  | union
  | factor
  | primary
  | misuse
  deriving DecidableEq, Hashable, Repr

/-- Where a reader stands: the tokens left, and how many brackets the last one left open. -/
structure Place where
  rest : List Token
  depth : Nat := 0

/-- The state of reading. Checks are readers that look for likely mistakes; they may be off. -/
structure Reading where
  place : Place
  checks : Bool
  memory : Std.HashMap (Rule × Nat) (Option (Expr × Place)) := {}

/-- A reader. -/
def Reader (α : Type) : Type := Reading → Except SyntaxFault (Option α × Reading)

namespace Reader

/-- Finds a value without reading anything. -/
def found (a : α) : Reader α := fun s => .ok (some a, s)

/-- Finds nothing. -/
def absent : Reader α := fun s => .ok (none, s)

/-- Ends all reading. -/
def refuse (fault : SyntaxFault) : Reader α := fun _ => .error fault

/-- Goes on with what has been found. -/
def andThen (p : Reader α) (next : α → Reader β) : Reader β := fun s =>
  match p s with
  | .error fault => .error fault
  | .ok (none, s) => .ok (none, s)
  | .ok (some a, s) => next a s

instance : Monad Reader where
  pure := found
  bind := andThen

/-- What a reader finds, or else what a second one finds from the same place. -/
def orElse (p q : Reader α) : Reader α := fun s =>
  match p s with
  | .ok (none, s') => q { s' with place := s.place }
  | answer => answer

instance : OrElse (Reader α) := ⟨fun p q => orElse p (q ())⟩

/-- What a reader finds, if anything. -/
def optional (p : Reader α) : Reader (Option α) := (do return some (← p)) <|> found none

/-- Succeeds where a reader finds something, and stays there. -/
def ahead (p : Reader α) : Reader Unit := fun s =>
  match p s with
  | .error fault => .error fault
  | .ok (a, s') => .ok (a.map fun _ => (), { s' with place := s.place })

/-- Succeeds where a reader finds nothing, and stays there. -/
def notAhead (p : Reader α) : Reader Unit := fun s =>
  match p s with
  | .error fault => .error fault
  | .ok (some _, s') => .ok (none, { s' with place := s.place })
  | .ok (none, s') => .ok (some (), { s' with place := s.place })

/-- Goes on as long as a step finds something, `fuel` times at most. -/
def repeatWith (step : α → Reader α) : (fuel : Nat) → α → Reader α
  | 0, a => found a
  | fuel + 1, a => fun s =>
    match step a s with
    | .error fault => .error fault
    | .ok (none, s') => .ok (some a, { s' with place := s.place })
    | .ok (some b, s') => repeatWith step fuel b s'

/-- Goes on as long as a step finds something. Every step takes a token. -/
def repeated (step : α → Reader α) (a : α) : Reader α := fun s =>
  repeatWith step s.place.rest.length a s

/-! ## Checks and memory -/

/-- A reader that is used for checks only. -/
def check (p : Reader α) : Reader α := fun s => if s.checks then p s else .ok (none, s)

/-- A reader without its checks. -/
def unchecked (p : Reader α) : Reader α := fun s =>
  match p { s with checks := false } with
  | .error fault => .error fault
  | .ok (a, s') => .ok (a, { s' with checks := s.checks })

/-- How many brackets the last token left open. -/
def depth : Reader Nat := fun s => .ok (some s.place.depth, s)

/-- A reader that asks its memory first. Places are known by the number of tokens left. -/
def remembered (rule : Rule) (p : Reader Expr) : Reader Expr := fun s =>
  let key := (rule, s.place.rest.length)
  match s.memory[key]? with
  | some (some (e, place)) => .ok (some e, { s with place })
  | some none => .ok (none, s)
  | none =>
    match p s with
    | .error fault => .error fault
    | .ok (answer, s') =>
      let known := answer.map fun e => (e, s'.place)
      .ok (answer, { s' with memory := s'.memory.insert key known })

/-! ## Tokens -/

/-- Takes the next token, if it is wanted. -/
def take (wanted : Symbol → Option α) : Reader α := fun s =>
  match s.place.rest with
  | [] => .ok (none, s)
  | token :: rest =>
    match token.symbol with
    | .stop fault => .error fault
    | symbol =>
      match wanted symbol with
      | some a => .ok (some a, { s with place := ⟨rest, token.depth⟩ })
      | none => .ok (none, s)

/-- Takes a symbol. -/
def symbol (wanted : Symbol) : Reader Unit := take fun s => if s = wanted then some () else none

/-- Takes a sign. -/
def sign (text : String) : Reader Unit := symbol (.sign text)

/-- Takes a word that has a meaning of its own. -/
def keyword (word : String) : Reader Unit := symbol (.word word)

/-- The words that are no names. -/
def keywords : List String := [
  "False", "None", "True", "and", "as", "assert", "async", "await", "break", "class", "continue",
  "def", "del", "elif", "else", "except", "finally", "for", "from", "global", "if", "import", "in",
  "is", "lambda", "nonlocal", "not", "or", "pass", "raise", "return", "try", "while", "with",
  "yield"]

/-- Takes a name. -/
def name : Reader Text := take fun
  | .word w => if keywords.any (·.toList = w) then none else some w
  | _ => none

/-- What a reader finds, again and again, with commas between. -/
def separated (p : Reader α) : Reader (List α) := do
  let first ← p
  let others ← repeated (fun found => do sign ","; return (← p) :: found) []
  return first :: others.reverse

end Reader

end Pinpoint.Markup.Handler
