import Pinpoint.Console.Table
import Pinpoint.Console.Wrap
import Pinpoint.Markup

/-!
# Printing on a console

Most of what is printed goes through markup. Prose is broken into lines at the width of the
console; results are not, so that a long path stays on one line. What is meant for other programs
is no markup, and only loses the control sequences of terminals.

**Limits.** Where lines are broken, and that a result keeps the blanks at its end, is a matter of
one printer, as its markup is. The width of the console is left open.

* `print`, `printUnbroken`, `printPlain`: prose, a result, and a text that is no markup.
* `printTable`: a table.
-/

namespace Pinpoint.Console

open Markup (EmojiTable)

/-- Lines, each with its end. -/
def unlines (lines : List Text) : Text := lines.flatMap (· ++ ['\n'])

/-- Prints markup as prose, broken into lines on a console of some width. -/
def print (width : Nat) (emojis : EmojiTable) (markup : Text) : Except Markup.Fault Text := do
  return unlines (wrap width (← Markup.render emojis markup))

/-- Prints markup as a result, with its own line breaks only. -/
def printUnbroken (emojis : EmojiTable) (markup : Text) : Except Markup.Fault Text := do
  return unlines ((Text.cut '\n' (← Markup.render emojis markup)).map expandTabs)

/-- The width of the level in front of a message. -/
def levelWidth : Nat := 8

/-- Prints a message that is no markup behind its level. Its lines are as wide as the console. -/
def printMessage (width : Nat) (level message : Text) : Text :=
  let rest := width - (levelWidth + 1)
  let lines := wrap rest (message.filter (!Markup.isDropped ·))
  let heads := level :: List.replicate (lines.length - 1) []
  unlines (List.zipWith
    (fun head line => fitLeft (levelWidth + 1) head ++ fitLeft rest (fitLeft rest line))
    heads lines)

/-- A character between the opening bracket of a control sequence and its last letter. -/
def isSequenceParameter (c : Char) : Bool := c.isDigit || c = ';' || c = '?'

/-- The rest after a control sequence whose opening bracket has been read. -/
def afterSequence? (t : Text) : Option Text :=
  match t.dropWhile isSequenceParameter with
  | c :: rest => if c.isAlpha then some rest else none
  | [] => none

theorem length_afterSequence? {t rest : Text} (h : afterSequence? t = some rest) :
    rest.length < t.length := by
  have hle := (List.dropWhile_sublist isSequenceParameter (l := t)).length_le
  unfold afterSequence? at h
  split at h
  · rename_i c after heq
    rw [heq, List.length_cons] at hle
    split at h
    · cases h; omega
    · cases h
  · cases h

/-- Leaves out the control sequences of terminals. -/
def dropSequences : Text → Text
  | '\x1b' :: '[' :: t =>
    match _h : afterSequence? t with
    | some rest => dropSequences rest
    | none => '\x1b' :: dropSequences ('[' :: t)
  | c :: t => c :: dropSequences t
  | [] => []
termination_by t => t.length
decreasing_by
  · have := length_afterSequence? (by assumption)
    simp only [List.length_cons]
    omega
  · simp
  · simp

/-- Prints a text that is no markup, on a line of its own. -/
def printPlain (t : Text) : Text := dropSequences t ++ ['\n']

/-- Prints a table whose title and cells are markup. -/
def printTable (width : Nat) (emojis : EmojiTable) (t : Table) : Except Markup.Fault Text := do
  let title ← Markup.render emojis t.title
  let header ← t.header.mapM (Markup.render emojis)
  let rows ← t.rows.mapM fun row => row.mapM (Markup.render emojis)
  return unlines (Table.lines width ⟨title, header, rows⟩)

end Pinpoint.Console
