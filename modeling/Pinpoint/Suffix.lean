import Pinpoint.Decimal

/-!
# Position suffixes

An argument may end in `:LINE:COLUMN` or in `:LINE`. Both forms are found from the end of the text,
so that the path in front may hold colons of its own.

* In `path:LINE:COLUMN` the two groups are any non-empty texts without colon, slash and backslash;
  whether they are numbers is decided afterwards, by `Reading.ofText`.
* In `path:LINE` the group is ASCII digits.

* `lineColumn?`, `lineOnly?` — the two forms. They cut a text at its colons, where nothing is lost
  (`lastColon?_eq_some`).
* `Reading.ofText` — a group as a number.
-/

namespace Pinpoint

/-! ## Number fragments -/

/-- The largest line or column: an unsigned number of 64 bits. -/
def maxNumber : Nat := 0xFFFFFFFFFFFFFFFF

/-- Why a fragment is no line or column number (`NumberParseError`). -/
inductive NumberFault
  | empty
  | invalidDigit
  | tooLarge
  deriving DecidableEq, Repr

/-- The wording of a number fault. -/
def NumberFault.message : NumberFault → Text
  | .empty => "cannot parse integer from empty string"
  | .invalidDigit => "invalid digit found in string"
  | .tooLarge => "number too large to fit in target type"

/-- What a fragment reads as. A text with more digits than `Decimal.digitLimit` is not converted at
all, whatever its value: that is no fault of the number but ends the whole computation. -/
inductive Reading
  | number (n : Nat)
  | refused (fault : NumberFault)
  | overlong (digits : Nat)
  deriving DecidableEq, Repr

/-- Reads ASCII digits as an unsigned number of 64 bits (`parse_unsigned`). Signs, blanks and the
digits of other scripts are refused. -/
def Reading.ofText (t : Text) : Reading :=
  if t = [] then .refused .empty
  else if !t.all Char.isDigit then .refused .invalidDigit
  else if Decimal.digitLimit < t.length then .overlong t.length
  else if Decimal.value t ≤ maxNumber then .number (Decimal.value t)
  else .refused .tooLarge

/-! ## The two grammars -/

/-- A character that a group of `path:LINE:COLUMN` may hold. -/
def isGroupChar (c : Char) : Bool := c ≠ ':' && c ≠ '/' && c ≠ '\\'

/-- A text seen as `path:LINE:COLUMN`. -/
structure LineColumn where
  source : Text
  path : Text
  line : Text
  column : Text
  /-- The number of characters in front of the column group. -/
  columnStart : Nat
  deriving DecidableEq, Repr

/-- A text seen as `path:LINE`. -/
structure LineOnly where
  source : Text
  path : Text
  line : Text
  deriving DecidableEq, Repr

/-- Cuts a text at its last colon. -/
def lastColon? (t : Text) : Option (Text × Text) :=
  match t.reverse.dropWhile (· ≠ ':') with
  | [] => none
  | _ :: before => some (before.reverse, (t.reverse.takeWhile (· ≠ ':')).reverse)

/-- A non-empty text whose characters all pass `ok`. -/
def isGroup (ok : Char → Bool) (t : Text) : Bool := t ≠ [] && t.all ok

/-- Finds `path:LINE:COLUMN` at the end of a text (`match_line_column`). -/
def lineColumn? (t : Text) : Option LineColumn := do
  let (front, column) ← lastColon? t
  let (path, line) ← lastColon? front
  guard (path ≠ [] ∧ isGroup isGroupChar line ∧ isGroup isGroupChar column)
  return ⟨t, path, line, column, t.length - column.length⟩

/-- Finds `path:LINE` at the end of a text (`match_line`). -/
def lineOnly? (t : Text) : Option LineOnly := do
  let (path, line) ← lastColon? t
  guard (path ≠ [] ∧ isGroup Char.isDigit line)
  return ⟨t, path, line⟩

/-- The path with the line group folded back into it (`SuffixMatch.collapsed_path`): for
`name:number:7` it is `name:number`. -/
def LineColumn.collapsedPath (m : LineColumn) : Text := m.source.take (m.columnStart - 1)

/-! ## Either form -/

/-- A suffix found by one of the two grammars (`SuffixMatch`). -/
inductive Suffix
  | lineColumn (m : LineColumn)
  | lineOnly (m : LineOnly)
  deriving DecidableEq, Repr

namespace Suffix

/-- The path in front of the suffix. -/
def path : Suffix → Text
  | lineColumn m => m.path
  | lineOnly m => m.path

/-- The text of the line group. -/
def line : Suffix → Text
  | lineColumn m => m.line
  | lineOnly m => m.line

/-- The text of the column group, if there is one. -/
def column? : Suffix → Option Text
  | lineColumn m => some m.column
  | lineOnly _ => none

/-- The offset of the column group, if there is one. -/
def columnStart? : Suffix → Option Nat
  | lineColumn m => some m.columnStart
  | lineOnly _ => none

/-- A suffix without a column group has nothing to fold back. -/
inductive CollapseError
  | noColumn
  deriving DecidableEq, Repr

/-- The wording of a collapse error. -/
def CollapseError.message : CollapseError → Text
  | .noColumn => "Only line+column matches can be collapsed"

/-- The path with the line group folded back into it. -/
def collapsedPath : Suffix → Except CollapseError Text
  | lineColumn m => .ok m.collapsedPath
  | lineOnly _ => .error .noColumn

end Suffix

/-! ## Cutting loses nothing -/

theorem lastColon?_eq_some {t before after : Text} (h : lastColon? t = some (before, after)) :
    t = before ++ ':' :: after ∧ ':' ∉ after := by
  let isOther (c : Char) : Bool := decide (c ≠ ':')
  have hsplit := List.takeWhile_append_dropWhile (p := isOther) (l := t.reverse)
  have hother := List.all_takeWhile (p := isOther) (l := t.reverse)
  have hhead := List.head?_dropWhile_not isOther t.reverse
  unfold lastColon? at h
  split at h
  · simp at h
  · rename_i c rest hdrop
    replace hdrop : t.reverse.dropWhile isOther = c :: rest := hdrop
    rw [hdrop] at hsplit hhead
    obtain ⟨rfl, rfl⟩ : rest.reverse = before ∧
        (t.reverse.takeWhile isOther).reverse = after := by
      simpa only [Option.some.injEq, Prod.mk.injEq] using h
    have hc : c = ':' := by simpa [isOther] using hhead
    refine ⟨?_, fun hm => ?_⟩
    · simpa [hc] using (congrArg List.reverse hsplit).symm
    · have := List.all_eq_true.1 hother ':' (List.mem_reverse.1 hm)
      simp [isOther] at this

end Pinpoint
