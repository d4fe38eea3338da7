import Pinpoint.Decimal
import Pinpoint.Markup.Emoji
import Pinpoint.Markup.Handler
import Pinpoint.Markup.Style
import Pinpoint.Text.Quoted

/-!
# Markup

Text for a terminal may hold tags between square brackets. An opening tag starts with a small
letter, `#` or `@`, a closing tag with a slash. Backslashes in front of a tag come in pairs that
stand for one each; one more makes the tag plain text. On an output without colours tags leave no
trace, so that rendering only takes them out, checks that closing tags have something to close and
that what handles an event makes sense, replaces emoji codes, and drops control characters.

**Limits.** Other printers have other tags and other ways to escape them; these are the rules of one
of them. Which emojis it knows is left to a table.

* `Markup.escape` — makes the tags of a text plain.
* `Markup.render` — the plain text that is printed.
-/

namespace Pinpoint.Markup

/-- Why markup cannot be printed. -/
inductive Fault
  | unmatched (tag : Text) (position : Nat)
  | nothingToClose (position : Nat)
  | handler (parameters : Text) (fault : Handler.Fault)
  | component (digits : Text)
  deriving DecidableEq, Repr

/-- The wording of a fault. -/
def Fault.message : Fault → Text
  | unmatched tag position =>
    "closing tag '" ++ tag ++ "' at position " ++ Text.ofNat position ++
      " doesn't match any open tag"
  | nothingToClose position =>
    "closing tag '[/]' at position " ++ Text.ofNat position ++ " has nothing to close"
  | handler parameters (.noExpression text fault) =>
    "error parsing " ++ Text.quoted text ++ " in " ++ Text.quoted parameters ++ "; " ++
      fault.message
  | handler parameters (.noValue fault) =>
    "error parsing " ++ Text.quoted parameters ++ "; " ++ fault.message
  | component [] => "invalid literal for int() with base 10: ''"
  | component digits => Decimal.limitMessage digits.length

/-! ## Tags in a text -/

/-- A character that the content of a tag starts with. -/
def startsTag (c : Char) : Bool := ('a' ≤ c && c ≤ 'z') || c = '#' || c = '/' || c = '@'

/-- A character that the content of a tag goes on with. -/
def isInTag (c : Char) : Bool := c ≠ '[' && c ≠ ']'

/-- The content of the tag at the start of a text, and what follows the tag. -/
def takeTag? : Text → Option (Text × Text)
  | '[' :: c :: rest =>
    if startsTag c then
      match rest.dropWhile isInTag with
      | ']' :: after => some (c :: rest.takeWhile isInTag, after)
      | _ => none
    else none
  | _ => none

theorem length_takeTag? {t content after : Text} (h : takeTag? t = some (content, after)) :
    after.length < t.length := by
  unfold takeTag? at h
  split at h
  · rename_i c rest
    split at h
    · split at h
      · rename_i after' heq
        obtain ⟨-, rfl⟩ : _ ∧ after' = after := by simpa using h
        have := (List.dropWhile_suffix isInTag (l := rest)).length_le
        rw [heq] at this
        simp only [List.length_cons] at this ⊢
        omega
      · simp at h
    · simp at h
  · simp at h

/-- A character, or a tag with the number of backslashes in front of it and the place of its
bracket. -/
inductive Piece
  | char (c : Char)
  | tag (backslashes : Nat) (content : Text) (position : Nat)
  deriving DecidableEq, Repr

/-- A backslash. -/
def isBackslash (c : Char) : Bool := c = '\\'

/-- The pieces of a text that starts at a position. -/
def piecesFrom (position : Nat) (t : Text) : List Piece :=
  let slashes := t.takeWhile isBackslash
  match h : takeTag? (t.dropWhile isBackslash) with
  | some (content, after) =>
    have := length_takeTag? h
    have := (List.dropWhile_suffix isBackslash (l := t)).length_le
    .tag slashes.length content (position + slashes.length) ::
      piecesFrom (position + slashes.length + content.length + 2) after
  | none =>
    match t.dropWhile isBackslash, (List.dropWhile_suffix isBackslash (l := t)).length_le with
    | [], _ => slashes.map .char
    | c :: rest, _ =>
      slashes.map .char ++ .char c :: piecesFrom (position + slashes.length + 1) rest
termination_by t.length
decreasing_by
  · omega
  · simp_all only [List.length_cons]
    omega

/-- The pieces of a text. -/
def pieces (t : Text) : List Piece := piecesFrom 0 t

/-! ## Escaping -/

/-- A piece with its tag made plain. -/
def Piece.escape : Piece → Text
  | char c => [c]
  | tag backslashes content _ =>
    List.replicate (2 * backslashes + 1) '\\' ++ '[' :: (content ++ [']'])

/-- A single backslash at the end would escape what follows, so it gets a second one. -/
def closeBackslash (t : Text) : Text :=
  if t.endsWith ['\\'] ∧ ¬ t.endsWith ['\\', '\\'] then t ++ ['\\'] else t

/-- Makes every tag of a text plain. -/
def escape (t : Text) : Text := closeBackslash ((pieces t).flatMap Piece.escape)

/-! ## Rendering -/

/-- Control characters that a terminal acts on instead of showing them. -/
def isDropped (c : Char) : Bool := [7, 8, 11, 12, 13].contains c.toNat

/-- Takes the backslash from every bracket that is no tag. -/
def plainBrackets : Text → Text
  | '\\' :: '[' :: rest => '[' :: plainBrackets rest
  | c :: rest => c :: plainBrackets rest
  | [] => []

/-- How a stretch of plain text is printed. -/
def plain (emojis : EmojiTable) (t : Text) : Text :=
  (replaceEmoji emojis (plainBrackets t)).filter (!isDropped ·)

/-- An open tag: its style, what follows an equals sign in it, and how much is printed before it. -/
structure OpenTag where
  style : Text
  parameters : Option Text
  start : Nat
  deriving DecidableEq, Repr

/-- A tag's name, before any equals sign. -/
def tagName (content : Text) : Text := content.takeWhile (· ≠ '=')

/-- A tag's parameters, after the first equals sign. -/
def tagParameters (content : Text) : Option Text := (content.dropWhile (· ≠ '=')).tail?

/-- The normal form of a style. -/
def normalizeStyle (name : Text) : Except Fault Text := (Style.normalize name).mapError .component

/-- A stretch of printed text, from its first character to the one after its last, that has a
style. -/
structure Span where
  style : Text
  start : Nat
  stop : Nat
  deriving DecidableEq, Repr

/-- What markup prints. -/
structure Styled where
  text : Text
  spans : List Span
  deriving DecidableEq, Repr

/-- The tag names an event. -/
def OpenTag.isEvent (tag : OpenTag) : Bool := tag.style.head? = some '@'

/-- What an open tag that reaches to `stop` does to the text. Parameters count as words of its
style. -/
def OpenTag.span (tag : OpenTag) (stop : Nat) : Span :=
  ⟨tag.style ++ (tag.parameters.map (' ' :: ·)).getD [], tag.start, stop⟩

/-- Takes out the innermost open tag of a style. -/
def close? (style : Text) : List OpenTag → Option (OpenTag × List OpenTag)
  | [] => none
  | tag :: tags =>
    if tag.style = style then some (tag, tags)
    else (close? style tags).map fun (closed, tags) => (closed, tag :: tags)

/-- Closes a tag at a place of the printed text. The parameters of an event must make sense; any
other tag leaves a span. -/
def OpenTag.close (tag : OpenTag) (stop : Nat) : Except Fault (List Span) :=
  match tag.isEvent, tag.parameters with
  | false, _ => .ok [tag.span stop]
  | true, none | true, some [] => .ok []
  | true, some parameters =>
    match Handler.check parameters with
    | .ok () => .ok []
    | .error fault => .error (.handler parameters fault)

/-- The open tags after a tag, innermost first, and what a tag that it closes leaves; `printed`
characters come before it. -/
def applyTag (printed : Nat) (opened : List OpenTag) (content : Text) (position : Nat) :
    Except Fault (List OpenTag × List Span) := do
  match tagName content with
  | '/' :: name =>
    if Text.trim name = [] then
      match opened with
      | [] => throw (.nothingToClose position)
      | tag :: opened => return (opened, ← tag.close printed)
    else
      match close? (← normalizeStyle (Text.trim name)) opened with
      | some (tag, opened) => return (opened, ← tag.close printed)
      | none => throw (.unmatched ('[' :: (content ++ [']'])) position)
  | name => return (⟨← normalizeStyle name, tagParameters content, printed⟩ :: opened, [])

variable (emojis : EmojiTable)

/-- Prints pieces after `printed` characters; `stretch` is the plain text since the last tag, last
character first. -/
def styleFrom (printed : Nat) (stretch : Text) (opened : List OpenTag) :
    List Piece → Except Fault Styled
  | [] =>
    let text := plain emojis stretch.reverse
    .ok ⟨text, opened.map (·.span (printed + text.length))⟩
  | .char c :: rest => styleFrom printed (c :: stretch) opened rest
  | .tag backslashes content position :: rest => do
    let before := plain emojis stretch.reverse ++ List.replicate (backslashes / 2) '\\'
    if backslashes % 2 = 1 then
      let before := before ++ plain emojis ('[' :: (content ++ [']']))
      let tail ← styleFrom (printed + before.length) [] opened rest
      return ⟨before ++ tail.text, tail.spans⟩
    else
      let printed := printed + before.length
      let (opened, spans) ← applyTag printed opened content position
      let tail ← styleFrom printed [] opened rest
      return ⟨before ++ tail.text, spans ++ tail.spans⟩

/-- What markup prints, with its styles. -/
def style (t : Text) : Except Fault Styled := styleFrom emojis 0 [] [] (pieces t)

/-- The style of a span is looked up: the span has something other than line ends in it, or the text
is a line of its own without any tab. -/
def Styled.uses (s : Styled) (span : Span) : Bool :=
  ((s.text.take span.stop).drop span.start).any (· ≠ '\n') ||
    s.text.all fun c => c ≠ '\n' && c ≠ '\t'

/-- The plain text that markup prints. Styles do nothing, but it must be possible to read the
colours of those that are looked up. -/
def render (t : Text) : Except Fault Text := do
  let s ← style emojis t
  (s.spans.filter s.uses).forM fun span => discard (normalizeStyle span.style)
  return s.text

end Pinpoint.Markup
