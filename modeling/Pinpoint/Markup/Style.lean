import Pinpoint.Markup.Color
import Pinpoint.Text.Blank

/-!
# Style names

The name of a tag is a style: attributes, a colour, a background, a link. A closing tag may spell
the style of its opening tag differently, so styles are compared in a normal form: attributes by
their full names and in a fixed order, then the rest.
-/

namespace Pinpoint.Markup

/-- The attributes of a style, in the order in which they are written, each with its short name. -/
def attributeNames : List (String × String) := [
  ("bold", "b"), ("dim", "d"), ("italic", "i"), ("underline", "u"), ("blink", "blink"),
  ("blink2", "blink2"), ("reverse", "r"), ("conceal", "c"), ("strike", "s"), ("underline2", "uu"),
  ("frame", "frame"), ("encircle", "encircle"), ("overline", "o")]

/-- The full name of an attribute. -/
def attribute? (word : Text) : Option Text :=
  (attributeNames.find? fun (long, short) => long.toList = word || short.toList = word).map
    (·.1.toList)

/-- The parts of a style. -/
structure Style where
  attributes : List (Text × Bool) := []
  color : Option Text := none
  background : Option Text := none
  link : Option Text := none
  deriving DecidableEq, Repr

namespace Style

/-- Sets an attribute, or unsets it. -/
def set (s : Style) (name : Text) (value : Bool) : Style :=
  { s with attributes := (name, value) :: s.attributes }

/-- Why words are no style: one of them is nothing that a style has, or is a colour with a component
that cannot be read. -/
inductive Refusal
  | unknown
  | component (digits : Text)
  deriving DecidableEq, Repr

/-- Checks that a word is a colour. -/
def checkColor (word : Text) : Except Refusal Unit :=
  match isColor word with
  | .ok true => .ok ()
  | .ok false => .error .unknown
  | .error digits => .error (.component digits)

/-- Adds the words of a style name to a style. Of several colours the last one counts. -/
def addWords : Style → List Text → Except Refusal Style
  | s, [] => .ok s
  | s, word :: rest => do
    let lowered := Text.lower word
    if lowered = "on".toList then
      match rest with
      | color :: rest =>
        checkColor color
        addWords { s with background := some (Text.lower color) } rest
      | [] => throw .unknown
    else if lowered = "not".toList then
      match rest.head?.bind attribute? with
      | some name => addWords (s.set name false) rest.tail
      | none => throw .unknown
    else if lowered = "link".toList then
      match rest with
      | url :: rest => addWords { s with link := some url } rest
      | [] => throw .unknown
    else
      match attribute? lowered with
      | some name => addWords (s.set name true) rest
      | none =>
        checkColor lowered
        addWords { s with color := some lowered } rest
termination_by _ words => words.length

/-- The words that a style is written with. -/
def words (s : Style) : List Text :=
  let attributes := attributeNames.filterMap fun (long, _) =>
    (s.attributes.lookup long.toList).map fun set =>
      if set then long.toList else "not " ++ long.toList
  attributes ++ s.color.toList ++ (s.background.map ("on ".toList ++ ·)).toList ++
    (s.link.map ("link ".toList ++ ·)).toList

/-- The text of a style. -/
def render (s : Style) : Text :=
  match s.words with
  | [] => "none"
  | words => Text.join [' '] words

/-- The words of a text, between blanks. -/
def splitWords (t : Text) : List Text :=
  (Text.cut ' ' (t.map fun c => if Text.isBlank c then ' ' else c)).filter (· ≠ [])

/-- The normal form of a style name. A name that is no style is only trimmed and lowered. The fault
is a component of a colour that cannot be read. -/
def normalize (name : Text) : Except Text Text :=
  if Text.trim name = "none".toList then .ok "none"
  else
    match addWords {} (splitWords name) with
    | .ok s => .ok s.render
    | .error .unknown => .ok (Text.lower (Text.trim name))
    | .error (.component digits) => .error digits

end Style

end Pinpoint.Markup
