import Pinpoint.Text.Blank
import Pinpoint.Text.Case

/-!
# Emoji codes

A name between colons stands for an emoji. The name ends at the next colon and holds no blank; it
may ask for a text or an emoji variant. A pair of colons around an unknown name is left as it is,
and both colons are used up. Which names are known is left to a table.

* `EmojiTable` — a table of emojis; `EmojiTable.common` is a small one.
* `replaceEmoji` — a text with its emoji codes replaced.
-/

namespace Pinpoint.Markup

/-! ## Tables -/

/-- Emojis by their names in lower case. None is longer than a code that asks for it, or holds a
control character. -/
structure EmojiTable where
  find? : Text → Option Text
  length_le {name emoji : Text} :
    find? (Text.lower name) = some emoji → emoji.length ≤ name.length + 2
  visible {name emoji : Text} : find? name = some emoji → ∀ c ∈ emoji, 0x20 ≤ c.toNat

/-- Emojis that short names of files may ask for. -/
def commonEmojis : List (String × Char) := [
  ("100", '💯'), ("1234", '🔢'), ("abc", '🔤'), ("b", '🅱'), ("x", '❌')]

/-- The emoji of a name, by itself. -/
def commonEmoji? (name : Text) : Option Text :=
  (commonEmojis.find? fun (known, _) => known.toList = name).map fun (_, c) => [c]

theorem exists_of_commonEmoji? {name emoji : Text} (h : commonEmoji? name = some emoji) :
    ∃ c, emoji = [c] ∧ 0x20 ≤ c.toNat := by
  have hvisible : ∀ entry ∈ commonEmojis, 0x20 ≤ entry.2.toNat := by decide
  obtain ⟨entry, hentry, rfl⟩ := Option.map_eq_some_iff.1 h
  exact ⟨entry.2, rfl, hvisible entry (List.mem_of_find?_eq_some hentry)⟩

/-- A table of common emojis. -/
def EmojiTable.common : EmojiTable where
  find? := commonEmoji?
  length_le h := by
    obtain ⟨c, rfl, -⟩ := exists_of_commonEmoji? h
    simp
  visible h := by
    obtain ⟨c, rfl, hc⟩ := exists_of_commonEmoji? h
    simpa using hc

/-! ## Replacing codes -/

/-- The variants of an emoji, with the selectors that ask for them. -/
def emojiVariants : List (String × Char) :=
  [("-text", Char.ofNat 0xFE0E), ("-emoji", Char.ofNat 0xFE0F)]

/-- A name without the variant at its end, and the selector of that variant. -/
def splitVariant (code : Text) : Text × Text :=
  match emojiVariants.find? fun (variant, _) => code.endsWith variant.toList with
  | some (variant, selector) => (code.take (code.length - variant.length), [selector])
  | none => (code, [])

variable (emojis : EmojiTable)

/-- What a code between colons is replaced by. -/
def emojiText (code : Text) : Text :=
  let (name, selector) := splitVariant code
  match emojis.find? (Text.lower name) with
  | some emoji => emoji ++ selector
  | none => ':' :: (code ++ [':'])

/-- Replaces emoji codes; `code` is what follows an open colon, last character first. -/
def replaceFrom : (code : Option Text) → Text → Text
  | none, [] => []
  | some code, [] => ':' :: code.reverse
  | none, c :: rest => if c = ':' then replaceFrom (some []) rest else c :: replaceFrom none rest
  | some code, c :: rest =>
    if c = ':' then emojiText emojis code.reverse ++ replaceFrom none rest
    else if Text.isBlank c then ':' :: (code.reverse ++ c :: replaceFrom none rest)
    else replaceFrom (some (c :: code)) rest

/-- Replaces the emoji codes of a text. -/
def replaceEmoji (t : Text) : Text := replaceFrom emojis none t

end Pinpoint.Markup
