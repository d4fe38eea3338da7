import Mathlib.Data.List.Infix
import Pinpoint.Proofs.Markup.Printing
import Pinpoint.Proofs.Markup.Verbatim

/-!
# Texts that are no markup

A text that has not been escaped is printed as it is only if there is nothing in it for markup to
act on: no tag, escaped or not, no emoji code, no backslash in front of a bracket and no control
character that is dropped. Each of these makes what is printed shorter or changes it, and none of
them makes up for another.

* `Literal`: texts with nothing of the kind.
* `untagged_char`, `not_untagged_tag`: tags along the scan of a text.
* `styleFrom_of_untagged`: text without tags is one stretch.
* `length_text_le`, `length_text_lt`: printing makes no text longer, and one with tags shorter.
* `styleFrom_phrase`: a phrase in a style in front of any markup.
* `render_phrase_eq_iff`: a text behind such a phrase is printed as it is exactly if it is literal.
-/

namespace Pinpoint.Markup

variable {emojis : EmojiTable} {c : Char} {t rest content after name body : Text} {n : Nat}
  {printed position : Nat} {stretch : Text} {opened : List OpenTag} {ps : List Piece} {s : Styled}

/-! ## Specification -/

/-- There is no tag in a text. -/
def Untagged (t : Text) : Prop := ∀ content, IsTag content → ¬ '[' :: (content ++ [']']) <:+: t

/-- Nothing in a text means anything to markup. -/
structure Literal (emojis : EmojiTable) (t : Text) : Prop where
  untagged : Untagged t
  emoji : replaceEmoji emojis t = t
  bracket : ¬ ['\\', '['] <:+: t
  control : ∀ c ∈ t, isDropped c = false

/-! ## Texts without tags -/

theorem untagged_of_notMem (h : '[' ∉ t) : Untagged t := by
  intro content _ htag
  exact h (htag.subset List.mem_cons_self)

theorem untagged_char (h : hasTag (c :: rest) = false) :
    Untagged (c :: rest) ↔ Untagged rest := by
  refine forall₂_congr fun content hcontent => not_congr ?_
  rw [List.infix_cons_iff, or_iff_right]
  rintro ⟨after, hafter⟩
  have htag : c :: rest = '[' :: (content ++ ']' :: after) := by simp [← hafter]
  rw [htag] at h
  have htake := takeTag?_of_isTag hcontent after
  rw [hasTag, List.dropWhile_cons, if_neg (by decide), htake] at h
  cases h

theorem not_untagged_tag (h : IsTag content) (n : Nat) (after : Text) :
    ¬ Untagged (tagText n content after) := fun hnone =>
  hnone content h ⟨List.replicate n '\\', after, by simp [tagText]⟩

/-- Without tags every character is a piece of its own. -/
theorem piecesFrom_of_untagged (h : Untagged t) (position : Nat) :
    piecesFrom position t = t.map .char := by
  induction t using scan_induction generalizing position with
  | nil => exact piecesFrom_nil position
  | char c rest htag ih =>
    rw [piecesFrom_char htag, ih ((untagged_char htag).1 h), List.map_cons]
  | tag n content after hcontent _ => exact absurd h (not_untagged_tag hcontent n after)

theorem styleFrom_of_untagged (h : Untagged t) :
    styleFrom emojis printed stretch [] (piecesFrom position t) =
      .ok ⟨plain emojis (stretch.reverse ++ t), []⟩ := by
  have hchars : styleFrom emojis printed stretch [] (t.map .char ++ []) = _ :=
    styleFrom_chars printed stretch [] t []
  rw [List.append_nil] at hchars
  rw [piecesFrom_of_untagged h, hchars, styleFrom, List.reverse_append, List.reverse_reverse]
  rfl

/-! ## What is printed of texts with tags -/

theorem exists_of_bind_ok {ε α β : Type} {x : Except ε α} {f : α → Except ε β} {b : β}
    (h : (x >>= f) = .ok b) : ∃ a, x = .ok a ∧ f a = .ok b := by
  cases x with
  | error e => cases h
  | ok a => exact ⟨a, rfl, h⟩

/-- A tag leaves less than it took, and the rest is printed behind it. -/
theorem exists_tail_of_tag
    (h : styleFrom emojis printed stretch opened (.tag n content position :: ps) = .ok s) :
    ∃ printed' opened' left tail, styleFrom emojis printed' [] opened' ps = .ok tail ∧
      s.text = plain emojis stretch.reverse ++ left ++ tail.text ∧
      left.length < n + content.length + 2 := by
  have hslashes : (List.replicate (n / 2) '\\').length = n / 2 := List.length_replicate
  rw [styleFrom] at h
  dsimp only at h
  split_ifs at h with hodd
  · -- The tag is escaped, and shown without its last backslash.
    have hshown := length_plain_le emojis ('[' :: (content ++ [']']))
    obtain ⟨tail, htail, hs⟩ := exists_of_bind_ok h
    cases hs
    refine ⟨_, opened, List.replicate (n / 2) '\\' ++ plain emojis ('[' :: (content ++ [']'])),
      tail, htail, by simp, ?_⟩
    simp only [List.length_append, List.length_cons, List.length_nil, hslashes] at hshown ⊢
    omega
  · obtain ⟨⟨opened', spans⟩, -, hrest⟩ := exists_of_bind_ok h
    obtain ⟨tail, htail, hs⟩ := exists_of_bind_ok hrest
    cases hs
    refine ⟨_, opened', List.replicate (n / 2) '\\', tail, htail, by simp, ?_⟩
    omega

theorem length_text_le
    (h : styleFrom emojis printed stretch opened (piecesFrom position t) = .ok s) :
    s.text.length ≤ stretch.length + t.length := by
  induction t using scan_induction generalizing printed stretch opened position s with
  | nil =>
    rw [piecesFrom_nil, styleFrom] at h
    cases h
    simpa using length_plain_le emojis stretch.reverse
  | char c rest htag ih =>
    rw [piecesFrom_char htag, styleFrom] at h
    have hlength := ih h
    simp only [List.length_cons] at hlength ⊢
    omega
  | tag n content after hcontent ih =>
    rw [piecesFrom_tag hcontent] at h
    obtain ⟨printed', opened', left, tail, htail, htext, hleft⟩ := exists_tail_of_tag h
    have hbefore := length_plain_le emojis stretch.reverse
    have hrest := ih htail
    rw [htext]
    simp only [tagText, List.length_append, List.length_cons, List.length_replicate,
      List.length_reverse, List.length_nil] at hbefore hrest ⊢
    omega

/-- A text with a tag is printed shorter than it is. -/
theorem length_text_lt (htagged : ¬ Untagged t)
    (h : styleFrom emojis printed stretch opened (piecesFrom position t) = .ok s) :
    s.text.length < stretch.length + t.length := by
  induction t using scan_induction generalizing printed stretch opened position s with
  | nil => exact absurd (untagged_of_notMem List.not_mem_nil) htagged
  | char c rest htag ih =>
    rw [piecesFrom_char htag, styleFrom] at h
    have hlength := ih (fun hrest => htagged ((untagged_char htag).2 hrest)) h
    simp only [List.length_cons] at hlength ⊢
    omega
  | tag n content after hcontent _ =>
    rw [piecesFrom_tag hcontent] at h
    obtain ⟨printed', opened', left, tail, htail, htext, hleft⟩ := exists_tail_of_tag h
    have hbefore := length_plain_le emojis stretch.reverse
    have hrest := length_text_le htail
    rw [htext]
    simp only [tagText, List.length_append, List.length_cons, List.length_replicate,
      List.length_reverse, List.length_nil] at hbefore hrest ⊢
    omega

/-- Where a text is printed as it is, it is literal. -/
theorem literal_of_text (h : styleFrom emojis printed [] [] (piecesFrom position t) = .ok s)
    (htext : s.text = t) : Literal emojis t := by
  have huntagged : Untagged t := by
    by_contra htagged
    have hlength := length_text_lt htagged h
    rw [htext] at hlength
    simp at hlength
  rw [styleFrom_of_untagged huntagged] at h
  cases h
  obtain ⟨hemoji, hbracket, hcontrol⟩ := plain_eq_self_iff.1 htext
  exact ⟨huntagged, hemoji, hbracket, hcontrol⟩

/-- In a text without brackets, emoji codes and control characters are all that matters. -/
theorem Literal.of_notMem (h : '[' ∉ t) (emoji : replaceEmoji emojis t = t)
    (control : ∀ c ∈ t, isDropped c = false) : Literal emojis t where
  untagged := untagged_of_notMem h
  emoji := emoji
  bracket hpair := h (hpair.subset (by simp))
  control := control

theorem Literal.plain_eq (h : Literal emojis t) : plain emojis t = t :=
  plain_eq_self_iff.2 ⟨h.emoji, h.bracket, h.control⟩

/-! ## Behind a phrase in a style -/

/-- A phrase in a style is printed in front of what follows, if that can be printed. -/
theorem styleFrom_phrase (emojis : EmojiTable) (opened : List OpenTag) (hname : IsStyle name)
    (hbracket : '[' ∉ body) (hlast : body.getLast? ≠ some '\\') (printed position : Nat)
    (rest : Text) :
    ∃ (printed' position' : Nat) (span : Span), span.IsKnown ∧
      styleFrom emojis printed [] opened
          (piecesFrom position (tagText 0 name (body ++ tagText 0 ('/' :: name) rest))) =
        (styleFrom emojis printed' [] opened (piecesFrom position' rest)).map fun tail =>
          ⟨plain emojis body ++ tail.text, span :: tail.spans⟩ := by
  have hbody : (body.reverse ++ []).reverse = body := by simp
  let start := printed + (plain emojis ([] : Text).reverse).length
  let stop := start + (plain emojis body).length
  refine ⟨stop, position + 0 + name.length + 2 + body.length + 0 + ('/' :: name).length + 2,
    ⟨name, start, stop⟩, hname.isKnown start stop, ?_⟩
  rw [piecesFrom_tag hname.isTag, styleFrom_tag (hname.applyTag_open _ _ _),
    piecesFrom_append hbracket hlast, styleFrom_chars, piecesFrom_tag hname.isTag_close,
    styleFrom_tag (hname.applyTag_close _ _ _ _), hbody]
  cases styleFrom emojis _ [] opened (piecesFrom _ rest) <;> rfl

/-- A text behind a phrase in a style is printed as it is exactly if it is literal. -/
theorem render_phrase_eq_iff (hname : IsStyle name) (hbracket : '[' ∉ body)
    (hlast : body.getLast? ≠ some '\\') :
    render emojis (tagText 0 name (body ++ tagText 0 ('/' :: name) t)) =
        .ok (plain emojis body ++ t) ↔ Literal emojis t := by
  obtain ⟨printed, position, span, hknown, hphrase⟩ :=
    styleFrom_phrase emojis [] hname hbracket hlast 0 0 t
  constructor
  · intro h
    obtain ⟨s, hs, hspans⟩ := exists_of_bind_ok h
    obtain ⟨-, -, htext⟩ := exists_of_bind_ok hspans
    rw [style, pieces, hphrase] at hs
    cases htail : styleFrom emojis printed [] [] (piecesFrom position t) with
    | error fault =>
      rw [htail] at hs
      cases hs
    | ok tail =>
      rw [htail] at hs
      cases hs
      exact literal_of_text htail (List.append_cancel_left (Except.ok.inj htext))
  · intro h
    rw [styleFrom_of_untagged h.untagged] at hphrase
    have hrender := render_of_style hphrase (by simpa [Except.map] using hknown)
    rw [hrender]
    simp [h.plain_eq]

end Pinpoint.Markup
