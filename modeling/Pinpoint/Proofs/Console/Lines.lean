import Pinpoint.Console
import Pinpoint.Proofs.Markup.Verbatim
import Pinpoint.Proofs.Path.Reading

/-!
# Lines on a console

A result is printed as a phrase in a style and an escaped text behind it. A printable text
stays on the line, so that lines can be told apart again.

* `printUnbroken_phrase`: the line that is printed.
* `unlines_inj`, `unlines_map_inj`: texts of one line each are found again in what is printed.
* `printPlain_of_notMem`: a text without control sequences is printed as it is.
-/

namespace Pinpoint.Console

open Markup

variable {emojis : EmojiTable} {name body t : Text} {texts : List Text}

/-- A text of one line, without any tab. -/
def IsLine (t : Text) : Prop := '\n' ∉ t ∧ '\t' ∉ t

instance (t : Text) : Decidable (IsLine t) := inferInstanceAs (Decidable (_ ∧ _))

theorem isLine_of_le (h : ∀ c ∈ t, 0x20 ≤ c.toNat) : IsLine t :=
  ⟨fun hc => absurd (h _ hc) (by decide), fun hc => absurd (h _ hc) (by decide)⟩

theorem IsLine.append {t' : Text} (h : IsLine t) (h' : IsLine t') : IsLine (t ++ t') :=
  ⟨fun hc => (List.mem_append.1 hc).elim h.1 h'.1, fun hc => (List.mem_append.1 hc).elim h.2 h'.2⟩

theorem expandTabs_of_isLine (h : IsLine t) : expandTabs t = t := by
  rw [expandTabs, Text.cut_of_notMem h.2, joinTabbed]

theorem printUnbroken_of_prints (h : Prints emojis t texts)
    (hline : IsLine (texts.flatMap (plain emojis))) :
    printUnbroken emojis t = .ok (texts.flatMap (plain emojis) ++ ['\n']) := by
  rw [printUnbroken, h.render]
  change Except.ok _ = _
  rw [Text.cut_of_notMem hline.1, List.map_singleton, expandTabs_of_isLine hline]
  simp [unlines]

theorem plain_blank (t : Text) : plain emojis (' ' :: t) = ' ' :: plain emojis t := by
  rw [plain, plainBrackets, replaceEmoji, replaceFrom, if_neg (by decide), List.filter_cons_of_pos]
  · rfl
  · rfl
  · simp

theorem flatMap_plain_blank (h : texts ≠ []) :
    (texts.modifyHead ([' '] ++ ·)).flatMap (plain emojis) =
      ' ' :: texts.flatMap (plain emojis) := by
  cases texts with
  | nil => exact absurd rfl h
  | cons s texts =>
    rw [List.modifyHead_cons, List.flatMap_cons, List.singleton_append, plain_blank]
    rfl

/-- A line of a result: a phrase in a style, and an escaped text behind it. -/
theorem printUnbroken_phrase (hname : IsStyle name) (hbracket : '[' ∉ body)
    (hlast : body.getLast? ≠ some '\\') (hbody : plain emojis body = body) (hline : IsLine body)
    (ht : IsPrintable t) :
    printUnbroken emojis (tagText 0 name (body ++ tagText 0 ('/' :: name) ([' '] ++ escape t))) =
      .ok (body ++ ' ' :: shown emojis t ++ ['\n']) := by
  have hbehind := (prints_escape emojis t).append [' '] (by decide) (by decide)
  have hprints := hbehind.styled hname body hbracket hlast
  have htext : ([] :: body :: (stretches (closeBackslash t)).modifyHead ([' '] ++ ·)).flatMap
      (plain emojis) = body ++ ' ' :: shown emojis t := by
    rw [List.flatMap_cons, List.flatMap_cons, flatMap_plain_blank (stretches_ne_nil _), hbody]
    rfl
  have hshown : IsLine (' ' :: shown emojis t) := isLine_of_le fun c hc => by
    rcases List.mem_cons.1 hc with rfl | hc
    · decide
    · exact le_of_mem_shown ht hc
  rw [printUnbroken_of_prints hprints (by rw [htext]; exact hline.append hshown), htext]

/-- Texts of one line each are found again in what is printed. -/
theorem cut_unlines {lines : List Text} (h : ∀ line ∈ lines, '\n' ∉ line) :
    Text.cut '\n' (unlines lines) = lines ++ [[]] := by
  induction lines with
  | nil => rfl
  | cons line lines ih =>
    have hunlines : unlines (line :: lines) = line ++ '\n' :: unlines lines := by
      simp [unlines]
    rw [hunlines, Text.cut_append, Text.cut_of_notMem (h line List.mem_cons_self),
      ih fun l hl => h l (List.mem_cons_of_mem _ hl)]
    rfl

theorem unlines_inj {lines lines' : List Text} (h : ∀ line ∈ lines, '\n' ∉ line)
    (h' : ∀ line ∈ lines', '\n' ∉ line) : unlines lines = unlines lines' ↔ lines = lines' := by
  refine ⟨fun heq => ?_, congrArg unlines⟩
  have hcut := congrArg (Text.cut '\n') heq
  rw [cut_unlines h, cut_unlines h'] at hcut
  exact List.append_cancel_right hcut

/-- Two ways of printing a list line by line agree exactly if they agree on each line. -/
theorem unlines_map_inj {α : Type} {l : List α} {f g : α → Text} (hf : ∀ a ∈ l, IsLine (f a))
    (hg : ∀ a ∈ l, IsLine (g a)) :
    unlines (l.map f) = unlines (l.map g) ↔ ∀ a ∈ l, f a = g a := by
  rw [unlines_inj (List.forall_mem_map.2 fun a ha => (hf a ha).1)
    (List.forall_mem_map.2 fun a ha => (hg a ha).1), List.map_inj_left]

/-! ## Plain results -/

theorem dropSequences_of_notMem (h : '\x1b' ∉ t) : dropSequences t = t := by
  induction t with
  | nil => rw [dropSequences]
  | cons c t ih =>
    have hc : c ≠ '\x1b' := fun hc => h (hc ▸ List.mem_cons_self)
    rw [dropSequences, ih fun ht => h (List.mem_cons_of_mem c ht)]
    exact fun _ heq => absurd heq hc

theorem printPlain_of_notMem (h : '\x1b' ∉ t) : printPlain t = t ++ ['\n'] := by
  rw [printPlain, dropSequences_of_notMem h]

end Pinpoint.Console
