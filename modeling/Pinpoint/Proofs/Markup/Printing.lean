import Mathlib.Data.List.TakeWhile
import Pinpoint.Proofs.Markup.Pieces

/-!
# What markup prints

Printing goes from tag to tag: the plain text in between is a stretch, and so is a tag
that has been escaped. Markup that is put together from plain text, phrases in a style and
escaped texts can be printed, and what it prints is found stretch by stretch.

* `stretches`: the stretches of a text, with its tags as they are written.
* `Prints`, `PrintsUnder`: markup prints some stretches, whatever stands in front of it.
* `PrintsUnder.escapeTags_append`, `prints_escape`: an escaped text prints its own stretches.
* `PrintsUnder.append`, `PrintsUnder.opens`, `PrintsUnder.closes`: plain text, and the tags of a
  style around it.
* `Prints.styled`: phrases in a style.
* `FailsUnder`, `failsUnder_unopened`: markup that cannot be printed, as where a tag closes nothing.
-/

namespace Pinpoint.Markup

variable {c : Char} {t rest content after name body : Text} {texts : List Text}
  {n position : Nat} {emojis : EmojiTable} {opened : List OpenTag}

/-! ## Specification -/

/-- Text between tags, tags, and the backslashes in front of them, taken apart. -/
def stretchesOf : List Piece → List Text
  | [] => [[]]
  | .char c :: rest => (stretchesOf rest).modifyHead (c :: ·)
  | .tag n content _ :: rest =>
    [] :: List.replicate n '\\' :: ('[' :: (content ++ [']'])) :: stretchesOf rest

/-- The stretches of a text. -/
def stretches (t : Text) : List Text := stretchesOf (pieces t)

/-- A span that can be looked up. -/
def Span.IsKnown (span : Span) : Prop := ∃ style, normalizeStyle span.style = .ok style

/-- Markup prints stretches, of which the first one continues the text in front of it. -/
def Prints (emojis : EmojiTable) (t : Text) (texts : List Text) : Prop :=
  ∀ printed stretch position, ∃ spans,
    styleFrom emojis printed stretch [] (piecesFrom position t) =
      .ok ⟨(texts.modifyHead (stretch.reverse ++ ·)).flatMap (plain emojis), spans⟩ ∧
    ∀ span ∈ spans, span.IsKnown

/-- The same below open tags, which what follows may close. -/
def PrintsUnder (emojis : EmojiTable) (opened : List OpenTag) (t : Text) (texts : List Text) :
    Prop :=
  ∀ printed stretch position, ∃ spans,
    styleFrom emojis printed stretch opened (piecesFrom position t) =
      .ok ⟨(texts.modifyHead (stretch.reverse ++ ·)).flatMap (plain emojis), spans⟩ ∧
    ∀ span ∈ spans, span.IsKnown

/-- Markup cannot be printed below open tags, whatever stands in front of it. -/
def FailsUnder (emojis : EmojiTable) (opened : List OpenTag) (t : Text) : Prop :=
  ∀ printed stretch position, ∃ fault,
    styleFrom emojis printed stretch opened (piecesFrom position t) = .error fault

/-- Stretches and what follows them: the last of them is continued by the first of the others. -/
def weld : List Text → List Text → List Text
  | [], texts => texts
  | [last], texts => texts.modifyHead (last ++ ·)
  | s :: rest, texts => s :: weld rest texts

/-- Nothing at the end of a text takes part in a tag behind it. -/
def IsSeam (t rest : Text) : Prop :=
  rest = [] ∨ t.getLast? ≠ some '\\' ∧ ∃ after, rest = '[' :: after

/-- The name of a style, written as it is looked up. -/
structure IsStyle (name : Text) : Prop where
  isTag : IsTag name
  isTag_close : IsTag ('/' :: name)
  not_close : name.head? ≠ some '/'
  not_event : name.head? ≠ some '@'
  no_parameters : '=' ∉ name
  trimmed : Text.trim name = name
  normal : normalizeStyle name = .ok name

/-- The styles that messages are written in. -/
def messageStyles : List Text := ["bold", "dim", "green", "red", "yellow"]

/-! ## Stretches -/

theorem stretchesOf_piecesFrom (position : Nat) (t : Text) :
    stretchesOf (piecesFrom position t) = stretches t := by
  have hunplaced : ∀ ps : List Piece, stretchesOf ps = stretchesOf (ps.map Piece.unplaced) := by
    intro ps
    induction ps with
    | nil => rfl
    | cons p ps ih => cases p <;> simp [stretchesOf, Piece.unplaced, ih]
  rw [stretches, pieces, hunplaced (piecesFrom position t), hunplaced (piecesFrom 0 t),
    unplaced_piecesFrom t position 0]

theorem stretches_nil : stretches [] = [[]] := by
  rw [stretches, pieces, piecesFrom_nil]
  rfl

theorem stretches_char (h : hasTag (c :: rest) = false) :
    stretches (c :: rest) = (stretches rest).modifyHead (c :: ·) := by
  rw [stretches, pieces, piecesFrom_char h, stretchesOf, stretchesOf_piecesFrom]

theorem stretches_tag (h : IsTag content) (n : Nat) (after : Text) :
    stretches (tagText n content after) =
      [] :: List.replicate n '\\' :: ('[' :: (content ++ [']'])) :: stretches after := by
  rw [stretches, pieces, piecesFrom_tag h, stretchesOf, stretchesOf_piecesFrom]

theorem modifyHead_append (x y : Text) (texts : List Text) :
    (texts.modifyHead (y ++ ·)).modifyHead (x ++ ·) = texts.modifyHead ((x ++ y) ++ ·) := by
  cases texts <;> simp

theorem modifyHead_nil_append (texts : List Text) :
    texts.modifyHead (([] : Text).reverse ++ ·) = texts := by
  cases texts <;> rfl

theorem flatten_modifyHead (x : Text) (h : texts ≠ []) :
    (texts.modifyHead (x ++ ·)).flatten = x ++ texts.flatten := by
  cases texts with
  | nil => exact absurd rfl h
  | cons first texts => simp

theorem stretches_ne_nil (t : Text) : stretches t ≠ [] := by
  induction t using scan_induction with
  | nil => simp [stretches_nil]
  | char c rest h ih => simpa [stretches_char h] using ih
  | tag n content after h _ => simp [stretches_tag h]

/-- The stretches of a text are the text. -/
theorem flatten_stretches (t : Text) : (stretches t).flatten = t := by
  induction t using scan_induction with
  | nil => rw [stretches_nil]; rfl
  | char c rest h ih =>
    rw [stretches_char h]
    exact (flatten_modifyHead [c] (stretches_ne_nil rest)).trans (congrArg (c :: ·) ih)
  | tag n content after h ih =>
    rw [stretches_tag h, List.flatten_cons, List.flatten_cons, List.flatten_cons, ih]
    simp [tagText]

theorem weld_cons (s : Text) (h : texts ≠ []) (more : List Text) :
    weld (s :: texts) more = s :: weld texts more := by
  cases texts with
  | nil => exact absurd rfl h
  | cons s' texts => rfl

theorem weld_modifyHead (x : Text) (h : texts ≠ []) (more : List Text) :
    weld (texts.modifyHead (x ++ ·)) more = (weld texts more).modifyHead (x ++ ·) := by
  obtain ⟨s, texts, rfl⟩ := List.exists_cons_of_ne_nil h
  cases texts with
  | nil => exact (modifyHead_append x s more).symm
  | cons s' texts => rfl

theorem weld_nil (h : texts ≠ []) : weld texts [[]] = texts := by
  induction texts with
  | nil => exact absurd rfl h
  | cons s texts ih =>
    cases texts with
    | nil => simp [weld]
    | cons s' texts => rw [weld_cons s (List.cons_ne_nil _ _), ih (List.cons_ne_nil _ _)]

/-! ## Plain text -/

theorem plainBrackets_of_notMem (h : '[' ∉ t) : plainBrackets t = t := by
  fun_induction plainBrackets t with
  | case1 rest ih => simp at h
  | case2 c rest hc ih => rw [ih fun hmem => h (List.mem_cons_of_mem c hmem)]
  | case3 => rfl

theorem replaceEmoji_of_notMem (h : ':' ∉ t) : replaceEmoji emojis t = t := by
  rw [replaceEmoji]
  induction t with
  | nil => rfl
  | cons c rest ih =>
    have hc : c ≠ ':' := fun hc => h (hc ▸ List.mem_cons_self)
    rw [replaceFrom, if_neg hc, ih fun hmem => h (List.mem_cons_of_mem c hmem)]

theorem plain_backslashes (n : Nat) :
    plain emojis (List.replicate n '\\') = List.replicate n '\\' := by
  have hbracket : '[' ∉ List.replicate n '\\' := fun h =>
    absurd (List.eq_of_mem_replicate h) (by decide)
  have hcolon : ':' ∉ List.replicate n '\\' := fun h =>
    absurd (List.eq_of_mem_replicate h) (by decide)
  rw [plain, plainBrackets_of_notMem hbracket, replaceEmoji_of_notMem hcolon, List.filter_eq_self]
  intro c hc
  rw [List.eq_of_mem_replicate hc]
  rfl

/-! ## Printing step by step -/

theorem styleFrom_chars (printed : Nat) (stretch : Text) (opened : List OpenTag) (x : Text)
    (ps : List Piece) :
    styleFrom emojis printed stretch opened (x.map .char ++ ps) =
      styleFrom emojis printed (x.reverse ++ stretch) opened ps := by
  induction x generalizing stretch with
  | nil => rfl
  | cons c x ih =>
    rw [List.map_cons, List.cons_append, styleFrom, ih, List.reverse_cons, List.append_assoc]
    rfl

theorem hasTag_of_notMem (h : '[' ∉ t) : hasTag t = false := by
  induction t with
  | nil => rfl
  | cons c rest ih =>
    have hc : c ≠ '[' := fun hc => h (hc ▸ List.mem_cons_self)
    by_cases hslash : c = '\\'
    · subst hslash
      exact ih fun hmem => h (List.mem_cons_of_mem _ hmem)
    · exact hasTag_of_ne hslash hc _

/-- No tag goes with plain text that does not end in a backslash. -/
theorem hasTag_append (hbracket : '[' ∉ body) (hlast : body.getLast? ≠ some '\\')
    (hne : body ≠ []) (rest : Text) : hasTag (body ++ rest) = false := by
  induction body with
  | nil => exact absurd rfl hne
  | cons c body ih =>
    have hc : c ≠ '[' := fun hc => hbracket (hc ▸ List.mem_cons_self)
    by_cases hslash : c = '\\'
    · subst hslash
      have hbody : body ≠ [] := by
        rintro rfl
        exact hlast rfl
      rw [List.getLast?_cons_of_ne_nil hbody] at hlast
      exact ih (fun h => hbracket (List.mem_cons_of_mem _ h)) hlast hbody
    · exact hasTag_of_ne hslash hc _

theorem piecesFrom_append (hbracket : '[' ∉ body) (hlast : body.getLast? ≠ some '\\')
    (position : Nat) (rest : Text) :
    piecesFrom position (body ++ rest) =
      body.map .char ++ piecesFrom (position + body.length) rest := by
  induction body generalizing position with
  | nil => rfl
  | cons c body ih =>
    have hc : hasTag (c :: (body ++ rest)) = false :=
      hasTag_append hbracket hlast (List.cons_ne_nil c body) rest
    have hlast' : body.getLast? ≠ some '\\' := by
      cases body with
      | nil => simp
      | cons d body => rwa [List.getLast?_cons_cons] at hlast
    rw [List.cons_append, piecesFrom_char hc, ih (fun h => hbracket (List.mem_cons_of_mem c h))
      hlast', List.map_cons, List.length_cons,
      show position + 1 + body.length = position + (body.length + 1) by omega]
    rfl

/-- A tag behind a text takes nothing from the text, unless a backslash stands in between. -/
theorem hasTag_append_bracket (h : hasTag t = false) (hne : t ≠ [])
    (hlast : t.getLast? ≠ some '\\') (rest : Text) : hasTag (t ++ '[' :: rest) = false := by
  induction t with
  | nil => exact absurd rfl hne
  | cons c t ih =>
    by_cases hslash : c = '\\'
    · subst hslash
      have ht : t ≠ [] := by
        rintro rfl
        exact hlast rfl
      rw [List.getLast?_cons_of_ne_nil ht] at hlast
      exact ih h ht hlast
    · by_cases hbracket : c = '['
      · subst hbracket
        cases t with
        | nil => exact hasTag_bracket '[' rest
        | cons d t =>
          rw [hasTag_bracket] at h
          rw [List.cons_append, List.cons_append, hasTag_bracket, List.dropWhile_append]
          cases hdrop : t.dropWhile isInTag with
          | nil => simp [show isInTag '[' = false from rfl]
          | cons e after => rwa [hdrop] at h
      · exact hasTag_of_ne hslash hbracket _

theorem IsSeam.of_append {x : Text} (h : IsSeam (x ++ t) rest) : IsSeam t rest := by
  refine h.imp_right fun ⟨hlast, hrest⟩ => ⟨fun ht => hlast ?_, hrest⟩
  rw [List.getLast?_append, ht, Option.some_or]

theorem IsSeam.hasTag_append (h : IsSeam t rest) (hne : t ≠ []) (htag : hasTag t = false) :
    hasTag (t ++ rest) = false := by
  rcases h with rfl | ⟨hlast, after, rfl⟩
  · rwa [List.append_nil]
  · exact hasTag_append_bracket htag hne hlast after

/-- An escaped text prints its own stretches, whatever tag stands behind it. -/
theorem PrintsUnder.escapeTags_append (h : PrintsUnder emojis opened rest texts)
    (hseam : IsSeam t rest) :
    PrintsUnder emojis opened (escapeTags t ++ rest) (weld (stretches t) texts) := by
  induction t using scan_induction with
  | nil =>
    rw [escapeTags_nil, stretches_nil]
    cases texts <;> exact h
  | char c t htag ih =>
    intro printed stretch position
    have hlast : (c :: escapeTags t).getLast? = (c :: t).getLast? := by
      rw [List.getLast?_cons, List.getLast?_cons, getLast?_escapeTags]
    have hseam' : IsSeam (c :: escapeTags t) rest := by rwa [IsSeam, hlast]
    have hchar : hasTag (c :: (escapeTags t ++ rest)) = false :=
      hseam'.hasTag_append (List.cons_ne_nil _ _) (hasTag_escapeTags htag)
    obtain ⟨spans, hspans, hknown⟩ :=
      ih (IsSeam.of_append (x := [c]) hseam) printed (c :: stretch) (position + 1)
    refine ⟨spans, ?_, hknown⟩
    have hhead := weld_modifyHead [c] (stretches_ne_nil t) texts
    have hstretch := modifyHead_append stretch.reverse [c] (weld (stretches t) texts)
    simp only [List.singleton_append] at hhead hstretch
    rw [escapeTags_char htag]
    change styleFrom emojis printed stretch opened
      (piecesFrom position (c :: (escapeTags t ++ rest))) = _
    rw [piecesFrom_char hchar, styleFrom, hspans, stretches_char htag, hhead, hstretch,
      List.reverse_cons]
  | tag n content after htag ih =>
    intro printed stretch position
    have hodd : (2 * n + 1) % 2 = 1 := by omega
    have hhalf : (2 * n + 1) / 2 = n := by omega
    have htext : tagText n content after =
        (List.replicate n '\\' ++ '[' :: (content ++ [']'])) ++ after := by
      simp [tagText]
    rw [htext] at hseam
    rw [escapeTags_tag htag, tagText_append, piecesFrom_tag htag, styleFrom, stretches_tag htag,
      weld_cons _ (List.cons_ne_nil _ _), weld_cons _ (List.cons_ne_nil _ _),
      weld_cons _ (stretches_ne_nil after)]
    simp only [hodd, hhalf, if_true]
    obtain ⟨spans, hspans, hknown⟩ := ih hseam.of_append _ [] _
    refine ⟨spans, ?_, hknown⟩
    rw [hspans, modifyHead_nil_append]
    simp [bind, Except.bind, pure, Except.pure, plain_backslashes]

theorem printsUnder_nil (emojis : EmojiTable) : PrintsUnder emojis [] [] [[]] := by
  intro printed stretch position
  refine ⟨[], ?_, by simp⟩
  rw [piecesFrom_nil, styleFrom]
  simp

/-- An escaped text prints its own stretches. -/
theorem prints_escapeTags (t : Text) : Prints emojis (escapeTags t) (stretches t) := by
  have h := (printsUnder_nil emojis).escapeTags_append (t := t) (.inl rfl)
  rwa [List.append_nil, weld_nil (stretches_ne_nil t)] at h

/-- Text without any bracket is printed as one stretch. -/
theorem prints_of_notMem (h : '[' ∉ t) : Prints emojis t [t] := by
  have hescape : escapeTags t = t ∧ stretches t = [t] := by
    induction t with
    | nil => exact ⟨escapeTags_nil, stretches_nil⟩
    | cons c rest ih =>
      obtain ⟨hrest, hstretches⟩ := ih fun hmem => h (List.mem_cons_of_mem c hmem)
      have hc : hasTag (c :: rest) = false := hasTag_of_notMem h
      rw [escapeTags_char hc, stretches_char hc, hrest, hstretches]
      exact ⟨rfl, rfl⟩
  have hprints : Prints emojis (escapeTags t) (stretches t) := prints_escapeTags t
  rwa [hescape.1, hescape.2] at hprints

theorem prints_escape (emojis : EmojiTable) (t : Text) :
    Prints emojis (escape t) (stretches (closeBackslash t)) := by
  rw [escape_eq]
  exact prints_escapeTags _

/-! ## Phrases in a style -/

namespace IsStyle

theorem ne_nil (h : IsStyle name) : name ≠ [] := by
  obtain ⟨c, rest, rfl, -, -⟩ := h.isTag
  exact List.cons_ne_nil c rest

theorem takeWhile_eq (h : IsStyle name) : name.takeWhile (· ≠ '=') = name :=
  List.takeWhile_eq_self_iff.2 fun _ hc =>
    decide_eq_true fun heq => h.no_parameters (heq ▸ hc)

theorem tagParameters_eq (h : IsStyle name) : tagParameters name = none := by
  have hdrop : name.dropWhile (· ≠ '=') = [] :=
    List.dropWhile_eq_nil_iff.2 fun c hc =>
      decide_eq_true fun heq => h.no_parameters (heq ▸ hc)
  rw [tagParameters, hdrop]
  rfl

theorem applyTag_open (h : IsStyle name) (printed : Nat) (opened : List OpenTag)
    (position : Nat) :
    applyTag printed opened name position = .ok (⟨name, none, printed⟩ :: opened, []) := by
  unfold applyTag
  rw [tagName, h.takeWhile_eq]
  split
  · exact absurd rfl h.not_close
  · rw [h.normal, h.tagParameters_eq]
    rfl

theorem applyTag_close (h : IsStyle name) (printed start : Nat) (opened : List OpenTag)
    (position : Nat) :
    applyTag printed (⟨name, none, start⟩ :: opened) ('/' :: name) position =
      .ok (opened, [⟨name, start, printed⟩]) := by
  have hname : tagName ('/' :: name) = '/' :: name := by
    rw [tagName, List.takeWhile_cons, if_pos (by decide), h.takeWhile_eq]
  have hevent : (⟨name, none, start⟩ : OpenTag).isEvent = false := decide_eq_false h.not_event
  have hspan : (⟨name, none, start⟩ : OpenTag).close printed = .ok [⟨name, start, printed⟩] := by
    simp [OpenTag.close, hevent, OpenTag.span]
  unfold applyTag
  rw [hname]
  simp only [h.trimmed, if_neg h.ne_nil, h.normal]
  simp [bind, Except.bind, pure, Except.pure, close?, hspan]

theorem isKnown (h : IsStyle name) (start stop : Nat) : (⟨name, start, stop⟩ : Span).IsKnown :=
  ⟨name, h.normal⟩

end IsStyle

instance (content : Text) : Decidable (IsTag content) :=
  match content with
  | [] => isFalse fun ⟨_, _, h, _⟩ => by cases h
  | c :: rest =>
    decidable_of_iff (startsTag c = true ∧ ∀ d ∈ rest, isInTag d = true)
      ⟨fun h => ⟨c, rest, rfl, h⟩, fun ⟨_, _, heq, h⟩ => by cases heq; exact h⟩

theorem isStyle_of_mem (name : Text) (h : name ∈ messageStyles) : IsStyle name := by
  have htag : ∀ name ∈ messageStyles, IsTag name ∧ IsTag ('/' :: name) := by decide
  have hname : ∀ name ∈ messageStyles, name.head? ≠ some '/' ∧ name.head? ≠ some '@' ∧
      '=' ∉ name ∧ Text.trim name = name := by decide
  have hnormal : ∀ name ∈ messageStyles, normalizeStyle name = .ok name := by decide +kernel
  obtain ⟨hopen, hclose⟩ := htag name h
  obtain ⟨hslash, hevent, hequals, htrim⟩ := hname name h
  exact ⟨hopen, hclose, hslash, hevent, hequals, htrim, hnormal name h⟩

/-- What follows a tag is printed below the tags that are open then. -/
theorem styleFrom_tag {printed : Nat} {stretch : Text} {opened opened' : List OpenTag}
    {spans : List Span} {ps : List Piece}
    (htag : applyTag (printed + (plain emojis stretch.reverse).length) opened content position =
      .ok (opened', spans)) :
    styleFrom emojis printed stretch opened (.tag 0 content position :: ps) =
      (styleFrom emojis (printed + (plain emojis stretch.reverse).length) [] opened' ps).map
        fun tail => ⟨plain emojis stretch.reverse ++ tail.text, spans ++ tail.spans⟩ := by
  have hnone : plain emojis stretch.reverse ++ List.replicate (0 / 2) '\\' =
      plain emojis stretch.reverse := List.append_nil _
  rw [styleFrom, hnone]
  simp only [Nat.zero_mod, Nat.zero_ne_one, if_false, htag, bind, Except.bind]
  cases styleFrom emojis (printed + (plain emojis stretch.reverse).length) [] opened' ps <;> rfl

namespace PrintsUnder

/-- Plain text is printed in front of what follows. -/
theorem append (h : PrintsUnder emojis opened rest texts) (body : Text) (hbracket : '[' ∉ body)
    (hlast : body.getLast? ≠ some '\\') :
    PrintsUnder emojis opened (body ++ rest) (texts.modifyHead (body ++ ·)) := by
  intro printed stretch position
  obtain ⟨spans, hspans, hknown⟩ :=
    h printed (body.reverse ++ stretch) (position + body.length)
  refine ⟨spans, ?_, hknown⟩
  rw [piecesFrom_append hbracket hlast, styleFrom_chars, hspans, List.reverse_append,
    List.reverse_reverse, modifyHead_append]

/-- What follows the tag that opens a style is printed below it. -/
theorem opens (hname : IsStyle name)
    (h : ∀ start, PrintsUnder emojis (⟨name, none, start⟩ :: opened) rest texts) :
    PrintsUnder emojis opened (tagText 0 name rest) ([] :: texts) := by
  intro printed stretch position
  obtain ⟨spans, hspans, hknown⟩ := h (printed + (plain emojis stretch.reverse).length)
    (printed + (plain emojis stretch.reverse).length) [] (position + 0 + name.length + 2)
  refine ⟨spans, ?_, hknown⟩
  rw [modifyHead_nil_append] at hspans
  rw [piecesFrom_tag hname.isTag, styleFrom_tag (hname.applyTag_open _ _ _), hspans]
  simp [Except.map]

/-- The tag that closes a style ends it. -/
theorem closes (hname : IsStyle name) (h : PrintsUnder emojis opened rest texts) (start : Nat) :
    PrintsUnder emojis (⟨name, none, start⟩ :: opened) (tagText 0 ('/' :: name) rest)
      ([] :: texts) := by
  intro printed stretch position
  obtain ⟨spans, hspans, hknown⟩ := h (printed + (plain emojis stretch.reverse).length) []
    (position + 0 + ('/' :: name).length + 2)
  refine ⟨⟨name, start, printed + (plain emojis stretch.reverse).length⟩ :: spans, ?_, ?_⟩
  · rw [modifyHead_nil_append] at hspans
    rw [piecesFrom_tag hname.isTag_close, styleFrom_tag (hname.applyTag_close _ _ _ _), hspans]
    simp [Except.map]
  · exact List.forall_mem_cons.2 ⟨hname.isKnown _ _, hknown⟩

end PrintsUnder

/-- Markup whose styles are known can be rendered. -/
theorem render_of_style {s : Styled} (hstyle : style emojis t = .ok s)
    (hknown : ∀ span ∈ s.spans, span.IsKnown) : Markup.render emojis t = .ok s.text := by
  have hforM : ∀ known : List Span, (∀ span ∈ known, span.IsKnown) →
      (forM known fun span => discard (normalizeStyle span.style)) = .ok () := by
    intro known hall
    induction known with
    | nil => rfl
    | cons span known ih =>
      obtain ⟨name, hname⟩ := hall span List.mem_cons_self
      rw [List.forM_cons, hname, ih fun span hspan => hall span (List.mem_cons_of_mem _ hspan)]
      rfl
  have hall := hforM (s.spans.filter s.uses) fun span hspan =>
    hknown span (List.mem_of_mem_filter hspan)
  simp only [Markup.render, hstyle, bind, Except.bind]
  exact congrArg (fun result : Except Fault PUnit => result.bind fun _ => .ok _) hall

namespace Prints

/-- Plain text is printed in front of what follows. -/
theorem append (h : Prints emojis rest texts) (body : Text) (hbracket : '[' ∉ body)
    (hlast : body.getLast? ≠ some '\\') :
    Prints emojis (body ++ rest) (texts.modifyHead (body ++ ·)) :=
  PrintsUnder.append h body hbracket hlast

/-- A phrase in a style is printed as it is. -/
theorem styled (h : Prints emojis rest texts) (hname : IsStyle name) (body : Text)
    (hbracket : '[' ∉ body) (hlast : body.getLast? ≠ some '\\') :
    Prints emojis (tagText 0 name (body ++ tagText 0 ('/' :: name) rest))
      ([] :: body :: texts) := by
  refine PrintsUnder.opens hname fun start => ?_
  have hbody := (PrintsUnder.closes hname h start).append body hbracket hlast
  rwa [List.modifyHead_cons, List.append_nil] at hbody

/-- An escaped text is printed in a style as it is without. -/
theorem styledEscape (h : Prints emojis rest texts) (hname : IsStyle name) (body : Text)
    (hbracket : '[' ∉ body) (hlast : body.getLast? ≠ some '\\') (ht : t.getLast? ≠ some '\\') :
    Prints emojis (tagText 0 name (body ++ (escape t ++ tagText 0 ('/' :: name) rest)))
      ([] :: (weld (stretches t) ([] :: texts)).modifyHead (body ++ ·)) := by
  refine PrintsUnder.opens hname fun start => ?_
  refine PrintsUnder.append ?_ body hbracket hlast
  rw [escape_eq, closeBackslash_of_ne ht]
  exact (PrintsUnder.closes hname h start).escapeTags_append (.inr ⟨ht, _, rfl⟩)

/-- What prints can be rendered. -/
theorem render (h : Prints emojis t texts) :
    Markup.render emojis t = .ok (texts.flatMap (plain emojis)) := by
  obtain ⟨spans, hspans, hknown⟩ := h 0 [] 0
  rw [modifyHead_nil_append] at hspans
  exact render_of_style hspans hknown

end Prints

/-! ## Tags that close nothing -/

theorem applyTag_unopened (printed : Nat) (name : Text) (position : Nat) :
    ∃ fault, applyTag printed [] ('/' :: name) position = .error fault := by
  have hname : tagName ('/' :: name) = '/' :: tagName name := by
    rw [tagName, List.takeWhile_cons, if_pos (by decide)]
    rfl
  unfold applyTag
  rw [hname]
  by_cases htrim : Text.trim (tagName name) = []
  · simp only [if_pos htrim]
    exact ⟨_, rfl⟩
  · simp only [if_neg htrim]
    cases normalizeStyle (Text.trim (tagName name)) with
    | error fault => exact ⟨fault, rfl⟩
    | ok style => exact ⟨_, rfl⟩

/-- A closing tag needs a tag that is open. -/
theorem failsUnder_unopened (h : IsTag ('/' :: name)) (rest : Text) :
    FailsUnder emojis [] (tagText 0 ('/' :: name) rest) := by
  intro printed stretch position
  obtain ⟨fault, hfault⟩ := applyTag_unopened (printed + (plain emojis stretch.reverse).length)
    name position
  refine ⟨fault, ?_⟩
  rw [piecesFrom_tag h, styleFrom]
  simp [hfault, bind, Except.bind]

namespace FailsUnder

theorem append (h : FailsUnder emojis opened rest) (body : Text) (hbracket : '[' ∉ body)
    (hlast : body.getLast? ≠ some '\\') : FailsUnder emojis opened (body ++ rest) := by
  intro printed stretch position
  obtain ⟨fault, hfault⟩ := h printed (body.reverse ++ stretch) (position + body.length)
  refine ⟨fault, ?_⟩
  rw [piecesFrom_append hbracket hlast, styleFrom_chars, hfault]

/-- A phrase in a style changes nothing about what follows it. -/
theorem styled (h : FailsUnder emojis opened rest) (hname : IsStyle name) (body : Text)
    (hbracket : '[' ∉ body) (hlast : body.getLast? ≠ some '\\') :
    FailsUnder emojis opened
      (tagText 0 name (body ++ tagText 0 ('/' :: name) rest)) := by
  have hcloses : ∀ start, FailsUnder emojis (⟨name, none, start⟩ :: opened)
      (tagText 0 ('/' :: name) rest) := by
    intro start printed stretch position
    obtain ⟨fault, hfault⟩ := h (printed + (plain emojis stretch.reverse).length) []
      (position + 0 + ('/' :: name).length + 2)
    refine ⟨fault, ?_⟩
    rw [piecesFrom_tag hname.isTag_close, styleFrom_tag (hname.applyTag_close _ _ _ _), hfault]
    rfl
  intro printed stretch position
  obtain ⟨fault, hfault⟩ := (hcloses (printed + (plain emojis stretch.reverse).length)).append body
    hbracket hlast (printed + (plain emojis stretch.reverse).length) []
    (position + 0 + name.length + 2)
  refine ⟨fault, ?_⟩
  rw [piecesFrom_tag hname.isTag, styleFrom_tag (hname.applyTag_open _ _ _), hfault]
  rfl

theorem render (h : FailsUnder emojis [] t) : ∃ fault, Markup.render emojis t = .error fault := by
  obtain ⟨fault, hfault⟩ := h 0 [] 0
  have hstyle : style emojis t = .error fault := hfault
  refine ⟨fault, ?_⟩
  rw [Markup.render, hstyle]
  rfl

end FailsUnder

end Pinpoint.Markup
