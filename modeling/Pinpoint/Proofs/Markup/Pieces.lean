import Mathlib.Data.List.Basic
import Pinpoint.Markup

/-!
# Scanning markup

A text is scanned for tags from its start, and a run of backslashes belongs to the tag
behind it. Escaping puts backslashes in front of every tag, which neither makes a tag nor
breaks one, so that the escaped text is scanned into the same tags with more backslashes.

* `piecesFrom_char`, `piecesFrom_tag`: one step of the scan.
* `scan_induction`: induction along the pieces of a text.
* `escapeTags_char`, `escapeTags_tag`: how a text is escaped, step by step.
* `hasTag_escapeTags`: escaping makes no tag.
* `escape_eq`: an escaped text.
-/

namespace Pinpoint.Markup

variable {c : Char} {t rest content after : Text} {n position : Nat}

/-! ## Tags -/

/-- The content of a tag. -/
def IsTag (content : Text) : Prop :=
  ∃ c rest, content = c :: rest ∧ startsTag c = true ∧ ∀ d ∈ rest, isInTag d = true

/-- A tag as it is written, behind some backslashes. -/
def tagText (n : Nat) (content after : Text) : Text :=
  List.replicate n '\\' ++ '[' :: (content ++ ']' :: after)

theorem tagText_append (n : Nat) (content after t : Text) :
    tagText n content after ++ t = tagText n content (after ++ t) := by
  simp [tagText]

/-- A tag follows behind any backslashes that a text starts with. -/
def hasTag (t : Text) : Bool := (takeTag? (t.dropWhile isBackslash)).isSome

theorem takeTag?_of_ne (h : c ≠ '[') (rest : Text) : takeTag? (c :: rest) = none := by
  unfold takeTag?
  split
  · next heq => exact absurd (List.cons.inj heq).1 h
  · rfl

theorem takeTag?_of_isTag (h : IsTag content) (after : Text) :
    takeTag? ('[' :: (content ++ ']' :: after)) = some (content, after) := by
  obtain ⟨c, rest, rfl, hstart, hrest⟩ := h
  have hend : isInTag ']' = false := by decide
  simp only [takeTag?, List.cons_append, hstart, if_true, List.dropWhile_append_of_pos hrest,
    List.takeWhile_append_of_pos hrest, List.dropWhile_cons, List.takeWhile_cons, hend,
    Bool.false_eq_true, if_false, List.append_nil]

theorem isTag_of_takeTag? (h : takeTag? t = some (content, after)) :
    IsTag content ∧ t = '[' :: (content ++ ']' :: after) := by
  unfold takeTag? at h
  split at h
  · next c rest =>
    split at h
    · next hstart =>
      split at h
      · next after' hdrop =>
        obtain ⟨rfl, rfl⟩ := Prod.mk.inj (Option.some.inj h)
        refine ⟨⟨c, _, rfl, hstart, List.all_eq_true.1 List.all_takeWhile⟩, ?_⟩
        rw [List.cons_append, ← hdrop, List.takeWhile_append_dropWhile]
      · cases h
    · cases h
  · cases h

theorem dropWhile_tagText (n : Nat) (content after : Text) :
    (tagText n content after).dropWhile isBackslash = '[' :: (content ++ ']' :: after) := by
  rw [tagText, List.dropWhile_append_of_pos fun d hd => by simp [List.eq_of_mem_replicate hd,
    isBackslash], List.dropWhile_cons]
  rfl

theorem takeWhile_tagText (n : Nat) (content after : Text) :
    (tagText n content after).takeWhile isBackslash = List.replicate n '\\' := by
  rw [tagText, List.takeWhile_append_of_pos fun d hd => by simp [List.eq_of_mem_replicate hd,
    isBackslash], List.takeWhile_cons]
  exact List.append_nil _

theorem hasTag_backslash (rest : Text) : hasTag ('\\' :: rest) = hasTag rest := rfl

theorem hasTag_of_ne (hslash : c ≠ '\\') (hbracket : c ≠ '[') (rest : Text) :
    hasTag (c :: rest) = false := by
  rw [hasTag, List.dropWhile_cons, show isBackslash c = false from decide_eq_false hslash,
    if_neg (by decide), takeTag?_of_ne hbracket]
  rfl

/-! ## Steps of the scan -/

theorem piecesFrom_nil (position : Nat) : piecesFrom position [] = [] := by
  rw [piecesFrom]
  rfl

theorem piecesFrom_tag (h : IsTag content) (n position : Nat) (after : Text) :
    piecesFrom position (tagText n content after) =
      .tag n content (position + n) :: piecesFrom (position + n + content.length + 2) after := by
  have htake := takeTag?_of_isTag h after
  rw [← dropWhile_tagText n] at htake
  rw [piecesFrom]
  split
  · next content' after' heq =>
    obtain ⟨rfl, rfl⟩ := Prod.mk.inj (Option.some.inj (htake.symm.trans heq))
    simp only [takeWhile_tagText, List.length_replicate]
  · next heq =>
    rw [htake] at heq
    cases heq

theorem piecesFrom_of_noTag (h : hasTag t = false) (position : Nat) :
    piecesFrom position t =
      (t.takeWhile isBackslash).map .char ++
        match t.dropWhile isBackslash with
        | [] => []
        | c :: rest =>
          .char c :: piecesFrom (position + (t.takeWhile isBackslash).length + 1) rest := by
  have hnone : takeTag? (t.dropWhile isBackslash) = none := by
    simpa [hasTag] using h
  rw [piecesFrom]
  split
  · next heq =>
    rw [hnone] at heq
    cases heq
  · split
    · next hdrop _ => rw [hdrop, List.append_nil]
    · next hdrop _ => rw [hdrop]

/-- A character that no tag goes with is a piece of its own. -/
theorem piecesFrom_char (h : hasTag (c :: rest) = false) (position : Nat) :
    piecesFrom position (c :: rest) = .char c :: piecesFrom (position + 1) rest := by
  by_cases hc : c = '\\'
  · subst hc
    rw [piecesFrom_of_noTag h, piecesFrom_of_noTag ((hasTag_backslash rest).symm.trans h)]
    have hslash : isBackslash '\\' = true := rfl
    simp only [List.takeWhile_cons, List.dropWhile_cons, hslash, if_true, List.map_cons,
      List.cons_append, List.length_cons, List.cons.injEq, true_and, List.append_cancel_left_eq]
    cases rest.dropWhile isBackslash with
    | nil => rfl
    | cons d rest' =>
      simp only [show position + ((rest.takeWhile isBackslash).length + 1) + 1 =
        position + 1 + (rest.takeWhile isBackslash).length + 1 by omega]
  · rw [piecesFrom_of_noTag h]
    have hslash : isBackslash c = false := decide_eq_false hc
    simp only [List.takeWhile_cons, List.dropWhile_cons, hslash, Bool.false_eq_true, if_false,
      List.map_nil, List.nil_append, List.length_nil, Nat.add_zero]

/-- Induction along the pieces of a text. -/
theorem scan_induction {motive : Text → Prop} (nil : motive [])
    (char : ∀ c rest, hasTag (c :: rest) = false → motive rest → motive (c :: rest))
    (tag : ∀ n content after, IsTag content → motive after → motive (tagText n content after))
    (t : Text) : motive t := by
  cases htag : takeTag? (t.dropWhile isBackslash) with
  | none =>
    cases t with
    | nil => exact nil
    | cons c rest =>
      exact char c rest (by rw [hasTag, htag]; rfl) (scan_induction nil char tag rest)
  | some found =>
    obtain ⟨content, after⟩ := found
    obtain ⟨hcontent, hrest⟩ := isTag_of_takeTag? htag
    have hall : ∀ d ∈ t.takeWhile isBackslash, d = '\\' := fun d hd =>
      of_decide_eq_true (List.all_eq_true.1 List.all_takeWhile d hd)
    have hslashes := List.eq_replicate_iff.2 ⟨rfl, hall⟩
    have ht : t = tagText (t.takeWhile isBackslash).length content after := by
      rw [tagText, ← hslashes, ← hrest, List.takeWhile_append_dropWhile]
    have hlength : after.length < t.length := by
      rw [ht, tagText]
      simp only [List.length_append, List.length_cons]
      omega
    rw [ht]
    exact tag _ content after hcontent (scan_induction nil char tag after)
termination_by t.length

/-! ## Escaping -/

/-- A piece without its place. -/
def Piece.unplaced : Piece → Piece
  | char c => char c
  | tag n content _ => tag n content 0

/-- Where a scan starts only matters to the places of tags. -/
theorem unplaced_piecesFrom (t : Text) (position position' : Nat) :
    (piecesFrom position t).map Piece.unplaced = (piecesFrom position' t).map Piece.unplaced := by
  induction t using scan_induction generalizing position position' with
  | nil => rw [piecesFrom_nil, piecesFrom_nil]
  | char c rest h ih =>
    rw [piecesFrom_char h, piecesFrom_char h, List.map_cons, List.map_cons,
      ih (position + 1) (position' + 1)]
  | tag n content after h ih =>
    rw [piecesFrom_tag h, piecesFrom_tag h, List.map_cons, List.map_cons,
      ih _ (position' + n + content.length + 2)]
    rfl

/-- A text with backslashes in front of its tags. -/
def escapeTags (t : Text) : Text := (pieces t).flatMap Piece.escape

theorem flatMap_escape_piecesFrom (position : Nat) (t : Text) :
    (piecesFrom position t).flatMap Piece.escape = escapeTags t := by
  have hescape : ∀ ps : List Piece,
      ps.flatMap Piece.escape = (ps.map Piece.unplaced).flatMap Piece.escape := by
    intro ps
    rw [List.flatMap_map]
    congr 1
    funext p
    cases p <;> rfl
  rw [escapeTags, pieces, hescape (piecesFrom position t), hescape (piecesFrom 0 t),
    unplaced_piecesFrom t position 0]

theorem escapeTags_nil : escapeTags [] = [] := by
  rw [escapeTags, pieces, piecesFrom_nil]
  rfl

theorem escapeTags_char (h : hasTag (c :: rest) = false) :
    escapeTags (c :: rest) = c :: escapeTags rest := by
  rw [escapeTags, pieces, piecesFrom_char h, List.flatMap_cons, flatMap_escape_piecesFrom]
  rfl

theorem escapeTags_tag (h : IsTag content) (n : Nat) (after : Text) :
    escapeTags (tagText n content after) = tagText (2 * n + 1) content (escapeTags after) := by
  rw [escapeTags, pieces, piecesFrom_tag h, List.flatMap_cons, flatMap_escape_piecesFrom]
  simp [Piece.escape, tagText]

/-! ## Escaping makes no tag -/

/-- What ends the content of a tag is left as it is. -/
theorem head?_dropWhile_escapeTags (t : Text) :
    ((escapeTags t).dropWhile isInTag).head? = (t.dropWhile isInTag).head? := by
  induction t using scan_induction with
  | nil => rw [escapeTags_nil]
  | char c rest h ih =>
    rw [escapeTags_char h, List.dropWhile_cons, List.dropWhile_cons]
    split_ifs
    · exact ih
    · rfl
  | tag n content after h ih =>
    have hslashes : ∀ m, ∀ d ∈ List.replicate m '\\', isInTag d = true := fun m d hd => by
      rw [List.eq_of_mem_replicate hd]
      decide
    rw [escapeTags_tag h, tagText, tagText, List.dropWhile_append_of_pos (hslashes _),
      List.dropWhile_append_of_pos (hslashes _)]
    rfl

/-- A tag at the bracket that a text starts with. -/
theorem hasTag_bracket (c : Char) (rest : Text) :
    hasTag ('[' :: c :: rest) =
      (startsTag c && decide ((rest.dropWhile isInTag).head? = some ']')) := by
  have hdrop : ('[' :: c :: rest).dropWhile isBackslash = '[' :: c :: rest := rfl
  rw [hasTag, hdrop, takeTag?]
  cases startsTag c with
  | false => rfl
  | true =>
    cases rest.dropWhile isInTag with
    | nil => rfl
    | cons d after =>
      by_cases hd : d = ']'
      · subst hd
        rfl
      · simp only [if_true, List.head?_cons, Option.some.injEq, hd, decide_false, Bool.and_false]
        split
        · next heq => simp_all
        · rfl

/-- Escaping makes no tag. -/
theorem hasTag_escapeTags (h : hasTag (c :: rest) = false) :
    hasTag (c :: escapeTags rest) = false := by
  induction rest using scan_induction generalizing c with
  | nil => rwa [escapeTags_nil]
  | char d rest hd ih =>
    rw [escapeTags_char hd]
    by_cases hslash : c = '\\'
    · subst hslash
      exact ih hd
    · by_cases hbracket : c = '['
      · subst hbracket
        rw [hasTag_bracket] at h ⊢
        rwa [head?_dropWhile_escapeTags]
      · exact hasTag_of_ne hslash hbracket _
  | tag n content after hcontent ih =>
    rw [escapeTags_tag hcontent]
    by_cases hslash : c = '\\'
    · -- A backslash goes with the tag behind it.
      subst hslash
      rw [hasTag_backslash, hasTag, dropWhile_tagText, takeTag?_of_isTag hcontent] at h
      cases h
    · by_cases hbracket : c = '['
      · subst hbracket
        rw [tagText, List.replicate_succ, List.cons_append, hasTag_bracket]
        rfl
      · exact hasTag_of_ne hslash hbracket _

/-! ## The end of an escaped text -/

theorem getLast?_escapeTags (t : Text) : (escapeTags t).getLast? = t.getLast? := by
  induction t using scan_induction with
  | nil => rw [escapeTags_nil]
  | char c rest h ih =>
    rw [escapeTags_char h, List.getLast?_cons, List.getLast?_cons, ih]
  | tag n content after h ih =>
    rw [escapeTags_tag h]
    simp only [tagText, List.getLast?_append, List.getLast?_cons, ih]
    cases after.getLast? <;> simp

theorem head?_dropWhile_append_backslash (t : Text) :
    ((t ++ ['\\']).dropWhile isInTag).head? = (t.dropWhile isInTag).head? := by
  rw [List.dropWhile_append]
  cases t.dropWhile isInTag <;> rfl

/-- A backslash at the end belongs to no tag. -/
theorem hasTag_append_backslash (t : Text) : hasTag (t ++ ['\\']) = hasTag t := by
  induction t with
  | nil => rfl
  | cons c rest ih =>
    by_cases hslash : c = '\\'
    · subst hslash
      exact ih
    · by_cases hbracket : c = '['
      · subst hbracket
        cases rest with
        | nil => rfl
        | cons d rest =>
          rw [List.cons_append, List.cons_append, hasTag_bracket, hasTag_bracket,
            head?_dropWhile_append_backslash]
      · rw [List.cons_append, hasTag_of_ne hslash hbracket, hasTag_of_ne hslash hbracket]

theorem escapeTags_append_backslash (t : Text) :
    escapeTags (t ++ ['\\']) = escapeTags t ++ ['\\'] := by
  induction t using scan_induction with
  | nil =>
    rw [List.nil_append, escapeTags_char rfl, escapeTags_nil]
    rfl
  | char c rest h ih =>
    have h' : hasTag (c :: (rest ++ ['\\'])) = false :=
      (hasTag_append_backslash (c :: rest)).trans h
    rw [List.cons_append, escapeTags_char h', escapeTags_char h, ih, List.cons_append]
  | tag n content after h ih =>
    rw [tagText_append, escapeTags_tag h, escapeTags_tag h, ih, tagText_append]

theorem endsWith_backslash (t : Text) : t.endsWith ['\\'] = decide (t.getLast? = some '\\') := by
  rw [Text.endsWith, Text.startsWith, ← List.head?_reverse]
  cases t.reverse with
  | nil => rfl
  | cons c rest => by_cases h : c = '\\' <;> simp [Text.dropHead?, h, eq_comm]

theorem endsWith_backslashes (t : Text) :
    (t ++ ['\\']).endsWith ['\\', '\\'] = t.endsWith ['\\'] := by
  simp [Text.endsWith, Text.startsWith, Text.dropHead?]

theorem closeBackslash_of_ne (h : t.getLast? ≠ some '\\') : closeBackslash t = t := by
  rw [closeBackslash, endsWith_backslash, if_neg]
  simp [h]

theorem closeBackslash_append (t : Text) :
    closeBackslash (t ++ ['\\']) =
      if t.getLast? = some '\\' then t ++ ['\\'] else t ++ ['\\'] ++ ['\\'] := by
  rw [closeBackslash, endsWith_backslashes, endsWith_backslash, endsWith_backslash]
  by_cases h : t.getLast? = some '\\' <;> simp [h]

/-- A single backslash at the end may as well be doubled at first. -/
theorem escape_eq (t : Text) : escape t = escapeTags (closeBackslash t) := by
  change closeBackslash (escapeTags t) = _
  by_cases h : t.getLast? = some '\\'
  · obtain ⟨before, rfl⟩ := List.getLast?_eq_some_iff.1 h
    rw [escapeTags_append_backslash, closeBackslash_append, closeBackslash_append,
      getLast?_escapeTags]
    split_ifs
    · rw [escapeTags_append_backslash]
    · rw [escapeTags_append_backslash, escapeTags_append_backslash]
  · rw [closeBackslash_of_ne h, closeBackslash_of_ne ((getLast?_escapeTags t).trans_ne h)]

end Pinpoint.Markup
