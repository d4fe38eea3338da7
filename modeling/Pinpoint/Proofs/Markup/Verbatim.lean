import Mathlib.Data.List.Infix
import Pinpoint.Proofs.Markup.Printing
import Pinpoint.Text.Printable

/-!
# Texts that are printed as they are

An escaped text is printed without its escapes, but not always as it was: emoji codes in
it are replaced, a backslash in front of a bracket that is no tag is dropped, and a single
backslash at the end is doubled. The first two never make the text longer and the third one
changes how it ends, so they never make up for each other.

* `shown`: what is printed of an escaped text.
* `Verbatim`: none of the three happens.
* `shown_eq_iff`: a printable text is printed as it is exactly where it is verbatim.
-/

namespace Pinpoint.Markup

variable {emojis : EmojiTable} {t : Text}

/-! ## Specification -/

/-- What is printed of an escaped text. -/
def shown (emojis : EmojiTable) (t : Text) : Text :=
  (stretches (closeBackslash t)).flatMap (plain emojis)

/-- Nothing that is printed differently is in a text: no emoji code and no bracket behind a
backslash between its tags and in them, and no single backslash at its end. -/
structure Verbatim (emojis : EmojiTable) (t : Text) : Prop where
  emoji : ∀ s ∈ stretches t, replaceEmoji emojis s = s
  bracket : ∀ s ∈ stretches t, ¬ ['\\', '['] <:+: s
  ending : closeBackslash t = t

instance (emojis : EmojiTable) (t : Text) : Decidable (Verbatim emojis t) :=
  decidable_of_iff ((∀ s ∈ stretches t, replaceEmoji emojis s = s) ∧
      (∀ s ∈ stretches t, ¬ ['\\', '['] <:+: s) ∧ closeBackslash t = t)
    ⟨fun ⟨emoji, bracket, ending⟩ => ⟨emoji, bracket, ending⟩,
      fun ⟨emoji, bracket, ending⟩ => ⟨emoji, bracket, ending⟩⟩

/-- Every character of a text is shown as itself. -/
def IsPrintable (t : Text) : Prop := ∀ c ∈ t, Text.isPrintable c = true

instance (t : Text) : Decidable (IsPrintable t) := inferInstanceAs (Decidable (∀ c ∈ t, _))

/-! ## Brackets -/

theorem length_plainBrackets_le (t : Text) : (plainBrackets t).length ≤ t.length := by
  fun_induction plainBrackets t with
  | case1 rest ih =>
    simp only [List.length_cons]
    omega
  | case2 c rest hc ih => exact Nat.succ_le_succ ih
  | case3 => exact le_rfl

/-- Only a bracket behind a backslash makes a difference, and it makes the text shorter. -/
theorem length_plainBrackets_eq_iff :
    (plainBrackets t).length = t.length ↔ ¬ ['\\', '['] <:+: t := by
  fun_induction plainBrackets t with
  | case1 rest ih =>
    have hle := length_plainBrackets_le rest
    constructor
    · intro h
      simp only [List.length_cons] at h
      omega
    · exact fun h => absurd ⟨[], rest, rfl⟩ h
  | case2 c rest hc ih =>
    have hhead : ¬ ['\\', '['] <+: c :: rest := by
      rintro ⟨after, hafter⟩
      obtain ⟨rfl, rfl⟩ := List.cons.inj hafter.symm
      exact hc after rfl rfl
    rw [List.infix_cons_iff, List.length_cons, List.length_cons, Nat.add_right_cancel_iff, ih]
    simp [hhead]
  | case3 => simp

theorem plainBrackets_eq_self (h : ¬ ['\\', '['] <:+: t) : plainBrackets t = t := by
  fun_induction plainBrackets t with
  | case1 rest ih => exact absurd ⟨[], rest, rfl⟩ h
  | case2 c rest hc ih => rw [ih fun hrest => h (List.infix_cons_iff.2 (.inr hrest))]
  | case3 => rfl

/-! ## Emoji codes -/

/-- The colon and the characters after it that have been read. -/
def codeText (code : Option Text) : Text := (code.map fun code => ':' :: code.reverse).getD []

theorem length_le_of_startsWith {head : Text} (h : t.startsWith head = true) :
    head.length ≤ t.length := by
  unfold Text.startsWith at h
  fun_induction Text.dropHead? head t with
  | case1 t => exact Nat.zero_le _
  | case2 a head => cases h
  | case3 head b t ih => exact Nat.succ_le_succ (ih h)
  | case4 a head b t hne => cases h

theorem length_splitVariant_le (code : Text) :
    (splitVariant code).1.length + (splitVariant code).2.length ≤ code.length := by
  have hvariants : ∀ entry ∈ emojiVariants, 1 ≤ entry.1.length ∧
      entry.1.length = entry.1.toList.length := by decide
  unfold splitVariant
  split
  · next variant selector hfind =>
    obtain ⟨hpos, hlength⟩ := hvariants _ (List.mem_of_find?_eq_some hfind)
    have hends : code.endsWith variant.toList = true := by simpa using List.find?_some hfind
    have hle := length_le_of_startsWith hends
    rw [List.length_reverse, List.length_reverse] at hle
    simp only [List.length_take, List.length_singleton] at hpos hlength ⊢
    omega
  · simp

theorem length_emojiText_le (emojis : EmojiTable) (code : Text) :
    (emojiText emojis code).length ≤ code.length + 2 := by
  have hsplit := length_splitVariant_le code
  unfold emojiText
  dsimp only
  split
  · next emoji hemoji =>
    have hemoji := emojis.length_le hemoji
    rw [List.length_append]
    omega
  · simp

theorem length_replaceFrom_le (code : Option Text) (t : Text) :
    (replaceFrom emojis code t).length ≤ (codeText code ++ t).length := by
  fun_induction replaceFrom emojis code t with
  | case1 => exact le_rfl
  | case2 code => simp [codeText]
  | case3 rest ih => exact ih
  | case4 c rest hc ih => exact Nat.succ_le_succ ih
  | case5 code rest ih =>
    have hcode := length_emojiText_le emojis code.reverse
    have hrest : (replaceFrom emojis none rest).length ≤ rest.length := ih
    simp only [codeText, Option.map_some, Option.getD_some, List.length_append,
      List.length_cons, List.length_reverse] at hcode ⊢
    omega
  | case6 code c rest hc hblank ih =>
    have hrest : (replaceFrom emojis none rest).length ≤ rest.length := ih
    simpa [codeText] using hrest
  | case7 code c rest hc hblank ih => simpa [codeText] using ih

theorem length_replaceEmoji_le (t : Text) : (replaceEmoji emojis t).length ≤ t.length :=
  length_replaceFrom_le none t

/-! ## Single stretches -/

theorem length_plain_le (emojis : EmojiTable) (t : Text) :
    (plain emojis t).length ≤ t.length :=
  (List.length_filter_le _ _).trans <|
    (length_replaceEmoji_le _).trans (length_plainBrackets_le t)

theorem le_of_isPrintable {c : Char} (h : Text.isPrintable c = true) : 0x20 ≤ c.toNat := by
  by_contra hlt
  rw [Text.isPrintable, if_pos (by omega)] at h
  exact hlt (of_decide_eq_true h)

theorem isDropped_of_le {c : Char} (h : 0x20 ≤ c.toNat) : isDropped c = false := by
  rw [Bool.eq_false_iff]
  intro hdropped
  have hmem : c.toNat ∈ [7, 8, 11, 12, 13] := List.contains_iff_mem.1 hdropped
  have hsmall : ∀ n ∈ [7, 8, 11, 12, 13], n < 0x20 := by decide
  exact absurd (hsmall _ hmem) (Nat.not_lt.2 h)

/-- A text is printed as it is exactly if nothing in it is printed differently. -/
theorem plain_eq_self_iff :
    plain emojis t = t ↔
      replaceEmoji emojis t = t ∧ ¬ ['\\', '['] <:+: t ∧ ∀ c ∈ t, isDropped c = false := by
  constructor
  · intro hplain
    -- No step makes the text longer, so none has made it shorter.
    have hfilter : t.length ≤ (replaceEmoji emojis (plainBrackets t)).length :=
      (congrArg List.length hplain).ge.trans (List.length_filter_le _ _)
    have hbrackets : (plainBrackets t).length = t.length :=
      (length_plainBrackets_le t).antisymm (hfilter.trans (length_replaceEmoji_le _))
    have hbracket := length_plainBrackets_eq_iff.1 hbrackets
    rw [plain, plainBrackets_eq_self hbracket] at hplain
    rw [plainBrackets_eq_self hbracket] at hfilter
    have hsublist := List.filter_sublist (p := (!isDropped ·)) (l := replaceEmoji emojis t)
    rw [hplain] at hsublist
    have hemoji := (hsublist.eq_of_length_le (length_replaceEmoji_le t)).symm
    rw [hemoji, List.filter_eq_self] at hplain
    exact ⟨hemoji, hbracket, fun c hc => by simpa using hplain c hc⟩
  · rintro ⟨hemoji, hbracket, hcontrol⟩
    rw [plain, plainBrackets_eq_self hbracket, hemoji, List.filter_eq_self]
    intro c hc
    rw [hcontrol c hc]
    rfl

theorem plain_eq_iff (h : IsPrintable t) :
    plain emojis t = t ↔ replaceEmoji emojis t = t ∧ ¬ ['\\', '['] <:+: t := by
  have hcontrol : ∀ c ∈ t, isDropped c = false := fun c hc =>
    isDropped_of_le (le_of_isPrintable (h c hc))
  rw [plain_eq_self_iff, and_iff_left hcontrol]

/-! ## All stretches -/

theorem length_flatMap_plain_le (emojis : EmojiTable) (texts : List Text) :
    (texts.flatMap (plain emojis)).length ≤ texts.flatten.length := by
  induction texts with
  | nil => exact le_rfl
  | cons s texts ih =>
    rw [List.flatMap_cons, List.flatten_cons, List.length_append, List.length_append]
    exact Nat.add_le_add (length_plain_le emojis s) ih

theorem flatMap_plain_eq_iff (emojis : EmojiTable) (texts : List Text) :
    texts.flatMap (plain emojis) = texts.flatten ↔ ∀ s ∈ texts, plain emojis s = s := by
  induction texts with
  | nil => simp
  | cons s texts ih =>
    rw [List.flatMap_cons, List.flatten_cons, List.forall_mem_cons]
    constructor
    · intro h
      have hlength := congrArg List.length h
      have hs := length_plain_le emojis s
      have htexts := length_flatMap_plain_le emojis texts
      rw [List.length_append, List.length_append] at hlength
      obtain ⟨hplain, hrest⟩ := List.append_inj h (by omega)
      exact ⟨hplain, ih.1 hrest⟩
    · rintro ⟨hplain, hall⟩
      rw [hplain, ih.2 hall]

/-! ## A backslash at the end -/

theorem plainBrackets_append_backslash (t : Text) :
    plainBrackets (t ++ ['\\']) = plainBrackets t ++ ['\\'] := by
  fun_induction plainBrackets t with
  | case1 rest ih => exact congrArg ('[' :: ·) ih
  | case2 c rest hc ih =>
    rw [List.cons_append, plainBrackets, ih, List.cons_append]
    intro after hslash hafter
    cases rest with
    | nil => cases hafter
    | cons d rest =>
      obtain ⟨rfl, -⟩ := List.cons.inj hafter
      exact hc rest hslash rfl
  | case3 => rfl

theorem replaceFrom_append_backslash (code : Option Text) (t : Text) :
    replaceFrom emojis code (t ++ ['\\']) = replaceFrom emojis code t ++ ['\\'] := by
  fun_induction replaceFrom emojis code t with
  | case1 => rfl
  | case2 code =>
    have hplain : Text.isBlank '\\' = false := by decide
    simp [replaceFrom, hplain]
  | case3 rest ih => rw [List.cons_append, replaceFrom, if_pos rfl, ih]
  | case4 c rest hc ih => rw [List.cons_append, replaceFrom, if_neg hc, ih, List.cons_append]
  | case5 code rest ih => rw [List.cons_append, replaceFrom, if_pos rfl, ih, List.append_assoc]
  | case6 code c rest hc hblank ih =>
    rw [List.cons_append, replaceFrom, if_neg hc, if_pos hblank, ih]
    simp
  | case7 code c rest hc hblank ih =>
    rw [List.cons_append, replaceFrom, if_neg hc, if_neg hblank, ih]

theorem plain_append_backslash (t : Text) :
    plain emojis (t ++ ['\\']) = plain emojis t ++ ['\\'] := by
  rw [plain, plainBrackets_append_backslash, replaceEmoji, replaceFrom_append_backslash,
    List.filter_append]
  rfl

theorem exists_stretches_append_backslash (t : Text) :
    ∃ init last, stretches t = init ++ [last] ∧
      stretches (t ++ ['\\']) = init ++ [last ++ ['\\']] := by
  induction t using scan_induction with
  | nil =>
    refine ⟨[], [], stretches_nil, ?_⟩
    rw [List.nil_append, stretches_char rfl, stretches_nil]
    rfl
  | char c rest h ih =>
    obtain ⟨init, last, hrest, happend⟩ := ih
    have h' : hasTag (c :: (rest ++ ['\\'])) = false :=
      (hasTag_append_backslash (c :: rest)).trans h
    rw [List.cons_append, stretches_char h, stretches_char h', hrest, happend]
    cases init with
    | nil => exact ⟨[], c :: last, rfl, rfl⟩
    | cons first init => exact ⟨(c :: first) :: init, last, rfl, rfl⟩
  | tag n content after h ih =>
    obtain ⟨init, last, hrest, happend⟩ := ih
    rw [tagText_append, stretches_tag h, stretches_tag h, hrest, happend]
    exact ⟨[] :: List.replicate n '\\' :: ('[' :: (content ++ [']'])) :: init, last, rfl, rfl⟩

theorem flatMap_plain_append_backslash (t : Text) :
    (stretches (t ++ ['\\'])).flatMap (plain emojis) =
      (stretches t).flatMap (plain emojis) ++ ['\\'] := by
  obtain ⟨init, last, ht, happend⟩ := exists_stretches_append_backslash t
  rw [ht, happend]
  simp [plain_append_backslash]

/-! ## Printed as it is -/

theorem isPrintable_of_mem_stretches (h : IsPrintable t) : ∀ s ∈ stretches t, IsPrintable s := by
  intro s hs c hc
  refine h c ?_
  rw [← flatten_stretches t]
  exact List.mem_flatten_of_mem hs hc

/-- A text that does not end in a single backslash. -/
theorem shown_eq_iff_of_ending (h : IsPrintable t) (hending : closeBackslash t = t) :
    shown emojis t = t ↔ ∀ s ∈ stretches t, replaceEmoji emojis s = s ∧ ¬ ['\\', '['] <:+: s := by
  have hall := isPrintable_of_mem_stretches h
  have hplain := flatMap_plain_eq_iff emojis (stretches t)
  rw [flatten_stretches] at hplain
  rw [shown, hending, hplain]
  exact forall₂_congr fun s hs => plain_eq_iff (hall s hs)

/-- A single backslash at the end is doubled. -/
theorem shown_ne_of_ending (hending : closeBackslash t ≠ t) : shown emojis t ≠ t := by
  have hlast : t.getLast? = some '\\' := by
    by_contra hlast
    exact hending (closeBackslash_of_ne hlast)
  obtain ⟨before, rfl⟩ := List.getLast?_eq_some_iff.1 hlast
  rw [closeBackslash_append] at hending
  split_ifs at hending with hbefore
  · exact absurd rfl hending
  · rw [shown, closeBackslash_append, if_neg hbefore, flatMap_plain_append_backslash,
      flatMap_plain_append_backslash]
    intro heq
    refine hbefore ?_
    rw [← List.append_cancel_right heq]
    simp

/-- A printable text is printed as it is exactly where it is verbatim. -/
theorem shown_eq_iff (h : IsPrintable t) : shown emojis t = t ↔ Verbatim emojis t := by
  by_cases hending : closeBackslash t = t
  · rw [shown_eq_iff_of_ending h hending]
    exact ⟨fun hall => ⟨fun s hs => (hall s hs).1, fun s hs => (hall s hs).2, hending⟩,
      fun hv s hs => ⟨hv.emoji s hs, hv.bracket s hs⟩⟩
  · exact ⟨fun heq => absurd heq (shown_ne_of_ending hending),
      fun hv => absurd hv.ending hending⟩

/-! ## Characters that are printed -/

variable {c : Char}

theorem le_of_mem_splitVariant {code : Text} (h : c ∈ (splitVariant code).2) :
    0x20 ≤ c.toNat := by
  have hselectors : ∀ entry ∈ emojiVariants, 0x20 ≤ entry.2.toNat := by decide
  unfold splitVariant at h
  split at h
  · next variant selector hfind =>
    rw [List.mem_singleton.1 h]
    exact hselectors _ (List.mem_of_find?_eq_some hfind)
  · cases h

theorem mem_emojiText {code : Text} (h : c ∈ emojiText emojis code) :
    c ∈ ':' :: (code ++ [':']) ∨ 0x20 ≤ c.toNat := by
  unfold emojiText at h
  dsimp only at h
  split at h
  · next emoji hemoji =>
    exact .inr ((List.mem_append.1 h).elim (emojis.visible hemoji c) le_of_mem_splitVariant)
  · exact .inl h

theorem mem_codeText_some {code : Text} : c ∈ codeText (some code) ↔ c = ':' ∨ c ∈ code := by
  simp [codeText]

theorem mem_replaceFrom {code : Option Text} (h : c ∈ replaceFrom emojis code t) :
    c ∈ codeText code ++ t ∨ 0x20 ≤ c.toNat := by
  fun_induction replaceFrom emojis code t with
  | case1 => cases h
  | case2 code => exact .inl (List.mem_append_left _ h)
  | case3 rest ih => exact ih h
  | case4 c' rest hc ih =>
    rcases List.mem_cons.1 h with rfl | h
    · exact .inl List.mem_cons_self
    · exact (ih h).imp_left (List.mem_cons_of_mem c')
  | case5 code rest ih =>
    simp only [List.mem_append, mem_codeText_some, List.mem_cons]
    rcases List.mem_append.1 h with h | h
    · have hmem := mem_emojiText h
      simp only [List.mem_append, List.mem_cons, List.mem_reverse] at hmem
      tauto
    · have hmem : c ∈ rest ∨ 0x20 ≤ c.toNat := ih h
      tauto
  | case6 code c' rest hc hblank ih =>
    have hmem : c ∈ replaceFrom emojis none rest → c ∈ rest ∨ 0x20 ≤ c.toNat := ih
    simp only [List.mem_append, mem_codeText_some, List.mem_cons, List.mem_reverse] at h ⊢
    tauto
  | case7 code c' rest hc hblank ih =>
    have hmem := ih h
    simp only [List.mem_append, mem_codeText_some, List.mem_cons] at hmem ⊢
    tauto

theorem mem_plainBrackets (h : c ∈ plainBrackets t) : c ∈ t := by
  fun_induction plainBrackets t with
  | case1 rest ih =>
    rcases List.mem_cons.1 h with rfl | h
    · simp
    · simp [ih h]
  | case2 c' rest hc ih => exact List.mem_cons.2 ((List.mem_cons.1 h).imp_right ih)
  | case3 => cases h

theorem mem_plain (h : c ∈ plain emojis t) : c ∈ t ∨ 0x20 ≤ c.toNat :=
  (mem_replaceFrom (List.mem_of_mem_filter h)).imp_left mem_plainBrackets

theorem mem_closeBackslash (h : c ∈ closeBackslash t) : c ∈ t ∨ c = '\\' := by
  unfold closeBackslash at h
  split_ifs at h
  · simpa using h
  · exact .inl h

/-- Printable texts stay on their line. -/
theorem le_of_mem_shown (h : IsPrintable t) (hc : c ∈ shown emojis t) : 0x20 ≤ c.toNat := by
  obtain ⟨s, hs, hc⟩ := List.mem_flatMap.1 hc
  rcases mem_plain hc with hc | hc
  · have hmem : c ∈ closeBackslash t := by
      rw [← flatten_stretches (closeBackslash t)]
      exact List.mem_flatten_of_mem hs hc
    rcases mem_closeBackslash hmem with hc | rfl
    · exact le_of_isPrintable (h c hc)
    · decide
  · exact hc

end Pinpoint.Markup
