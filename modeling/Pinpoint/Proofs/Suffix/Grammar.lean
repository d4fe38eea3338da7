import Mathlib.Data.Option.Basic
import Pinpoint.Proofs.Suffix.Number

/-!
# The two suffix grammars

`lineColumn?` and `lineOnly?` work on reversed text. Here they are told by the
way a text is put together: `path:LINE:COLUMN` is `p ++ ':' :: l ++ ':' :: c`, and
`path:LINE` is `q ++ ':' :: n`.

* `lastColon?_append`: a text is cut at its last colon and nowhere else, so the
  parts of a suffix are unique (`append_colon_inj`).
* `lineColumn?_eq_some_iff`, `lineOnly?_eq_some_iff`: the languages of the two
  grammars.
* `lineOnly?_of_lineColumn?`: with digits in the column group, the folded path of
  one grammar is the path of the other.
-/

namespace Pinpoint

/-! ## Groups -/

/-- A group of `path:LINE:COLUMN`: not empty, and without colon and separators. -/
def IsGroup (t : Text) : Prop := t ≠ [] ∧ ∀ c ∈ t, c ≠ ':' ∧ c ≠ '/' ∧ c ≠ '\\'

instance (t : Text) : Decidable (IsGroup t) := inferInstanceAs (Decidable (_ ∧ _))

theorem isGroup_isGroupChar_iff (t : Text) : isGroup isGroupChar t = true ↔ IsGroup t := by
  simp [isGroup, isGroupChar, IsGroup, and_assoc]

theorem isGroup_isDigit_iff (t : Text) : isGroup Char.isDigit t = true ↔ IsDigits t := by
  simp [isGroup, IsDigits]

theorem IsGroup.colon_notMem {t : Text} (h : IsGroup t) : ':' ∉ t :=
  fun hc => (h.2 ':' hc).1 rfl

theorem IsDigits.isGroup {t : Text} (h : IsDigits t) : IsGroup t := by
  refine ⟨h.1, fun c hc => ?_⟩
  have hd := h.2 c hc
  refine ⟨?_, ?_, ?_⟩ <;> rintro rfl <;> exact absurd hd (by decide)

theorem IsDigits.colon_notMem {t : Text} (h : IsDigits t) : ':' ∉ t := h.isGroup.colon_notMem

theorem IsUnsigned.isGroup {t : Text} (h : IsUnsigned t) : IsGroup t := h.digits.isGroup

/-! ## The last colon -/

theorem lastColon?_append {before after : Text} (h : ':' ∉ after) :
    lastColon? (before ++ ':' :: after) = some (before, after) := by
  have hall : ∀ c ∈ after.reverse, decide (c ≠ ':') = true := by
    intro c hc
    rw [decide_eq_true_eq]
    rintro rfl
    exact h (List.mem_reverse.1 hc)
  have hrev : (before ++ ':' :: after).reverse = after.reverse ++ ':' :: before.reverse := by
    simp
  unfold lastColon?
  rw [hrev, List.dropWhile_append_of_pos hall, List.takeWhile_append_of_pos hall]
  simp

/-- A text ends in one way in a colon and something without colons. -/
theorem append_colon_inj {q q' n n' : Text} (h : q ++ ':' :: n = q' ++ ':' :: n')
    (hn : ':' ∉ n) (hn' : ':' ∉ n') : q = q' ∧ n = n' := by
  have hcut : lastColon? (q ++ ':' :: n) = some (q, n) := lastColon?_append hn
  rw [h, lastColon?_append hn'] at hcut
  simpa [eq_comm] using hcut

theorem append_colon_colon_inj {p p' l l' c c' : Text}
    (h : p ++ ':' :: l ++ ':' :: c = p' ++ ':' :: l' ++ ':' :: c') (hl : ':' ∉ l) (hl' : ':' ∉ l')
    (hc : ':' ∉ c) (hc' : ':' ∉ c') : p = p' ∧ l = l' ∧ c = c' := by
  obtain ⟨hq, rfl⟩ := append_colon_inj h hc hc'
  obtain ⟨rfl, rfl⟩ := append_colon_inj hq hl hl'
  exact ⟨rfl, rfl, rfl⟩

/-! ## The languages of the grammars -/

/-- The guards of the first grammar, as one condition on the parts it is cut into. -/
theorem lineColumn?_eq_some_iff_cut {t : Text} {m : LineColumn} :
    lineColumn? t = some m ↔
      ∃ q c p l, lastColon? t = some (q, c) ∧ lastColon? q = some (p, l) ∧
        (p ≠ [] ∧ IsGroup l ∧ IsGroup c) ∧ ⟨t, p, l, c, t.length - c.length⟩ = m := by
  simp only [lineColumn?, Option.bind_eq_bind, Option.bind_eq_some_iff, Prod.exists,
    Option.guard_eq_some', Option.pure_def, Option.some.injEq, isGroup_isGroupChar_iff,
    exists_const, exists_and_left]

/-- The first grammar: `path:LINE:COLUMN` with any path and two groups. -/
theorem lineColumn?_eq_some_iff {t : Text} {m : LineColumn} :
    lineColumn? t = some m ↔
      ∃ p l c, t = p ++ ':' :: l ++ ':' :: c ∧ p ≠ [] ∧ IsGroup l ∧ IsGroup c ∧
        m = ⟨t, p, l, c, t.length - c.length⟩ := by
  rw [lineColumn?_eq_some_iff_cut]
  constructor
  · rintro ⟨q, c, p, l, hq, hp, ⟨hne, hl, hc⟩, rfl⟩
    obtain ⟨rfl, -⟩ := lastColon?_eq_some hq
    obtain ⟨rfl, -⟩ := lastColon?_eq_some hp
    exact ⟨p, l, c, rfl, hne, hl, hc, rfl⟩
  · rintro ⟨p, l, c, rfl, hne, hl, hc, rfl⟩
    exact ⟨p ++ ':' :: l, c, p, l, lastColon?_append hc.colon_notMem,
      lastColon?_append hl.colon_notMem, ⟨hne, hl, hc⟩, rfl⟩

/-- The second grammar: `path:LINE` with any path and digits. -/
theorem lineOnly?_eq_some_iff {t : Text} {m : LineOnly} :
    lineOnly? t = some m ↔ ∃ q n, t = q ++ ':' :: n ∧ q ≠ [] ∧ IsDigits n ∧ m = ⟨t, q, n⟩ := by
  simp only [lineOnly?, Option.bind_eq_bind, Option.bind_eq_some_iff, Prod.exists,
    Option.guard_eq_some', Option.pure_def, Option.some.injEq, isGroup_isDigit_iff, exists_const]
  constructor
  · rintro ⟨q, n, hq, ⟨hne, hn⟩, rfl⟩
    obtain ⟨rfl, -⟩ := lastColon?_eq_some hq
    exact ⟨q, n, rfl, hne, hn, rfl⟩
  · rintro ⟨q, n, rfl, hne, hn, rfl⟩
    exact ⟨q, n, lastColon?_append hn.colon_notMem, ⟨hne, hn⟩, rfl⟩

theorem lineColumn?_eq_none_iff {t : Text} :
    lineColumn? t = none ↔
      ∀ p l c, t = p ++ ':' :: l ++ ':' :: c → p ≠ [] → IsGroup l → ¬ IsGroup c := by
  rw [Option.eq_none_iff_forall_ne_some]
  constructor
  · intro h p l c ht hp hl hc
    exact h _ (lineColumn?_eq_some_iff.2 ⟨p, l, c, ht, hp, hl, hc, rfl⟩)
  · rintro h m hm
    obtain ⟨p, l, c, ht, hp, hl, hc, -⟩ := lineColumn?_eq_some_iff.1 hm
    exact h p l c ht hp hl hc

theorem lineOnly?_eq_none_iff {t : Text} :
    lineOnly? t = none ↔ ∀ q n, t = q ++ ':' :: n → q ≠ [] → ¬ IsDigits n := by
  rw [Option.eq_none_iff_forall_ne_some]
  constructor
  · intro h q n ht hq hn
    exact h _ (lineOnly?_eq_some_iff.2 ⟨q, n, ht, hq, hn, rfl⟩)
  · rintro h m hm
    obtain ⟨q, n, ht, hq, hn, -⟩ := lineOnly?_eq_some_iff.1 hm
    exact h q n ht hq hn

theorem lineColumn?_append {p l c : Text} (hp : p ≠ []) (hl : IsGroup l) (hc : IsGroup c) :
    lineColumn? (p ++ ':' :: l ++ ':' :: c) =
      some ⟨p ++ ':' :: l ++ ':' :: c, p, l, c, (p ++ ':' :: l ++ ':' :: c).length - c.length⟩ :=
  lineColumn?_eq_some_iff.2 ⟨p, l, c, rfl, hp, hl, hc, rfl⟩

theorem lineOnly?_append {q n : Text} (hq : q ≠ []) (hn : IsDigits n) :
    lineOnly? (q ++ ':' :: n) = some ⟨q ++ ':' :: n, q, n⟩ :=
  lineOnly?_eq_some_iff.2 ⟨q, n, rfl, hq, hn, rfl⟩

/-- Folding the line group back leaves everything in front of the last colon. -/
theorem collapsedPath_append (p l c : Text) :
    LineColumn.collapsedPath ⟨p ++ ':' :: l ++ ':' :: c, p, l, c,
      (p ++ ':' :: l ++ ':' :: c).length - c.length⟩ = p ++ ':' :: l := by
  have hstart : (p ++ ':' :: l ++ ':' :: c).length - c.length - 1 = (p ++ ':' :: l).length := by
    simp only [List.length_append, List.length_cons]
    omega
  unfold LineColumn.collapsedPath
  rw [hstart, List.take_left']
  rfl

/-- With digits in the column group, both grammars find the same number, and the folded path of the
    first is the path of the second. -/
theorem lineOnly?_of_lineColumn? {t : Text} {m : LineColumn} (h : lineColumn? t = some m)
    (hc : IsDigits m.column) : lineOnly? t = some ⟨t, m.collapsedPath, m.column⟩ := by
  obtain ⟨p, l, c, rfl, -, -, -, rfl⟩ := lineColumn?_eq_some_iff.1 h
  rw [collapsedPath_append]
  exact lineOnly?_append (by simp) hc

end Pinpoint
