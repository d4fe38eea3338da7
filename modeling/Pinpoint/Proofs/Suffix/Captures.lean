import Mathlib.Data.List.Basic
import Pinpoint.Proofs.Suffix.Grammar

/-!
# Suffixes by greedy matching

The two grammars are patterns: groups of one character or more with colons between
them, from the first character of a text to its last. A matcher lets every group
take as much as it can, and gives characters back where the rest does not match;
`captures` lists what it tries that way. Cutting a text at its last colons finds the
same groups, since there is one way at most to put them together.

* `mem_captures_iff`: a matcher tries all the ways to put a text together, and no
  others.
* `head?_captures_lineColumn`, `head?_captures_lineOnly`: the first of these ways is
  what `lineColumn?` and `lineOnly?` find.
* `suffixes_split_uniquely`: the languages of the two grammars, with the only way to
  split each text of them.
-/

namespace Pinpoint

/-! ## Specification: greedy matching -/

/-- A piece of a pattern: one character as it is, or a group of one character or more. -/
inductive Piece
  | char (c : Char)
  | group (ok : Char → Bool)

/-- What a group may take from the start of a text, with what is left; the longest first. -/
def groupsAt (ok : Char → Bool) : Text → List (Text × Text)
  | [] => []
  | c :: t =>
    if ok c then (groupsAt ok t).map (fun (g, rest) => (c :: g, rest)) ++ [([c], t)] else []

/-- The groups of a text in all the ways to match it from its start to its end, in the order in
    which they are tried. -/
def captures : List Piece → Text → List (List Text)
  | [], t => if t = [] then [[]] else []
  | .char _ :: _, [] => []
  | .char c :: pieces, d :: t => if d = c then captures pieces t else []
  | .group ok :: pieces, t =>
    (groupsAt ok t).flatMap fun (g, rest) => (captures pieces rest).map (g :: ·)

/-- A text is put together from pieces, with these groups. -/
def Spells : List Piece → List Text → Text → Prop
  | [], groups, t => groups = [] ∧ t = []
  | .char c :: pieces, groups, t => ∃ rest, t = c :: rest ∧ Spells pieces groups rest
  | .group ok :: pieces, groups, t =>
    ∃ g groups' rest, groups = g :: groups' ∧ t = g ++ rest ∧ isGroup ok g = true ∧
      Spells pieces groups' rest

/-- `path:LINE:COLUMN` as a pattern. -/
def lineColumnPieces : List Piece :=
  [.group fun _ => true, .char ':', .group isGroupChar, .char ':', .group isGroupChar]

/-- `path:LINE` as a pattern. -/
def lineOnlyPieces : List Piece := [.group fun _ => true, .char ':', .group Char.isDigit]

/-- `t` is `p:l:c`. -/
structure IsLineColumn (t p l c : Text) : Prop where
  text_eq : t = p ++ ':' :: l ++ ':' :: c
  path_ne_nil : p ≠ []
  line : IsGroup l
  column : IsGroup c

/-- `t` is `q:n`. -/
structure IsLineOnly (t q n : Text) : Prop where
  text_eq : t = q ++ ':' :: n
  path_ne_nil : q ≠ []
  line : IsDigits n

/-! ## All ways to match -/

theorem isGroup_cons_iff {ok : Char → Bool} {c : Char} {t : Text} :
    isGroup ok (c :: t) = true ↔ ok c = true ∧ (t = [] ∨ isGroup ok t = true) := by
  cases t <;> simp [isGroup]

theorem mem_groupsAt_cons {ok : Char → Bool} {c : Char} {t g rest : Text} :
    (g, rest) ∈ groupsAt ok (c :: t) ↔
      ok c = true ∧ ((∃ g', (g', rest) ∈ groupsAt ok t ∧ c :: g' = g) ∨ (g = [c] ∧ rest = t)) := by
  rw [groupsAt]
  split_ifs with hc <;> simp [hc]

theorem mem_groupsAt_iff {ok : Char → Bool} {t g rest : Text} :
    (g, rest) ∈ groupsAt ok t ↔ isGroup ok g = true ∧ t = g ++ rest := by
  induction t generalizing g with
  | nil =>
    constructor
    · intro h
      cases h
    · rintro ⟨hg, htext⟩
      obtain ⟨rfl, -⟩ := List.append_eq_nil_iff.1 htext.symm
      simp [isGroup] at hg
  | cons c t ih =>
    rw [mem_groupsAt_cons]
    constructor
    · rintro ⟨hc, ⟨g', hmem, rfl⟩ | ⟨rfl, rfl⟩⟩
      · obtain ⟨hg, rfl⟩ := ih.1 hmem
        exact ⟨isGroup_cons_iff.2 ⟨hc, .inr hg⟩, rfl⟩
      · exact ⟨isGroup_cons_iff.2 ⟨hc, .inl rfl⟩, rfl⟩
    · rintro ⟨hg, htext⟩
      cases g with
      | nil => simp [isGroup] at hg
      | cons d g =>
        obtain ⟨rfl, rfl⟩ := List.cons.inj htext
        obtain ⟨hc, rfl | hg⟩ := isGroup_cons_iff.1 hg
        · exact ⟨hc, .inr ⟨rfl, rfl⟩⟩
        · exact ⟨hc, .inl ⟨g, ih.2 ⟨hg, rfl⟩, rfl⟩⟩

theorem mem_captures_iff {pieces : List Piece} {groups : List Text} {t : Text} :
    groups ∈ captures pieces t ↔ Spells pieces groups t := by
  induction pieces generalizing groups t with
  | nil =>
    unfold captures Spells
    split_ifs with ht <;> simp [ht]
  | cons piece pieces ih =>
    cases piece with
    | char c =>
      unfold Spells
      cases t with
      | nil => simp [captures]
      | cons d t =>
        unfold captures
        split_ifs with hd <;> simp [hd, ih]
    | group ok =>
      simp only [captures, Spells, List.mem_flatMap, List.mem_map, Prod.exists, mem_groupsAt_iff,
        ih]
      constructor
      · rintro ⟨g, rest, ⟨hg, rfl⟩, groups', hrest, rfl⟩
        exact ⟨g, groups', rest, rfl, rfl, hg, hrest⟩
      · rintro ⟨g, groups', rest, rfl, rfl, hg, hrest⟩
        exact ⟨g, rest, ⟨hg, rfl⟩, groups', hrest, rfl⟩

/-! ## The two patterns -/

theorem isGroup_true_iff {t : Text} : isGroup (fun _ => true) t = true ↔ t ≠ [] := by
  simp [isGroup]

theorem spells_lineColumn_iff {groups : List Text} {t : Text} :
    Spells lineColumnPieces groups t ↔ ∃ p l c, groups = [p, l, c] ∧ IsLineColumn t p l c := by
  simp only [lineColumnPieces, Spells, isGroup_true_iff, isGroup_isGroupChar_iff]
  constructor
  · rintro ⟨p, _, _, rfl, rfl, hp, _, rfl, l, _, _, rfl, rfl, hl, _, rfl, c, _, _, rfl, rfl, hc,
      rfl, rfl⟩
    exact ⟨p, l, c, rfl, by simp, hp, hl, hc⟩
  · rintro ⟨p, l, c, rfl, rfl, hp, hl, hc⟩
    refine ⟨p, [l, c], ':' :: l ++ ':' :: c, rfl, by simp, hp, l ++ ':' :: c, rfl, ?_⟩
    exact ⟨l, [c], ':' :: c, rfl, rfl, hl, c, rfl, c, [], [], rfl, by simp, hc, rfl, rfl⟩

theorem spells_lineOnly_iff {groups : List Text} {t : Text} :
    Spells lineOnlyPieces groups t ↔ ∃ q n, groups = [q, n] ∧ IsLineOnly t q n := by
  simp only [lineOnlyPieces, Spells, isGroup_true_iff, isGroup_isDigit_iff]
  constructor
  · rintro ⟨q, _, _, rfl, rfl, hq, _, rfl, n, _, _, rfl, rfl, hn, rfl, rfl⟩
    exact ⟨q, n, rfl, by simp, hq, hn⟩
  · rintro ⟨q, n, rfl, rfl, hq, hn⟩
    exact ⟨q, [n], ':' :: n, rfl, rfl, hq, n, rfl, n, [], [], rfl, by simp, hn, rfl, rfl⟩

/-! ## One way to split a text -/

theorem IsLineColumn.unique {t p p' l l' c c' : Text} (h : IsLineColumn t p l c)
    (h' : IsLineColumn t p' l' c') : p' = p ∧ l' = l ∧ c' = c :=
  append_colon_colon_inj (h'.text_eq.symm.trans h.text_eq) h'.line.colon_notMem h.line.colon_notMem
    h'.column.colon_notMem h.column.colon_notMem

theorem IsLineOnly.unique {t q q' n n' : Text} (h : IsLineOnly t q n) (h' : IsLineOnly t q' n') :
    q' = q ∧ n' = n :=
  append_colon_inj (h'.text_eq.symm.trans h.text_eq) h'.line.colon_notMem h.line.colon_notMem

theorem lineColumn?_eq_some_iff_isLineColumn {t : Text} {m : LineColumn} :
    lineColumn? t = some m ↔
      ∃ p l c, IsLineColumn t p l c ∧ m = ⟨t, p, l, c, t.length - c.length⟩ := by
  rw [lineColumn?_eq_some_iff]
  constructor
  · rintro ⟨p, l, c, ht, hp, hl, hc, hm⟩
    exact ⟨p, l, c, ⟨ht, hp, hl, hc⟩, hm⟩
  · rintro ⟨p, l, c, ⟨ht, hp, hl, hc⟩, hm⟩
    exact ⟨p, l, c, ht, hp, hl, hc, hm⟩

theorem lineOnly?_eq_some_iff_isLineOnly {t : Text} {m : LineOnly} :
    lineOnly? t = some m ↔ ∃ q n, IsLineOnly t q n ∧ m = ⟨t, q, n⟩ := by
  rw [lineOnly?_eq_some_iff]
  constructor
  · rintro ⟨q, n, ht, hq, hn, hm⟩
    exact ⟨q, n, ⟨ht, hq, hn⟩, hm⟩
  · rintro ⟨q, n, ⟨ht, hq, hn⟩, hm⟩
    exact ⟨q, n, ht, hq, hn, hm⟩

/-! ## The first way tried -/

/-- Of a list with one element at most, the first is that element. -/
theorem head?_eq_of_mem_iff {α : Type} {l : List α} {found : Option α}
    (h : ∀ a, a ∈ l ↔ found = some a) : l.head? = found := by
  cases l with
  | nil =>
    exact (Option.eq_none_iff_forall_ne_some.2 fun a ha => List.not_mem_nil ((h a).2 ha)).symm
  | cons a l => exact ((h a).1 List.mem_cons_self).symm

theorem head?_captures_lineColumn (t : Text) :
    (captures lineColumnPieces t).head? =
      (lineColumn? t).map fun m => [m.path, m.line, m.column] := by
  refine head?_eq_of_mem_iff fun groups => ?_
  rw [mem_captures_iff, spells_lineColumn_iff, Option.map_eq_some_iff]
  constructor
  · rintro ⟨p, l, c, rfl, h⟩
    exact ⟨_, lineColumn?_eq_some_iff_isLineColumn.2 ⟨p, l, c, h, rfl⟩, rfl⟩
  · rintro ⟨m, hm, rfl⟩
    obtain ⟨p, l, c, h, rfl⟩ := lineColumn?_eq_some_iff_isLineColumn.1 hm
    exact ⟨p, l, c, rfl, h⟩

theorem head?_captures_lineOnly (t : Text) :
    (captures lineOnlyPieces t).head? = (lineOnly? t).map fun m => [m.path, m.line] := by
  refine head?_eq_of_mem_iff fun groups => ?_
  rw [mem_captures_iff, spells_lineOnly_iff, Option.map_eq_some_iff]
  constructor
  · rintro ⟨q, n, rfl, h⟩
    exact ⟨_, lineOnly?_eq_some_iff_isLineOnly.2 ⟨q, n, h, rfl⟩, rfl⟩
  · rintro ⟨m, hm, rfl⟩
    obtain ⟨q, n, h, rfl⟩ := lineOnly?_eq_some_iff_isLineOnly.1 hm
    exact ⟨q, n, rfl, h⟩

/-! ## The languages -/

theorem isSome_lineColumn?_iff {t : Text} :
    (lineColumn? t).isSome ↔ ∃ p l c, IsLineColumn t p l c := by
  rw [Option.isSome_iff_exists]
  constructor
  · rintro ⟨m, hm⟩
    obtain ⟨p, l, c, h, -⟩ := lineColumn?_eq_some_iff_isLineColumn.1 hm
    exact ⟨p, l, c, h⟩
  · rintro ⟨p, l, c, h⟩
    exact ⟨_, lineColumn?_eq_some_iff_isLineColumn.2 ⟨p, l, c, h, rfl⟩⟩

theorem isSome_lineOnly?_iff {t : Text} : (lineOnly? t).isSome ↔ ∃ q n, IsLineOnly t q n := by
  rw [Option.isSome_iff_exists]
  constructor
  · rintro ⟨m, hm⟩
    obtain ⟨q, n, h, -⟩ := lineOnly?_eq_some_iff_isLineOnly.1 hm
    exact ⟨q, n, h⟩
  · rintro ⟨q, n, h⟩
    exact ⟨_, lineOnly?_eq_some_iff_isLineOnly.2 ⟨q, n, h, rfl⟩⟩

/-- The column group stands where its offset says. -/
theorem drop_columnStart {t p l c : Text} (h : IsLineColumn t p l c) :
    t.drop (t.length - c.length) = c := by
  have htext : t = (p ++ ':' :: l ++ [':']) ++ c := by
    rw [h.text_eq, List.append_cons]
  rw [htext, List.length_append, Nat.add_sub_cancel, List.drop_left]

/-- A text is found to be `path:LINE:COLUMN` or `path:LINE` exactly if it is put together in this
    way, which it is in one way at most; what is found are its parts, and where its column stands.
    In both grammars this is also the first way in which greedy matching succeeds. -/
theorem suffixes_split_uniquely (t : Text) :
    (captures lineColumnPieces t).head? =
        ((lineColumn? t).map fun m => [m.path, m.line, m.column]) ∧
    ((lineColumn? t).isSome ↔ ∃ p l c, IsLineColumn t p l c) ∧
    (∀ p l c, IsLineColumn t p l c →
      (∀ p' l' c', IsLineColumn t p' l' c' → p' = p ∧ l' = l ∧ c' = c) ∧
      ∃ m, lineColumn? t = some m ∧ m.source = t ∧ m.path = p ∧ m.line = l ∧ m.column = c ∧
        m.columnStart = t.length - c.length ∧ t.drop m.columnStart = c ∧
        m.collapsedPath = p ++ ':' :: l) ∧
    (captures lineOnlyPieces t).head? = ((lineOnly? t).map fun m => [m.path, m.line]) ∧
    ((lineOnly? t).isSome ↔ ∃ q n, IsLineOnly t q n) ∧
    (∀ q n, IsLineOnly t q n →
      (∀ q' n', IsLineOnly t q' n' → q' = q ∧ n' = n) ∧ lineOnly? t = some ⟨t, q, n⟩) := by
  refine ⟨head?_captures_lineColumn t, isSome_lineColumn?_iff, fun p l c h => ?_,
    head?_captures_lineOnly t, isSome_lineOnly?_iff, fun q n h => ?_⟩
  · refine ⟨fun p' l' c' h' => h.unique h', ⟨t, p, l, c, t.length - c.length⟩, ?_, rfl, rfl, rfl,
      rfl, rfl, drop_columnStart h, ?_⟩
    · exact lineColumn?_eq_some_iff_isLineColumn.2 ⟨p, l, c, h, rfl⟩
    · obtain ⟨rfl, -, -, -⟩ := h
      exact collapsedPath_append p l c
  · refine ⟨fun q' n' h' => h.unique h', ?_⟩
    exact lineOnly?_eq_some_iff_isLineOnly.2 ⟨q, n, h, rfl⟩

/-- The path may hold colons, digits behind them and a line break. -/
theorem numbers_behind_line_break_split :
    IsLineColumn "/a\n:1:x:7" "/a\n:1" "x" "7" ∧ IsLineOnly "/a\n:1:x:7" "/a\n:1:x" "7" ∧
      (∃ m, lineColumn? "/a\n:1:x:7" = some m ∧ m.path = "/a\n:1" ∧ m.columnStart = 8 ∧
        m.collapsedPath = "/a\n:1:x") ∧
      lineOnly? "/a\n:1:x:7" = some ⟨"/a\n:1:x:7", "/a\n:1:x", "7"⟩ := by
  have hlineColumn : IsLineColumn "/a\n:1:x:7" "/a\n:1" "x" "7" :=
    ⟨by decide, by decide, by decide, by decide⟩
  have hlineOnly : IsLineOnly "/a\n:1:x:7" "/a\n:1:x" "7" := ⟨by decide, by decide, by decide⟩
  obtain ⟨-, -, hcolumn, -, -, honly⟩ := suffixes_split_uniquely "/a\n:1:x:7"
  obtain ⟨-, m, hm, -, hpath, -, -, hstart, -, hcollapsed⟩ := hcolumn _ _ _ hlineColumn
  exact ⟨hlineColumn, hlineOnly, ⟨m, hm, hpath, hstart, hcollapsed⟩, (honly _ _ hlineOnly).2⟩

end Pinpoint
