import Pinpoint.Proofs.Path.Characters

/-!
# Reading paths back

A path that was read from a text is written in one way, and reading what is written
gives the path again. Paths are read piece by piece: what stands in front of a slash
and what stands behind it are read on their own.

* `Path.proper_parse`, `Path.parse_render`: reading a written path gives it back.
* `Path.partsOf_append`, `Path.parse_append`: reading a text cut at a slash.
-/

namespace Pinpoint

/-! ## Pieces -/

namespace Text

variable {sep : Char} {t : Text}

theorem cut_append (sep : Char) (a b : Text) :
    cut sep (a ++ sep :: b) = cut sep a ++ cut sep b := by
  induction a with
  | nil => simp [cut]
  | cons c rest ih =>
    rw [List.cons_append, cut, cut, ih]
    split
    · rfl
    · cases hcut : cut sep rest with
      | nil => exact absurd hcut (cut_ne_nil sep rest)
      | cons piece pieces => rfl

theorem cut_of_notMem (h : sep ∉ t) : cut sep t = [t] := by
  induction t with
  | nil => rfl
  | cons c rest ih =>
    rw [List.mem_cons, not_or] at h
    rw [cut, if_neg (Ne.symm h.1), ih h.2]

theorem join_cons (sep piece : Text) {pieces : List Text} (h : pieces ≠ []) :
    join sep (piece :: pieces) = piece ++ (sep ++ join sep pieces) := by
  obtain ⟨next, rest, rfl⟩ := List.exists_cons_of_ne_nil h
  rw [join, List.intercalate_cons_cons, List.append_assoc]
  rfl

theorem join_concat (sep piece : Text) {pieces : List Text} (h : pieces ≠ []) :
    join sep (pieces ++ [piece]) = join sep pieces ++ (sep ++ piece) := by
  induction pieces with
  | nil => exact absurd rfl h
  | cons first rest ih =>
    cases rest with
    | nil => simp [join]
    | cons next rest =>
      have hrest : next :: rest ≠ [] := List.cons_ne_nil next rest
      rw [List.cons_append, join_cons _ _ (List.append_ne_nil_of_left_ne_nil hrest _), ih hrest,
        join_cons _ _ hrest]
      simp only [List.append_assoc]

/-- Cutting undoes joining. -/
theorem cut_join {pieces : List Text} (hne : pieces ≠ []) (h : ∀ piece ∈ pieces, sep ∉ piece) :
    cut sep (join [sep] pieces) = pieces := by
  induction pieces with
  | nil => exact absurd rfl hne
  | cons piece pieces ih =>
    have hpiece := h piece List.mem_cons_self
    by_cases hrest : pieces = []
    · rw [hrest]
      simpa [join] using cut_of_notMem hpiece
    · rw [join_cons _ _ hrest, List.singleton_append, cut_append, cut_of_notMem hpiece,
        ih hrest fun p hp => h p (List.mem_cons_of_mem _ hp), List.singleton_append]

/-- Joining undoes cutting. -/
theorem join_cut (sep : Char) (t : Text) : join [sep] (cut sep t) = t := by
  induction t with
  | nil => rfl
  | cons c rest ih =>
    rw [cut]
    split
    · rename_i hc
      rw [join_cons _ _ (cut_ne_nil sep rest), ih, hc]
      rfl
    · cases hcut : cut sep rest with
      | nil => exact absurd hcut (cut_ne_nil sep rest)
      | cons piece pieces =>
        rw [hcut] at ih
        rw [← ih]
        cases pieces with
        | nil => rfl
        | cons next pieces => rfl

/-- A text of two pieces or more ends in a separator and its last piece. -/
theorem eq_append_of_cut {init : List Text} {last : Text} (h : cut sep t = init ++ [last])
    (hinit : init ≠ []) : t = join [sep] init ++ sep :: last := by
  rw [← join_cut sep t, h, join_concat _ _ hinit]
  rfl

theorem sep_notMem_of_mem_cut {piece : Text} (h : piece ∈ cut sep t) : sep ∉ piece :=
  fun hsep => (mem_cut_iff.1 ⟨piece, h, hsep⟩).2 rfl

end Text

/-! ## Paths -/

namespace Path

/-- Every name of a path is one that reading keeps, and holds no slash. -/
def Proper (p : Path) : Prop := ∀ part ∈ p.parts, isName part = true ∧ '/' ∉ part

theorem proper_parse (t : Text) : (parse t).Proper := by
  intro part hpart
  obtain ⟨hcut, hname⟩ := List.mem_filter.1 hpart
  exact ⟨hname, Text.sep_notMem_of_mem_cut hcut⟩

theorem partsOf_append (a b : Text) : partsOf (a ++ '/' :: b) = partsOf a ++ partsOf b := by
  rw [partsOf, partsOf, partsOf, Text.cut_append, List.filter_append]

theorem partsOf_cons_slash (t : Text) : partsOf ('/' :: t) = partsOf t := by
  simp [partsOf, isName, Text.cut]

theorem partsOf_root_append (root : Root) (t : Text) : partsOf (root.render ++ t) = partsOf t := by
  cases root with
  | relative => rfl
  | slash => exact partsOf_cons_slash t
  | doubleSlash => exact (partsOf_cons_slash _).trans (partsOf_cons_slash t)

theorem cut_root_append {root : Root} (hroot : root ≠ .relative) (t : Text) :
    ∃ init, init ≠ [] ∧ Text.cut '/' (root.render ++ t) = init ++ Text.cut '/' t := by
  cases root with
  | relative => exact absurd rfl hroot
  | slash => exact ⟨[[]], by simp, Text.cut_append '/' [] t⟩
  | doubleSlash => exact ⟨[[], []], by simp, Text.cut_append '/' ['/'] t⟩

/-- The slashes in front of a text are all that its root depends on. -/
theorem rootOf_root_append (root : Root) {t : Text} (h : t.head? ≠ some '/') :
    rootOf (root.render ++ t) = root := by
  cases t with
  | nil => cases root <;> rfl
  | cons c rest =>
    have hc : c ≠ '/' := by simpa using h
    cases root <;> simp [Root.render, rootOf, hc]

theorem head?_join_ne_slash {parts : List Text}
    (h : ∀ part ∈ parts, isName part = true ∧ '/' ∉ part) :
    (Text.join ['/'] parts).head? ≠ some '/' := by
  cases parts with
  | nil => simp [Text.join]
  | cons part rest =>
    obtain ⟨hname, hslash⟩ := h part List.mem_cons_self
    have hne : part ≠ [] := by
      rintro rfl
      exact absurd hname (by decide)
    obtain ⟨c, cs, rfl⟩ := List.exists_cons_of_ne_nil hne
    have hc : c ≠ '/' := by
      rintro rfl
      exact hslash List.mem_cons_self
    by_cases hrest : rest = []
    · simpa [hrest, Text.join] using hc
    · simpa [Text.join_cons _ _ hrest] using hc

theorem partsOf_join {parts : List Text} (h : ∀ part ∈ parts, isName part = true ∧ '/' ∉ part) :
    partsOf (Text.join ['/'] parts) = parts := by
  by_cases hne : parts = []
  · rw [hne]
    rfl
  · rw [partsOf, Text.cut_join hne fun part hpart => (h part hpart).2]
    exact List.filter_eq_self.2 fun part hpart => (h part hpart).1

/-- Reading what is written for a path gives the path. -/
theorem parse_render {p : Path} (h : p.Proper) : parse p.render = p := by
  unfold render
  split
  · rename_i hp
    rw [hp]
    decide
  · rw [parse, rootOf_root_append _ (head?_join_ne_slash h), partsOf_root_append, partsOf_join h]

theorem proper_join {base p : Path} (hbase : base.Proper) (hp : p.Proper) :
    (base.join p).Proper := by
  unfold join
  split
  · exact hp
  · intro part hpart
    rcases List.mem_append.1 hpart with h | h
    · exact hbase part h
    · exact hp part h

theorem isAbsolute_iff {p : Path} : p.isAbsolute = true ↔ p.root ≠ .relative := by
  simp [isAbsolute]

theorem render_of_isAbsolute {p : Path} (h : p.isAbsolute = true) :
    p.render = p.root.render ++ Text.join ['/'] p.parts := by
  unfold render
  rw [if_neg]
  rintro rfl
  exact absurd h (by decide)

theorem isAbsolute_parse_iff {t : Text} : (parse t).isAbsolute = true ↔ t.head? = some '/' := by
  rw [isAbsolute_iff]
  rcases t with _ | ⟨c, _ | ⟨d, _ | ⟨e, rest⟩⟩⟩
  · decide
  · by_cases hc : c = '/' <;> simp [parse, rootOf, hc]
  · by_cases hc : c = '/' <;> by_cases hd : d = '/' <;> simp [parse, rootOf, hc, hd]
  · by_cases hc : c = '/' <;> by_cases hd : d = '/' <;> by_cases he : e = '/' <;>
      simp [parse, rootOf, hc, hd, he]

/-- What stands behind the last slash of a text has no part in its root. -/
theorem rootOf_append (a : Text) {g : Text} (hg : '/' ∉ g) :
    rootOf (a ++ '/' :: g) = rootOf (a ++ ['/']) := by
  have hhead : ∀ rest, g ≠ '/' :: rest := by
    rintro rest rfl
    exact hg List.mem_cons_self
  rcases a with _ | ⟨c, _ | ⟨d, _ | ⟨e, rest⟩⟩⟩
  · cases g <;> simp_all [rootOf]
  · by_cases hc : c = '/' <;> cases g <;> simp_all [rootOf]
  · by_cases hc : c = '/' <;> by_cases hd : d = '/' <;> simp_all [rootOf]
  · by_cases hc : c = '/' <;> by_cases hd : d = '/' <;> by_cases he : e = '/' <;> simp_all [rootOf]

/-- A text is read as its directory with the name behind the last slash below it. -/
theorem parse_append (a : Text) {g : Text} (hg : '/' ∉ g) :
    parse (a ++ '/' :: g) =
      ⟨(parse (a ++ ['/'])).root, (parse (a ++ ['/'])).parts ++ partsOf g⟩ := by
  have hdir : partsOf (a ++ ['/']) = partsOf a := by
    rw [partsOf_append, show partsOf [] = [] by decide, List.append_nil]
  rw [parse, parse, rootOf_append a hg, partsOf_append, hdir]

end Path

end Pinpoint
