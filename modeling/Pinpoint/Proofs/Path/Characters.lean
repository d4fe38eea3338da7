import Mathlib.Data.List.Basic
import Pinpoint.Path

/-!
# The characters of a path

Reading a path and writing it back adds and drops only slashes and dots. Every other
character of a written path is one of its names:

* `mem_cut_iff`, `mem_join_iff`: the characters of pieces, cut and joined.
* `Path.mem_render_iff`: the characters of a written path.
* `Path.mem_of_mem_parse`: the names of a path are taken from the text it is read from.
-/

namespace Pinpoint

/-! ## Pieces -/

namespace Text

variable {c sep : Char} {t : Text}

theorem mem_join_iff {sep : Text} {pieces : List Text} (hsep : c ∉ sep) :
    c ∈ join sep pieces ↔ ∃ piece ∈ pieces, c ∈ piece := by
  unfold join
  induction pieces with
  | nil => simp
  | cons piece pieces ih =>
    cases pieces with
    | nil => simp
    | cons next rest =>
      rw [List.intercalate_cons_cons, List.mem_append, List.mem_append, ih]
      simp [hsep]

/-- The pieces of a text hold its characters, without the separators. -/
theorem mem_cut_iff : (∃ piece ∈ cut sep t, c ∈ piece) ↔ c ∈ t ∧ c ≠ sep := by
  induction t with
  | nil => simp [cut]
  | cons a rest ih =>
    unfold cut
    split
    · rename_i ha
      rw [List.exists_mem_cons_iff, ih]
      simp only [List.not_mem_nil, false_or, List.mem_cons]
      constructor
      · rintro ⟨hc, hne⟩
        exact ⟨.inr hc, hne⟩
      · rintro ⟨hc | hc, hne⟩
        · exact absurd (hc.trans ha) hne
        · exact ⟨hc, hne⟩
    · rename_i ha
      split
      · rename_i hnil
        exact absurd hnil (cut_ne_nil sep rest)
      · rename_i piece pieces hcut
        rw [hcut] at ih
        rw [List.exists_mem_cons_iff] at ih ⊢
        rw [List.mem_cons, List.mem_cons, or_assoc, ih]
        constructor
        · rintro (rfl | ⟨hc, hne⟩)
          · exact ⟨.inl rfl, ha⟩
          · exact ⟨.inr hc, hne⟩
        · rintro ⟨hc | hc, hne⟩
          · exact .inl hc
          · exact .inr ⟨hc, hne⟩

end Text

/-! ## Paths -/

namespace Path

variable {c : Char} {p : Path}

theorem notMem_root_render (root : Root) (hslash : c ≠ '/') : c ∉ root.render := by
  cases root <;> simp [Root.render, hslash]

/-- A written path holds the characters of its names, and besides them only slashes, or the dot of
    the empty relative path. -/
theorem mem_render_iff (hslash : c ≠ '/') (hdot : c ≠ '.') :
    c ∈ p.render ↔ ∃ part ∈ p.parts, c ∈ part := by
  unfold render
  split
  · rename_i h
    simp [h, here, hdot]
  · rw [List.mem_append, Text.mem_join_iff (by simp [hslash])]
    constructor
    · rintro (h | h)
      · exact absurd h (notMem_root_render p.root hslash)
      · exact h
    · exact .inr

theorem mem_of_mem_parse {t part : Text} (hpart : part ∈ (parse t).parts) (hc : c ∈ part) :
    c ∈ t :=
  (Text.mem_cut_iff.1 ⟨part, (List.mem_filter.1 hpart).1, hc⟩).1

/-- Reading a path loses only slashes and dots. -/
theorem exists_mem_parse {t : Text} (hslash : c ≠ '/') (hdot : c ≠ '.') (h : c ∈ t) :
    ∃ part ∈ (parse t).parts, c ∈ part := by
  obtain ⟨piece, hpiece, hc⟩ := Text.mem_cut_iff.2 ⟨h, hslash⟩
  refine ⟨piece, List.mem_filter.2 ⟨hpiece, ?_⟩, hc⟩
  have hne : piece ≠ [] := List.ne_nil_of_mem hc
  have hne' : piece ≠ ['.'] := by
    rintro rfl
    exact hdot (List.mem_singleton.1 hc)
  simp [isName, hne, hne']

end Path

end Pinpoint
