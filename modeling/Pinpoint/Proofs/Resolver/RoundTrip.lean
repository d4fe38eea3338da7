import Pinpoint.Proofs.Path.Reading
import Pinpoint.Proofs.Resolver.Denotation

/-!
# Targets lead back

The target of a specifier is the text that an editor gets. Resolving it gives the
specifier again, wherever its path is still found under its own name and nothing has
the name of the whole target.

* `Denotes.position_eq`: the numbers of a position fit in 64 bits.
* `run_resolve_target`: resolving the target of a specifier gives the specifier.
-/

namespace Pinpoint

variable {fs : FileSystem} {ctx : Context} {t : Text} {s : Specifier}

/-- What a probe finds that names a specifier. -/
def Specifier.finding : Specifier → Probe
  | .file p _ => .file p
  | .directory p => .directory p

/-- The path of a specifier was found by a probe, and is of its kind. -/
theorem Denotes.exists_finds (h : Denotes fs t s) : ∃ candidate, fs.Finds candidate s.finding := by
  cases h with
  | file h => exact ⟨_, h⟩
  | directory h => exact ⟨_, h⟩
  | position _ _ _ _ _ _ hpath => exact ⟨_, hpath⟩
  | line _ _ _ _ _ hpath _ => exact ⟨_, hpath⟩

/-! ## Positions -/

/-- The numbers of a position were read from a text, so they fit in 64 bits. -/
theorem Denotes.position_eq {pos : Position} (h : Denotes fs t s) (hpos : s.position = some pos) :
    ∃ l c : Nat, l ≤ maxNumber ∧ c ≤ maxNumber ∧ pos = ⟨l, c⟩ := by
  cases h with
  | file h => cases hpos
  | directory h => cases hpos
  | @position _ _ l c _ _ _ _ _ hl hc _ =>
    cases hpos
    exact ⟨_, _, hl.value_le, hc.value_le, rfl⟩
  | @line _ _ n _ _ _ _ _ hn _ _ =>
    cases hpos
    exact ⟨_, 1, hn.value_le, by decide, rfl⟩

theorem target_of_position_none (h : s.position = none) : s.target = s.path.render := by
  rw [Specifier.target, h]

theorem specifier?_finding (h : s.position = none) : s.finding.specifier? = some s := by
  cases s with
  | directory path => rfl
  | file path position =>
    cases h
    rfl

theorem target_of_position {path : Path} {l c : Nat} :
    (Specifier.file path (some ⟨l, c⟩)).target =
      path.render ++ ':' :: Text.ofNat l ++ ':' :: Text.ofNat c := by
  rw [List.append_assoc]
  rfl

theorem nul_notMem_of_isDigits {n : Text} (h : IsDigits n) : Text.nul ∉ n := by
  intro hnul
  exact absurd (h.2 _ hnul) (by decide)

theorem isAbsolute_parse_append {a b : Text} (h : (Path.parse a).isAbsolute = true) :
    (Path.parse (a ++ b)).isAbsolute = true := by
  rw [Path.isAbsolute_parse_iff] at h ⊢
  rw [List.head?_append, h, Option.some_or]

/-! ## Round trip -/

/-- A path in front of two numbers that are written out resolves to the file at that position. -/
theorem run_resolve_position_target {path : Path} {l c : Nat}
    (habs : (Path.parse path.render).isAbsolute = true) (hnul : Text.nul ∉ path.render)
    (hl : l ≤ maxNumber) (hc : c ≤ maxNumber) (hpath : fs.Finds path.render (.file path))
    {r : Probe} (hr : fs.Finds (Specifier.file path (some ⟨l, c⟩)).target r)
    (hs : r.specifier? = none) :
    (resolve ctx (Specifier.file path (some ⟨l, c⟩)).target).run fs =
      .ok (.ok (.file path (some ⟨l, c⟩))) := by
  have hln := isNumber_ofNat hl
  have hcn := isNumber_ofNat hc
  have hne : path.render ≠ [] := by
    intro hnil
    rw [hnil] at habs
    exact absurd habs (by decide)
  rw [target_of_position] at hr ⊢
  have hnul' : Text.nul ∉ path.render ++ ':' :: Text.ofNat l ++ ':' :: Text.ofNat c := by
    have hlnul := nul_notMem_of_isDigits hln.digits
    have hcnul := nul_notMem_of_isDigits hcn.digits
    have hcolon : Text.nul ≠ ':' := by decide
    simp [hnul, hlnul, hcnul, hcolon]
  have habs' := isAbsolute_parse_append (b := ':' :: Text.ofNat l ++ ':' :: Text.ofNat c) habs
  rw [← List.append_assoc] at habs'
  rw [resolve_of_isAbsolute ctx habs' hnul', run_resolveAbsolute_of_none hr hs,
    run_straight_resolveSuffix_ok_iff]
  refine .inl (run_searchLineColumn_settled_ok_iff.2 ⟨_, _, _, path, rfl, hne, hln, hcn, hpath, ?_⟩)
  rw [value_ofNat, value_ofNat]

/-- **Round trip.** Resolving the target of a specifier gives the specifier, with the same line and
    column, if its path is found again under its own name and, for one with a position, a probe of
    the target finds neither a file nor a directory. The path may hold colons and digits. -/
theorem run_resolve_target {fs : FileSystem} {ctx : Context} {arg : Text} {s : Specifier}
    (h : (resolve ctx arg).run fs = .ok (.ok s))
    (habs : (Path.parse s.path.render).isAbsolute = true) (hnul : Text.nul ∉ s.path.render)
    (hpath : fs.Finds s.path.render s.finding)
    (htarget : s.position ≠ none → ∃ r, fs.Finds s.target r ∧ r.specifier? = none) :
    (resolve ctx s.target).run fs = .ok (.ok s) := by
  cases hpos : s.position with
  | none =>
    rw [target_of_position_none hpos, resolve_of_isAbsolute ctx habs hnul]
    exact run_resolveAbsolute_of_some hpath (specifier?_finding hpos)
  | some pos =>
    obtain ⟨l, c, hl, hc, rfl⟩ := (denotes_of_run_resolve h).position_eq hpos
    obtain ⟨r, hr, hs⟩ := htarget (by simp [hpos])
    cases s with
    | directory path => cases hpos
    | file path position =>
      cases hpos
      exact run_resolve_position_target habs hnul hl hc hpath hr hs

/-- A file whose own name ends in a number, at a line with zeros in front. -/
theorem target_of_numbered_file_leads_back :
    let fs := (Table.addEntry "/work/a:1" .file {}).toFileSystem
    let ctx : Context := ⟨⟨.slash, ["work"]⟩⟩
    let s : Specifier := .file ⟨.slash, ["work", "a:1"]⟩ (some ⟨7, 1⟩)
    (resolve ctx "a:1:007").run fs = .ok (.ok s) ∧
      (Path.parse s.path.render).isAbsolute = true ∧ Text.nul ∉ s.path.render ∧
      fs.Finds s.path.render s.finding ∧
      (s.position ≠ none → ∃ r, fs.Finds s.target r ∧ r.specifier? = none) ∧
      (resolve ctx s.target).run fs = .ok (.ok s) := by
  intro fs ctx s
  have hresolve : (resolve ctx "a:1:007").run fs = .ok (.ok s) := by decide
  have habs : (Path.parse s.path.render).isAbsolute = true := by decide
  have hnul : Text.nul ∉ s.path.render := by decide
  have hpath : fs.Finds s.path.render s.finding := by
    show (probe s.path.render).run fs = .ok s.finding
    decide
  have htarget : s.position ≠ none → ∃ r, fs.Finds s.target r ∧ r.specifier? = none := by
    intro _
    refine ⟨.missing, ?_, rfl⟩
    show (probe s.target).run fs = .ok .missing
    decide
  exact ⟨hresolve, habs, hnul, hpath, htarget,
    run_resolve_target hresolve habs hnul hpath htarget⟩

end Pinpoint
