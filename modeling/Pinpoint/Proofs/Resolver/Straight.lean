import Pinpoint.Proofs.Resolver.Readings

/-!
# The straight search

Between the readings as `path:LINE:COLUMN` and as `path:LINE` the search folds the
line group back into the path and tries the column as a line. The straight search
leaves that step out. It comes to the same: whatever the fold probes, the reading
as `path:LINE` probes too, for the same line.

* `LineColumnRun`, `lineColumnRun`: everything that the reading as
  `path:LINE:COLUMN` can come to.
* `run_tryCollapsed_resume`: to fold and then to go on is to go on at once.
* `run_resolve_eq_straight`: both resolvers come to the same, with the same failure
  or crash where there is one.
-/

namespace Pinpoint

/-! ## The search that folds nothing back -/

namespace Straight

/-- Tries `path:LINE:COLUMN`, and nothing in its place. -/
def tryLineColumn (t : Text) (m : LineColumn) (pending : Pending) : Inquiry Trial := do
  let line ← readNumber m.line
  let column ← readNumber m.column
  match line, column with
  | .ok l, .ok c => tryPosition t m.path ⟨l, c⟩ pending
  | .error lineFault, .ok _ => return .continued (pending.addParse (.ofLine t m.line lineFault))
  | .ok _, .error columnFault =>
    return .continued (pending.addParse (.ofColumn t m.column columnFault))
  | .error lineFault, .error columnFault =>
    return .continued
      (pending.addParse (.ofLineAndColumn t m.line m.column lineFault columnFault))

/-- Searches for a reading as `path:LINE:COLUMN`, if the text has one. -/
def searchLineColumn (t : Text) : Inquiry Trial :=
  match lineColumn? t with
  | some m => tryLineColumn t m {}
  | none => .answer (.continued {})

/-- Searches for a reading as `path:LINE:COLUMN`, then for one as `path:LINE`. -/
def resolveSuffix (t : Text) : Inquiry (Except Failure Specifier) := do
  (← searchLineColumn t).resume t

/-- Resolves an argument that has been made absolute. -/
def resolveAbsolute (t : Text) : Inquiry (Except Failure Specifier) := do
  match ← probe t with
  | .file p => return .ok (.file p none)
  | .directory p => return .ok (.directory p)
  | _ => resolveSuffix t

/-- Resolves one argument. -/
def resolve (ctx : Context) (arg : Text) : Inquiry (Except Failure Specifier) :=
  if arg = [] then .answer (.error { kind := .emptyArgument, argument := arg })
  else if Text.nul ∈ arg then
    .answer (.error
      { kind := .invalidPath, argument := arg, cause := some "embedded null character".toList })
  else resolveAbsolute (ctx.absolutize arg)

end Straight

variable {fs : FileSystem} {t : Text}

/-! ## The reading as `path:LINE:COLUMN` -/

/-- The failure for two groups that are not both numbers: it names the ones that are none. -/
inductive GroupFailure (t l c : Text) : Failure → Prop
  | line (hl : ¬ IsUnsigned l) (hc : IsUnsigned c) :
    GroupFailure t l c
      { kind := .invalidLine, argument := t
        fragment := some l, cause := some (NumberFault.ofText l).message }
  | column (hl : IsUnsigned l) (hc : ¬ IsUnsigned c) :
    GroupFailure t l c
      { kind := .invalidColumn, argument := t
        fragment := some c, cause := some (NumberFault.ofText c).message }
  | both (hl : ¬ IsUnsigned l) (hc : ¬ IsUnsigned c) :
    GroupFailure t l c
      { kind := .invalidLineAndColumn, argument := t
        fragment := some l, cause := some (NumberFault.ofText l).message
        columnFragment := some c, columnCause := some (NumberFault.ofText c).message }

/-- Everything that the reading as `path:LINE:COLUMN` can come to. -/
inductive LineColumnRun (fs : FileSystem) (t : Text) : Except Crash Trial → Prop
  | absent (h : ∀ p l c, t = p ++ ':' :: l ++ ':' :: c → p ≠ [] → IsGroup l → ¬ IsGroup c) :
    LineColumnRun fs t (.ok (.continued {}))
  | probed {p l c : Text} {r : Probe} (ht : t = p ++ ':' :: l ++ ':' :: c) (hp : p ≠ [])
      (hl : IsNumber l) (hc : IsNumber c) (hr : fs.Finds p r) :
    LineColumnRun fs t (.ok (.ofProbe t p ⟨Decimal.value l, Decimal.value c⟩ {} r))
  | unanswered {p l c : Text} (ht : t = p ++ ':' :: l ++ ':' :: c) (hp : p ≠ [])
      (hl : IsNumber l) (hc : IsNumber c) (hr : ¬ fs.Answers p) :
    LineColumnRun fs t (.error .nulCharacter)
  | refused {p l c : Text} {f : Failure} (ht : t = p ++ ':' :: l ++ ':' :: c) (hp : p ≠ [])
      (hl : IsGroup l) (hc : IsGroup c) (hf : GroupFailure t l c f) :
    LineColumnRun fs t (.ok (.continued { parse := some f }))
  | overlongLine {p l c : Text} (ht : t = p ++ ':' :: l ++ ':' :: c) (hp : p ≠ [])
      (hl : IsOverlong l) (hc : IsGroup c) :
    LineColumnRun fs t (.error (.digitLimit l.length))
  | overlongColumn {p l c : Text} (ht : t = p ++ ':' :: l ++ ':' :: c) (hp : p ≠ [])
      (hl : IsGroup l) (hlo : ¬ IsOverlong l) (hc : IsOverlong c) :
    LineColumnRun fs t (.error (.digitLimit c.length))

namespace Straight

theorem run_searchLineColumn_of_isNumber (fs : FileSystem) {m : LineColumn}
    (h : lineColumn? t = some m) (hl : IsNumber m.line) (hc : IsNumber m.column) :
    (searchLineColumn t).run fs =
      (tryPosition t m.path ⟨Decimal.value m.line, Decimal.value m.column⟩ {}).run fs := by
  rw [searchLineColumn, h]
  refine (Inquiry.run_bind_of_ok (run_readNumber_of_isNumber fs hl)).trans ?_
  exact Inquiry.run_bind_of_ok (run_readNumber_of_isNumber fs hc)

theorem run_searchLineColumn_of_line_isOverlong (fs : FileSystem) {m : LineColumn}
    (h : lineColumn? t = some m) (hl : IsOverlong m.line) :
    (searchLineColumn t).run fs = .error (.digitLimit m.line.length) := by
  rw [searchLineColumn, h]
  exact Inquiry.run_bind_of_error (run_readNumber_of_isOverlong fs hl)

theorem run_searchLineColumn_of_column_isOverlong (fs : FileSystem) {m : LineColumn}
    (h : lineColumn? t = some m) (hl : ¬ IsOverlong m.line) (hc : IsOverlong m.column) :
    (searchLineColumn t).run fs = .error (.digitLimit m.column.length) := by
  rw [searchLineColumn, h]
  have hcolumn := run_readNumber_of_isOverlong fs hc
  by_cases hn : IsNumber m.line
  · refine (Inquiry.run_bind_of_ok (run_readNumber_of_isNumber fs hn)).trans ?_
    exact Inquiry.run_bind_of_error hcolumn
  · refine (Inquiry.run_bind_of_ok (run_readNumber_of_not fs hn hl)).trans ?_
    exact Inquiry.run_bind_of_error hcolumn

/-- Groups that are short enough, but not both numbers, are remembered as one failure. -/
theorem run_searchLineColumn_of_not (fs : FileSystem) {m : LineColumn}
    (h : lineColumn? t = some m) (hlo : ¬ IsOverlong m.line) (hco : ¬ IsOverlong m.column)
    (hn : ¬ (IsNumber m.line ∧ IsNumber m.column)) :
    ∃ f, GroupFailure t m.line m.column f ∧
      (searchLineColumn t).run fs = .ok (.continued { parse := some f }) := by
  have hline := isUnsigned_iff_isNumber hlo
  have hcolumn := isUnsigned_iff_isNumber hco
  rw [searchLineColumn, h]
  by_cases hl : IsNumber m.line
  · have hc : ¬ IsNumber m.column := fun hc => hn ⟨hl, hc⟩
    refine ⟨_, .column (hline.2 hl) (hcolumn.not.2 hc), ?_⟩
    refine (Inquiry.run_bind_of_ok (run_readNumber_of_isNumber fs hl)).trans ?_
    exact Inquiry.run_bind_of_ok (run_readNumber_of_not fs hc hco)
  · by_cases hc : IsNumber m.column
    · refine ⟨_, .line (hline.not.2 hl) (hcolumn.2 hc), ?_⟩
      refine (Inquiry.run_bind_of_ok (run_readNumber_of_not fs hl hlo)).trans ?_
      exact Inquiry.run_bind_of_ok (run_readNumber_of_isNumber fs hc)
    · refine ⟨_, .both (hline.not.2 hl) (hcolumn.not.2 hc), ?_⟩
      refine (Inquiry.run_bind_of_ok (run_readNumber_of_not fs hl hlo)).trans ?_
      exact Inquiry.run_bind_of_ok (run_readNumber_of_not fs hc hco)

theorem lineColumnRun (fs : FileSystem) (t : Text) :
    LineColumnRun fs t ((searchLineColumn t).run fs) := by
  cases h : lineColumn? t with
  | none =>
    rw [searchLineColumn, h]
    exact .absent (lineColumn?_eq_none_iff.1 h)
  | some m =>
    obtain ⟨p, l, c, ht, hp, hl, hc, rfl⟩ := lineColumn?_eq_some_iff.1 h
    by_cases hlo : IsOverlong l
    · rw [run_searchLineColumn_of_line_isOverlong fs h hlo]
      exact .overlongLine ht hp hlo hc
    by_cases hco : IsOverlong c
    · rw [run_searchLineColumn_of_column_isOverlong fs h hlo hco]
      exact .overlongColumn ht hp hl hlo hco
    by_cases hn : IsNumber l ∧ IsNumber c
    · rw [run_searchLineColumn_of_isNumber fs h hn.1 hn.2]
      by_cases ha : fs.Answers p
      · obtain ⟨r, hr⟩ := ha
        rw [run_tryPosition hr]
        exact .probed ht hp hn.1 hn.2 hr
      · rw [run_tryPosition_of_not_answers ha]
        exact .unanswered ht hp hn.1 hn.2 ha
    · obtain ⟨f, hf, hrun⟩ := run_searchLineColumn_of_not fs h hlo hco hn
      rw [hrun]
      exact .refused ht hp hl hc hf

end Straight

/-! ## The second reading after the first -/

theorem resume_settled (t : Text) (result : Except Failure Specifier) :
    Trial.resume t (.settled result) = .answer result := rfl

theorem resume_continued (t : Text) (pending : Pending) :
    Trial.resume t (.continued pending) =
      (searchLineOnly t pending).bind fun second => .answer (second.finish t) := rfl

theorem run_straight_resolveSuffix_of_settled {result : Except Failure Specifier}
    (h : (Straight.searchLineColumn t).run fs = .ok (.settled result)) :
    (Straight.resolveSuffix t).run fs = .ok result := by
  rw [Straight.resolveSuffix, Inquiry.bind_eq, Inquiry.run_bind_of_ok h, resume_settled,
    Inquiry.run_answer]

theorem run_straight_resolveSuffix_of_continued {pending : Pending} {trial : Trial}
    (hfirst : (Straight.searchLineColumn t).run fs = .ok (.continued pending))
    (hsecond : (searchLineOnly t pending).run fs = .ok trial) :
    (Straight.resolveSuffix t).run fs = .ok (trial.finish t) := by
  rw [Straight.resolveSuffix, Inquiry.bind_eq, Inquiry.run_bind_of_ok hfirst, resume_continued,
    Inquiry.run_bind_of_ok hsecond, Inquiry.run_answer]

/-! ## Folding the line group back -/

/-- What trying a folded path comes to, by what probing it finds. -/
def Trial.ofFolded (line : Nat) (pending : Pending) : Probe → Trial
  | .file p => .settled (.ok (.file p (some ⟨line, 1⟩)))
  | _ => .continued pending

theorem run_tryCollapsed {m : LineColumn} {r : Probe} (h : fs.Finds m.collapsedPath r) (line : Nat)
    (pending : Pending) :
    (tryCollapsed m line pending).run fs = .ok (.ofFolded line pending r) := by
  rw [tryCollapsed, Inquiry.bind_eq, Inquiry.run_bind_of_ok h]
  cases r <;> rfl

/-- To fold the line group back and then to go on comes to the same as to go on at once: the reading
    as `path:LINE` probes the same path for the same line. -/
theorem run_tryCollapsed_resume {m : LineColumn} (h : lineColumn? t = some m)
    (hc : IsNumber m.column) (pending : Pending) :
    ((tryCollapsed m (Decimal.value m.column) pending).bind (Trial.resume t)).run fs =
      (Trial.resume t (.continued pending)).run fs := by
  have hline := run_searchLineOnly_of_isNumber fs (lineOnly?_of_lineColumn? h hc.digits) hc pending
  rw [resume_continued]
  by_cases ha : fs.Answers m.collapsedPath
  · obtain ⟨r, hr⟩ := ha
    rw [run_tryPosition hr] at hline
    rw [Inquiry.run_bind_of_ok (run_tryCollapsed hr _ pending)]
    cases r with
    | file p => rw [Inquiry.run_bind_of_ok hline]; rfl
    | directory p => rfl
    | other p => rfl
    | missing => rfl
    | error e => rfl
  · rw [run_tryPosition_of_not_answers ha] at hline
    have hfold : (tryCollapsed m (Decimal.value m.column) pending).run fs = .error .nulCharacter :=
      Inquiry.run_bind_of_error (FileSystem.run_probe_of_not_answers ha)
    rw [Inquiry.run_bind_of_error hfold, Inquiry.run_bind_of_error hline]

/-- The two searches differ only where the column is a number, and there only by a fold. -/
theorem run_resolveSuffix (fs : FileSystem) (t : Text) :
    (resolveSuffix t).run fs = (Straight.resolveSuffix t).run fs := by
  unfold resolveSuffix Straight.resolveSuffix searchLineColumn Straight.searchLineColumn
  cases h : lineColumn? t with
  | none => rfl
  | some m =>
    simp only [tryLineColumn, Straight.tryLineColumn, Inquiry.bind_eq, Inquiry.bind_assoc]
    refine Inquiry.run_bind_congr fun line _ => ?_
    refine Inquiry.run_bind_congr fun column hcolumn => ?_
    rcases column with columnFault | c
    · cases line <;> rfl
    · obtain ⟨hc, rfl⟩ := isNumber_of_run_readNumber hcolumn
      rcases line with lineFault | l
      · exact run_tryCollapsed_resume h hc _
      · dsimp only
        rw [Inquiry.bind_assoc]
        refine Inquiry.run_bind_congr fun trial _ => ?_
        cases trial with
        | settled result => rfl
        | continued pending => exact run_tryCollapsed_resume h hc pending

/-! ## The whole resolver -/

/-- The specifier that a finding gives without a position. -/
def Probe.specifier? : Probe → Option Specifier
  | file p => some (.file p none)
  | directory p => some (.directory p)
  | _ => none

theorem run_resolveAbsolute_of_some {r : Probe} {s : Specifier} (h : fs.Finds t r)
    (hs : r.specifier? = some s) : (resolveAbsolute t).run fs = .ok (.ok s) := by
  rw [resolveAbsolute, Inquiry.bind_eq, Inquiry.run_bind_of_ok h]
  cases r <;> simp_all [Probe.specifier?]

theorem run_resolveAbsolute_of_none {r : Probe} (h : fs.Finds t r) (hs : r.specifier? = none) :
    (resolveAbsolute t).run fs = (Straight.resolveSuffix t).run fs := by
  rw [resolveAbsolute, Inquiry.bind_eq, Inquiry.run_bind_of_ok h, ← run_resolveSuffix]
  cases r <;> simp_all [Probe.specifier?]

theorem run_resolveAbsolute_of_not_answers (h : ¬ fs.Answers t) :
    (resolveAbsolute t).run fs = .error .nulCharacter := by
  rw [resolveAbsolute, Inquiry.bind_eq,
    Inquiry.run_bind_of_error (FileSystem.run_probe_of_not_answers h)]

theorem resolve_of_ne_nil {arg : Text} (ctx : Context) (h : arg ≠ []) (hnul : Text.nul ∉ arg) :
    resolve ctx arg = resolveAbsolute (ctx.absolutize arg) := by
  rw [resolve, if_neg h, if_neg hnul]

theorem absolutize_of_isAbsolute {arg : Text} (ctx : Context)
    (h : (Path.parse arg).isAbsolute = true) : ctx.absolutize arg = arg := by
  unfold Context.absolutize
  exact if_pos h

theorem resolve_of_isAbsolute {arg : Text} (ctx : Context)
    (h : (Path.parse arg).isAbsolute = true) (hnul : Text.nul ∉ arg) :
    resolve ctx arg = resolveAbsolute arg := by
  have hne : arg ≠ [] := by
    rintro rfl
    exact absurd h (by decide)
  rw [resolve_of_ne_nil ctx hne hnul, absolutize_of_isAbsolute ctx h]

/-- **The fold is subsumed.** The resolver that folds the line group back into the path and the one
    that does not come to the same, for every file system, context and argument: to the same
    specifier, the same failure or the same crash. -/
theorem run_resolve_eq_straight (fs : FileSystem) (ctx : Context) (arg : Text) :
    (resolve ctx arg).run fs = (Straight.resolve ctx arg).run fs := by
  unfold resolve Straight.resolve
  split_ifs with hempty hnul
  · rfl
  · rfl
  · unfold resolveAbsolute Straight.resolveAbsolute
    refine Inquiry.run_bind_congr fun r _ => ?_
    cases r with
    | file p => rfl
    | directory p => rfl
    | other p => exact run_resolveSuffix fs _
    | missing => exact run_resolveSuffix fs _
    | error e => exact run_resolveSuffix fs _

end Pinpoint
