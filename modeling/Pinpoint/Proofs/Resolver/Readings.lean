import Pinpoint.Proofs.FileSystem.Findings
import Pinpoint.Proofs.Suffix.Grammar
import Pinpoint.Resolver

/-!
# Trying a reading

What one reading of a text comes to on an unchanging file system is decided by its
groups, by what probing its path finds, and by the failures remembered so far.

* `run_tryPosition`: a path in front of a position, as a function of the finding.
* `LineRun`, `lineRun`: everything that the reading as `path:LINE` can come to.
-/

namespace Pinpoint

variable {fs : FileSystem} {t : Text}

/-! ## Fragments -/

theorem run_readNumber_of_isNumber (fs : FileSystem) {n : Text} (h : IsNumber n) :
    (readNumber n).run fs = .ok (.ok (Decimal.value n)) := by
  rw [readNumber, ofText_of_isNumber h]
  rfl

theorem run_readNumber_of_isOverlong (fs : FileSystem) {n : Text} (h : IsOverlong n) :
    (readNumber n).run fs = .error (.digitLimit n.length) := by
  rw [readNumber, ofText_of_isOverlong h]
  rfl

theorem run_readNumber_of_not (fs : FileSystem) {n : Text} (hn : ¬ IsNumber n)
    (ho : ¬ IsOverlong n) : (readNumber n).run fs = .ok (.error (.ofText n)) := by
  rw [readNumber, ofText_eq_refused hn ho]
  rfl

theorem isNumber_of_run_readNumber {n : Text} {k : Nat}
    (h : (readNumber n).run fs = .ok (.ok k)) : IsNumber n ∧ k = Decimal.value n := by
  unfold readNumber at h
  split at h
  · rename_i v hv
    obtain rfl : v = k := by simpa using h
    exact ofText_eq_number_iff.1 hv
  · simp at h
  · simp at h

/-! ## One position -/

/-- What trying a path in front of a position comes to, by what probing it finds. -/
def Trial.ofProbe (t path : Text) (pos : Position) (pending : Pending) : Probe → Trial
  | .file p => .settled (.ok (.file p (some pos)))
  | .directory _ => .settled (.error (.ofNotAFile t path))
  | .other _ => .settled (.error (.ofNotAFile t path))
  | .missing => .continued pending
  | .error e => .continued (pending.addIO (.ofOsError t path e))

theorem run_tryPosition {path : Text} {r : Probe} (h : fs.Finds path r) (pos : Position)
    (pending : Pending) :
    (tryPosition t path pos pending).run fs = .ok (.ofProbe t path pos pending r) := by
  rw [tryPosition, Inquiry.bind_eq, Inquiry.run_bind_of_ok h]
  cases r <;> rfl

theorem run_tryPosition_of_not_answers {path : Text} (h : ¬ fs.Answers path) (pos : Position)
    (pending : Pending) : (tryPosition t path pos pending).run fs = .error .nulCharacter := by
  rw [tryPosition, Inquiry.bind_eq,
    Inquiry.run_bind_of_error (FileSystem.run_probe_of_not_answers h)]

/-! ## The reading as `path:LINE` -/

theorem run_searchLineOnly_of_isNumber (fs : FileSystem) {m : LineOnly} (h : lineOnly? t = some m)
    (hn : IsNumber m.line) (pending : Pending) :
    (searchLineOnly t pending).run fs =
      (tryPosition t m.path ⟨Decimal.value m.line, 1⟩ pending).run fs := by
  rw [searchLineOnly, h]
  exact Inquiry.run_bind_of_ok (run_readNumber_of_isNumber fs hn)

theorem run_searchLineOnly_of_isOverlong (fs : FileSystem) {m : LineOnly} (h : lineOnly? t = some m)
    (ho : IsOverlong m.line) (pending : Pending) :
    (searchLineOnly t pending).run fs = .error (.digitLimit m.line.length) := by
  rw [searchLineOnly, h]
  exact Inquiry.run_bind_of_error (run_readNumber_of_isOverlong fs ho)

theorem run_searchLineOnly_of_not (fs : FileSystem) {m : LineOnly} (h : lineOnly? t = some m)
    (hn : ¬ IsNumber m.line) (ho : ¬ IsOverlong m.line) (pending : Pending) :
    (searchLineOnly t pending).run fs =
      .ok (.continued (pending.addParse (.ofLine t m.line (.ofText m.line)))) := by
  rw [searchLineOnly, h]
  exact Inquiry.run_bind_of_ok (run_readNumber_of_not fs hn ho)

/-- Everything that the reading as `path:LINE` can come to. -/
inductive LineRun (fs : FileSystem) (t : Text) (pending : Pending) : Except Crash Trial → Prop
  | absent (h : ∀ q n, t = q ++ ':' :: n → q ≠ [] → ¬ IsDigits n) :
    LineRun fs t pending (.ok (.continued pending))
  | probed {q n : Text} {r : Probe} (ht : t = q ++ ':' :: n) (hq : q ≠ []) (hn : IsNumber n)
      (hr : fs.Finds q r) :
    LineRun fs t pending (.ok (.ofProbe t q ⟨Decimal.value n, 1⟩ pending r))
  | unanswered {q n : Text} (ht : t = q ++ ':' :: n) (hq : q ≠ []) (hn : IsNumber n)
      (hr : ¬ fs.Answers q) :
    LineRun fs t pending (.error .nulCharacter)
  | refused {q n : Text} (ht : t = q ++ ':' :: n) (hq : q ≠ []) (hd : IsDigits n)
      (hn : ¬ IsNumber n) (ho : ¬ IsOverlong n) :
    LineRun fs t pending (.ok (.continued (pending.addParse (.ofLine t n (.ofText n)))))
  | overlong {q n : Text} (ht : t = q ++ ':' :: n) (hq : q ≠ []) (ho : IsOverlong n) :
    LineRun fs t pending (.error (.digitLimit n.length))

theorem lineRun (fs : FileSystem) (t : Text) (pending : Pending) :
    LineRun fs t pending ((searchLineOnly t pending).run fs) := by
  cases h : lineOnly? t with
  | none =>
    rw [searchLineOnly, h]
    exact .absent (lineOnly?_eq_none_iff.1 h)
  | some m =>
    obtain ⟨q, n, ht, hq, hd, rfl⟩ := lineOnly?_eq_some_iff.1 h
    by_cases hn : IsNumber n
    · rw [run_searchLineOnly_of_isNumber fs h hn]
      by_cases ha : fs.Answers q
      · obtain ⟨r, hr⟩ := ha
        rw [run_tryPosition hr]
        exact .probed ht hq hn hr
      · rw [run_tryPosition_of_not_answers ha]
        exact .unanswered ht hq hn ha
    · by_cases ho : IsOverlong n
      · rw [run_searchLineOnly_of_isOverlong fs h ho]
        exact .overlong ht hq ho
      · rw [run_searchLineOnly_of_not fs h hn ho]
        exact .refused ht hq hd hn ho

end Pinpoint
