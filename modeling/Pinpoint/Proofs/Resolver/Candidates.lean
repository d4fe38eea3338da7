import Pinpoint.Proofs.FileSystem.Probing
import Pinpoint.Proofs.Resolver.Straight

/-!
# Candidates

Resolving asks for the canonical form of few paths: of the text that it starts from, and
of what stands in front of one or two numbers at the end of that text.

* `Candidate`: a path in front of a line, or of a line and a column.
* `probing_resolveSuffix`: a search for a suffix probes candidates, at most three of them.
* `mem_calls_resolve`: what resolving asks for.
-/

namespace Pinpoint

/-! ## Specification -/

/-- A path that stands in front of numbers at the end of a text. -/
inductive Candidate (t : Text) : Text → Prop
  | position {p l c : Text} (ht : t = p ++ ':' :: l ++ ':' :: c) (hp : p ≠ []) (hl : IsNumber l)
      (hc : IsNumber c) : Candidate t p
  | line {q n : Text} (ht : t = q ++ ':' :: n) (hq : q ≠ []) (hn : IsNumber n) : Candidate t q

/-! ## What a search probes -/

section Probing

open Inquiry (Probing)

variable {α : Type} {t path : Text} {pending : Pending} {P : Text → Prop} {n : Nat}

/-- Reading a number asks for nothing. -/
theorem probing_readNumber_bind {l : Text} {f : Except NumberFault Nat → Inquiry α}
    (hnumber : IsNumber l → Probing P n (f (.ok (Decimal.value l))))
    (hfault : ∀ fault, Probing P n (f (.error fault))) : Probing P n ((readNumber l).bind f) := by
  unfold readNumber
  split
  · next k hk =>
    obtain ⟨hl, rfl⟩ := ofText_eq_number_iff.1 hk
    exact hnumber hl
  · next fault _ => exact hfault fault
  · next digits _ => exact .crash n (.digitLimit digits)

theorem probing_tryPosition (hpath : P path) (pos : Position) :
    Probing P 1 (tryPosition t path pos pending) := by
  refine .probe hpath fun r => ?_
  cases r <;> exact .answer 0 _

theorem probing_tryCollapsed {m : LineColumn} (hpath : P m.collapsedPath) (line : Nat) :
    Probing P 1 (tryCollapsed m line pending) := by
  refine .probe hpath fun r => ?_
  cases r <;> exact .answer 0 _

/-- A folded path stands in front of the column, which is read as a line then. -/
theorem candidate_collapsedPath {m : LineColumn} (h : lineColumn? t = some m)
    (hc : IsNumber m.column) : Candidate t m.collapsedPath := by
  obtain ⟨q, n, ht, hq, -, hm⟩ := lineOnly?_eq_some_iff.1 (lineOnly?_of_lineColumn? h hc.digits)
  cases hm
  exact .line ht hq hc

theorem probing_tryLineColumn {m : LineColumn} (h : lineColumn? t = some m) :
    Probing (Candidate t) 2 (tryLineColumn t m pending) := by
  refine probing_readNumber_bind (fun hl => ?_) fun lineFault => ?_
  · refine probing_readNumber_bind (fun hc => ?_) fun columnFault => .answer 2 _
    have hfolded := candidate_collapsedPath h hc
    obtain ⟨p, l, c, ht, hp, -, -, rfl⟩ := lineColumn?_eq_some_iff.1 h
    have hposition : Candidate t p := .position ht hp hl hc
    refine Probing.bind (m := 1) (n := 1) (probing_tryPosition hposition _) fun trial => ?_
    cases trial with
    | settled result => exact .answer 1 _
    | continued pending => exact probing_tryCollapsed hfolded _
  · refine probing_readNumber_bind (fun hc => ?_) fun columnFault => .answer 2 _
    exact (probing_tryCollapsed (candidate_collapsedPath h hc) _).mono (Nat.le_succ 1)

theorem probing_searchLineColumn (t : Text) : Probing (Candidate t) 2 (searchLineColumn t) := by
  unfold searchLineColumn
  split
  · next m hm => exact probing_tryLineColumn hm
  · exact .answer 2 _

theorem probing_searchLineOnly (t : Text) (pending : Pending) :
    Probing (Candidate t) 1 (searchLineOnly t pending) := by
  unfold searchLineOnly
  split
  · next m hm =>
    obtain ⟨q, n, ht, hq, -, rfl⟩ := lineOnly?_eq_some_iff.1 hm
    exact probing_readNumber_bind (fun hn => probing_tryPosition (.line ht hq hn) _)
      fun fault => .answer 1 _
  · exact .answer 1 _

/-- A search for a suffix probes candidates, at most three of them. -/
theorem probing_resolveSuffix (t : Text) : Probing (Candidate t) 3 (resolveSuffix t) := by
  have hresume : ∀ trial, Probing (Candidate t) 1 (Trial.resume t trial) := fun trial => by
    cases trial with
    | settled result => exact .answer 1 _
    | continued pending => exact (probing_searchLineOnly t pending).bind fun second => .answer 0 _
  exact (probing_searchLineColumn t).bind hresume

/-- A search goes on with a suffix unless the text itself is a file or a directory. -/
theorem probing_resolveAbsolute_next (t : Text) (r : Probe) :
    Probing (Candidate t) 3 (match r with
      | .file p => .answer (.ok (.file p none))
      | .directory p => .answer (.ok (.directory p))
      | _ => resolveSuffix t) := by
  cases r with
  | file p => exact .answer 3 _
  | directory p => exact .answer 3 _
  | other p => exact probing_resolveSuffix t
  | missing => exact probing_resolveSuffix t
  | error e => exact probing_resolveSuffix t

end Probing

/-! ## What resolving asks for -/

/-- Resolving asks for the absolute argument, and for candidates of it. -/
theorem mem_calls_resolve {fs : FileSystem} {ctx : Context} {arg asked : Text}
    (h : asked ∈ (resolve ctx arg).calls fs) :
    asked = ctx.absolutize arg ∨ Candidate (ctx.absolutize arg) asked := by
  unfold resolve at h
  split_ifs at h
  · cases h
  · cases h
  · rw [resolveAbsolute, Inquiry.bind_eq, Inquiry.mem_calls_bind, calls_probe] at h
    rcases h with h | ⟨r, -, h⟩
    · exact .inl (List.mem_singleton.1 h)
    · exact .inr ((probing_resolveAbsolute_next _ r).mem_calls h)

end Pinpoint
