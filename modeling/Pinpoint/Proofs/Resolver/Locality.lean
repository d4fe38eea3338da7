import Pinpoint.FileSystem.Table
import Pinpoint.Proofs.Resolver.Candidates

/-!
# What resolving depends on

Whatever else there is, resolving looks at the absolute argument and at what stands in
front of its last colon and of its second-last one. It looks there at most four times,
and it ends where it finds something: the path that it returns is the canonical form of
the one that it has asked for last.

* `InFrontOfColon`: the two texts in front of a colon that may be looked at.
* `Inquiry.LandsOn`: the path that is asked for last has a certain canonical form.
* `landsOn_resolve`: so it is with the path that resolving returns.
* `resolve_looks_at_few`: the paths that are asked for, and what the result depends on.
-/

namespace Pinpoint

/-! ## Specification -/

/-- What stands in front of the last colon of a text, or of the second-last one. -/
inductive InFrontOfColon (t : Text) : Text → Prop
  | last {q n : Text} (ht : t = q ++ ':' :: n) (hn : ':' ∉ n) : InFrontOfColon t q
  | secondLast {p l c : Text} (ht : t = p ++ ':' :: l ++ ':' :: c) (hl : ':' ∉ l) (hc : ':' ∉ c) :
    InFrontOfColon t p

/-- The path that a computation asks for last has the canonical form `c`. -/
def Inquiry.LandsOn {α : Type} (fs : FileSystem) (x : Inquiry α) (c : Path) : Prop :=
  ∃ last, (x.calls fs).getLast? = some last ∧ fs.canonicalize last = .ok c

variable {fs : FileSystem} {ctx : Context} {arg t path : Text} {pending : Pending} {s : Specifier}

theorem Candidate.inFrontOfColon (h : Candidate t path) : InFrontOfColon t path := by
  cases h with
  | position ht _ hl hc => exact .secondLast ht hl.digits.colon_notMem hc.digits.colon_notMem
  | line ht _ hn => exact .last ht hn.digits.colon_notMem

/-! ## The path that is asked for last -/

namespace Inquiry

variable {α β : Type} {x : Inquiry α} {f : α → Inquiry β} {a : α} {c : Path}

theorem landsOn_probe {r : Probe} (h : fs.Finds path r) (hc : r.path? = some c) :
    (probe path).LandsOn fs c := by
  refine ⟨path, ?_, (h.canonicalize_of_path? hc).1⟩
  rw [calls_probe, List.getLast?_singleton]

/-- What goes on asking decides where a computation lands. -/
theorem LandsOn.of_bind (h : x.run fs = .ok a) (hf : (f a).LandsOn fs c) :
    (x.bind f).LandsOn fs c := by
  obtain ⟨last, hlast, hc⟩ := hf
  refine ⟨last, ?_, hc⟩
  rw [calls_bind_of_ok h, List.getLast?_append, hlast, Option.some_or]

/-- What asks no more leaves it where it was. -/
theorem LandsOn.bind (hx : x.LandsOn fs c) (h : x.run fs = .ok a)
    (hf : (f a).calls fs = []) : (x.bind f).LandsOn fs c := by
  obtain ⟨last, hlast, hc⟩ := hx
  refine ⟨last, ?_, hc⟩
  rw [calls_bind_of_ok h, hf, List.append_nil, hlast]

/-- A probe is where a computation lands that asks no more once it has found its answer. -/
theorem landsOn_probe_bind {f : Probe → Inquiry α} (h : ((probe path).bind f).run fs = .ok a)
    (hf : ∀ r, (f r).run fs = .ok a → r.path? = some c ∧ (f r).calls fs = []) :
    ((probe path).bind f).LandsOn fs c := by
  obtain ⟨r, hr, hnext⟩ := run_bind_ok_iff.1 h
  obtain ⟨hc, hcalls⟩ := hf r hnext
  exact (landsOn_probe hr hc).bind hr hcalls

end Inquiry

open Inquiry (landsOn_probe landsOn_probe_bind run_bind_ok_iff)

theorem landsOn_tryPosition {pos : Position}
    (h : (tryPosition t path pos pending).run fs = .ok (.settled (.ok s))) :
    (tryPosition t path pos pending).LandsOn fs s.path := by
  refine landsOn_probe_bind h fun r hr => ?_
  cases r <;> cases hr
  exact ⟨rfl, rfl⟩

theorem landsOn_tryCollapsed {m : LineColumn} {line : Nat}
    (h : (tryCollapsed m line pending).run fs = .ok (.settled (.ok s))) :
    (tryCollapsed m line pending).LandsOn fs s.path := by
  refine landsOn_probe_bind h fun r hr => ?_
  cases r <;> cases hr
  exact ⟨rfl, rfl⟩

theorem landsOn_tryLineColumn {m : LineColumn}
    (h : (tryLineColumn t m pending).run fs = .ok (.settled (.ok s))) :
    (tryLineColumn t m pending).LandsOn fs s.path := by
  obtain ⟨line, hline, h⟩ := run_bind_ok_iff.1 h
  obtain ⟨column, hcolumn, h⟩ := run_bind_ok_iff.1 h
  refine .of_bind hline (.of_bind hcolumn ?_)
  rcases column with columnFault | c
  · rcases line with lineFault | l <;> cases h
  · rcases line with lineFault | l
    · exact landsOn_tryCollapsed h
    · obtain ⟨trial, htrial, h⟩ := run_bind_ok_iff.1 h
      cases trial with
      | settled result =>
        cases h
        exact (landsOn_tryPosition htrial).bind htrial rfl
      | continued pending => exact .of_bind htrial (landsOn_tryCollapsed h)

theorem landsOn_searchLineColumn
    (h : (searchLineColumn t).run fs = .ok (.settled (.ok s))) :
    (searchLineColumn t).LandsOn fs s.path := by
  unfold searchLineColumn at h ⊢
  split at h
  · exact landsOn_tryLineColumn h
  · cases h

theorem landsOn_searchLineOnly
    (h : (searchLineOnly t pending).run fs = .ok (.settled (.ok s))) :
    (searchLineOnly t pending).LandsOn fs s.path := by
  unfold searchLineOnly at h ⊢
  split at h
  · obtain ⟨line, hline, h⟩ := run_bind_ok_iff.1 h
    refine .of_bind hline ?_
    rcases line with fault | l
    · cases h
    · exact landsOn_tryPosition h
  · cases h

theorem landsOn_resolveSuffix (h : (resolveSuffix t).run fs = .ok (.ok s)) :
    (resolveSuffix t).LandsOn fs s.path := by
  obtain ⟨trial, htrial, h⟩ := run_bind_ok_iff.1 h
  cases trial with
  | settled result =>
    cases h
    exact (landsOn_searchLineColumn htrial).bind htrial rfl
  | continued pending =>
    obtain ⟨second, hsecond, hfinish⟩ := run_bind_ok_iff.1 h
    cases second with
    | settled result =>
      cases hfinish
      exact .of_bind htrial ((landsOn_searchLineOnly hsecond).bind hsecond rfl)
    | continued pending => cases hfinish

/-- The path that resolving returns is the canonical form of the one that it asks for last. -/
theorem landsOn_resolve (h : (resolve ctx arg).run fs = .ok (.ok s)) :
    (resolve ctx arg).LandsOn fs s.path := by
  unfold resolve at h ⊢
  split_ifs at h ⊢
  · cases h
  · cases h
  · obtain ⟨r, hr, h⟩ := run_bind_ok_iff.1 h
    cases r with
    | file c =>
      cases h
      exact (landsOn_probe hr rfl).bind hr rfl
    | directory c =>
      cases h
      exact (landsOn_probe hr rfl).bind hr rfl
    | other c => exact .of_bind hr (landsOn_resolveSuffix h)
    | missing => exact .of_bind hr (landsOn_resolveSuffix h)
    | error e => exact .of_bind hr (landsOn_resolveSuffix h)

/-! ## All paths that are asked for -/

/-- Resolving an absolute text probes that text first, and at most three candidates then. -/
theorem calls_resolveAbsolute (fs : FileSystem) (t : Text) :
    ∃ rest, (resolveAbsolute t).calls fs = t :: rest ∧ rest.length ≤ 3 ∧
      ∀ path ∈ rest, Candidate t path := by
  rw [resolveAbsolute, Inquiry.bind_eq, Inquiry.calls_bind, calls_probe]
  refine ⟨_, rfl, ?_⟩
  cases (probe t).run fs with
  | ok r =>
    have hnext := probing_resolveAbsolute_next t r
    exact ⟨hnext.length_calls_le fs, fun path => hnext.mem_calls⟩
  | error c => exact ⟨Nat.zero_le 3, fun path hpath => absurd hpath List.not_mem_nil⟩

/-- All that it probes is the text itself and what stands in front of its last two colons. -/
theorem probing_resolveAbsolute (t : Text) :
    (resolveAbsolute t).Probing (fun path => path = t ∨ InFrontOfColon t path) 4 :=
  .probe (.inl rfl) fun r =>
    (probing_resolveAbsolute_next t r).imp fun _ hpath => .inr hpath.inFrontOfColon

/-- A text that ends in two groups has two texts in front of a colon. -/
theorem InFrontOfColon.eq_or_eq {p l c : Text} (h : InFrontOfColon (p ++ ':' :: l ++ ':' :: c) path)
    (hl : ':' ∉ l) (hc : ':' ∉ c) : path = p ++ ':' :: l ∨ path = p := by
  generalize ht : p ++ ':' :: l ++ ':' :: c = t at h
  cases h with
  | last ht' hn => exact .inl (append_colon_inj (ht.trans ht') hc hn).1.symm
  | secondLast ht' hl' hc' =>
    exact .inr (append_colon_colon_inj (ht.trans ht') hl hl' hc hc').1.symm

/-- **Few paths.** Resolving an empty argument, or one with a NUL character, asks for nothing. Any
    other argument is made absolute and asked for first. At most three paths follow, each of which
    stands in front of the last colon of the absolute argument or in front of the second-last one.
    Where resolving succeeds, the path that it returns is the canonical form of the one asked for
    last. On file systems that find the same at these three texts, whatever else they hold, it asks
    for the same and comes to the same. -/
theorem resolve_looks_at_few (fs : FileSystem) (ctx : Context) (arg : Text) :
    let t := ctx.absolutize arg
    let calls := (resolve ctx arg).calls fs
    (arg = [] ∨ Text.nul ∈ arg → calls = []) ∧
      (arg ≠ [] → Text.nul ∉ arg →
        ∃ rest, calls = t :: rest ∧ rest.length ≤ 3 ∧ ∀ path ∈ rest, InFrontOfColon t path) ∧
      (∀ s, (resolve ctx arg).run fs = .ok (.ok s) →
        ∃ last, calls.getLast? = some last ∧ fs.canonicalize last = .ok s.path) ∧
      ∀ fs', (∀ path, path = t ∨ InFrontOfColon t path →
          (probe path).run fs = (probe path).run fs') →
        (resolve ctx arg).run fs = (resolve ctx arg).run fs' ∧
          calls = (resolve ctx arg).calls fs' := by
  intro t calls
  refine ⟨?_, ?_, fun s hs => landsOn_resolve hs, fun fs' hsame => ?_⟩
  · rintro (hempty | hnul)
    · rw [show calls = _ from congrArg (Inquiry.calls fs) (if_pos hempty), Inquiry.calls_answer]
    · unfold calls resolve
      split_ifs <;> rfl
  · intro hne hnul
    obtain ⟨rest, hrest, hlength, hmem⟩ := calls_resolveAbsolute fs t
    refine ⟨rest, ?_, hlength, fun path hpath => (hmem path hpath).inFrontOfColon⟩
    rw [← hrest, ← resolve_of_ne_nil ctx hne hnul]
  · unfold calls resolve
    split_ifs
    · exact ⟨rfl, rfl⟩
    · exact ⟨rfl, rfl⟩
    · have hprobing := probing_resolveAbsolute t
      exact ⟨hprobing.run_congr hsame, hprobing.calls_congr hsame⟩

/-- A file in front of three numbers makes no difference. -/
theorem three_numbers_not_folded :
    let fs := (Table.addEntry "/work/a" .file {}).toFileSystem
    let bare := (Table.addEntry "/work" .directory {}).toFileSystem
    let ctx : Context := ⟨⟨.slash, ["work"]⟩⟩
    (∀ path, path = ctx.absolutize "a:1:2:3" ∨ InFrontOfColon (ctx.absolutize "a:1:2:3") path →
        (probe path).run fs = (probe path).run bare) ∧
      (resolve ctx "a:1:2:3").run fs =
        .ok (.error { kind := .noMatch, argument := "/work/a:1:2:3".toList }) := by
  intro fs bare ctx
  have hsame : ∀ path,
      path = ctx.absolutize "a:1:2:3" ∨ InFrontOfColon (ctx.absolutize "a:1:2:3") path →
        (probe path).run fs = (probe path).run bare := by
    rintro path (rfl | hpath)
    · decide
    · rcases hpath.eq_or_eq (p := "/work/a:1") (l := "2") (c := "3") (by decide) (by decide) with
        rfl | rfl <;> decide
  refine ⟨hsame, ?_⟩
  rw [((resolve_looks_at_few fs ctx "a:1:2:3").2.2.2 bare hsame).1]
  decide

end Pinpoint
