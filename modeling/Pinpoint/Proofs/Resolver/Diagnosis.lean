import Pinpoint.Proofs.Resolver.Denotation

/-!
# Why an argument denotes nothing

The rules in `failureRules` are told without the search and without the order in
which it meets and remembers failures. They stand from the most to the least
specific, and the first one that applies decides.

* `resolve_failure_selected`: an argument that resolves to nothing fails with what
  the first applicable rule says, kind and payload.
-/

namespace Pinpoint

/-! ## Specification -/

/-- The first of several rules that applies at all says `a`. -/
inductive FirstOf {α : Type} : List (α → Prop) → α → Prop
  | here {R : α → Prop} {Rs : List (α → Prop)} {a : α} (h : R a) : FirstOf (R :: Rs) a
  | later {R : α → Prop} {Rs : List (α → Prop)} {a : α} (hR : ∀ b, ¬ R b) (h : FirstOf Rs a) :
    FirstOf (R :: Rs) a

/-- The first rule that applies says `a` and nothing else. -/
def Selects {α : Type} (Rs : List (α → Prop)) (a : α) : Prop := ∀ b, FirstOf Rs b ↔ b = a

/-- A directory or a special file is found at a path. -/
def FileSystem.FindsNonFile (fs : FileSystem) (path : Text) : Prop :=
  ∃ c, fs.Finds path (.directory c) ∨ fs.Finds path (.other c)

namespace FailureRule

/-- What stands in front of two numbers is no file. -/
def positionNotAFile (fs : FileSystem) (t : Text) (f : Failure) : Prop :=
  ∃ p l c, t = p ++ ':' :: l ++ ':' :: c ∧ p ≠ [] ∧ IsUnsigned l ∧ IsUnsigned c ∧
    fs.FindsNonFile p ∧ f = { kind := .notAFile, argument := t, fragment := some p }

/-- What stands in front of the last number is no file. -/
def lineNotAFile (fs : FileSystem) (t : Text) (f : Failure) : Prop :=
  ∃ q n, t = q ++ ':' :: n ∧ q ≠ [] ∧ IsUnsigned n ∧ fs.FindsNonFile q ∧
    f = { kind := .notAFile, argument := t, fragment := some q }

/-- Of two groups at the end, not both are numbers. -/
def badGroups (t : Text) (f : Failure) : Prop :=
  ∃ p l c, t = p ++ ':' :: l ++ ':' :: c ∧ p ≠ [] ∧ IsGroup l ∧ IsGroup c ∧ GroupFailure t l c f

/-- The digits at the end are no number, since their value is too large. -/
def badLine (t : Text) (f : Failure) : Prop :=
  ∃ q n, t = q ++ ':' :: n ∧ q ≠ [] ∧ IsDigits n ∧ ¬ IsUnsigned n ∧
    f = { kind := .invalidLine, argument := t
          fragment := some n, cause := some NumberFault.tooLarge.message }

/-- What stands in front of two numbers cannot be examined. -/
def positionUnreadable (fs : FileSystem) (t : Text) (f : Failure) : Prop :=
  ∃ p l c e, t = p ++ ':' :: l ++ ':' :: c ∧ p ≠ [] ∧ IsUnsigned l ∧ IsUnsigned c ∧
    fs.Finds p (.error e) ∧
    f = { kind := .otherIOFailure, argument := t, fragment := some p, cause := some e.cause }

/-- What stands in front of the last number cannot be examined. -/
def lineUnreadable (fs : FileSystem) (t : Text) (f : Failure) : Prop :=
  ∃ q n e, t = q ++ ':' :: n ∧ q ≠ [] ∧ IsUnsigned n ∧ fs.Finds q (.error e) ∧
    f = { kind := .otherIOFailure, argument := t, fragment := some q, cause := some e.cause }

/-- Nothing more can be said. -/
def noMatch (t : Text) (f : Failure) : Prop := f = { kind := .noMatch, argument := t }

end FailureRule

open FailureRule in
/-- All rules, the most specific first. -/
def failureRules (fs : FileSystem) (t : Text) : List (Failure → Prop) :=
  [positionNotAFile fs t, lineNotAFile fs t, badGroups t, badLine t, positionUnreadable fs t,
    lineUnreadable fs t, noMatch t]

/-! ## Rules and what is remembered -/

section Selects

variable {α : Type} {R : α → Prop} {Rs : List (α → Prop)} {a : α}

theorem firstOf_cons_iff : FirstOf (R :: Rs) a ↔ R a ∨ (∀ b, ¬ R b) ∧ FirstOf Rs a := by
  constructor
  · intro h
    cases h with
    | here h => exact .inl h
    | later hR h => exact .inr ⟨hR, h⟩
  · rintro (h | ⟨hR, h⟩)
    · exact .here h
    · exact .later hR h

theorem Selects.here (h : ∀ b, R b ↔ b = a) : Selects (R :: Rs) a := by
  intro b
  rw [firstOf_cons_iff, h]
  constructor
  · rintro (hb | ⟨hR, -⟩)
    · exact hb
    · exact absurd ((h a).2 rfl) (hR a)
  · exact .inl

theorem Selects.later (hR : ∀ b, ¬ R b) (h : Selects Rs a) : Selects (R :: Rs) a := by
  intro b
  rw [firstOf_cons_iff, h b]
  constructor
  · rintro (hb | ⟨-, hb⟩)
    · exact absurd hb (hR b)
    · exact hb
  · intro hb
    exact .inr ⟨hR, hb⟩

/-- A memory that holds what a rule says takes the place of that rule. -/
theorem Selects.getD {o : Option α} (ho : ∀ b, o = some b ↔ R b) (h : Selects Rs a) :
    Selects (R :: Rs) (o.getD a) := by
  cases o with
  | none => exact .later (fun b hb => by simpa using (ho b).2 hb) h
  | some b => exact .here fun b' => by rw [← ho b', Option.some.injEq, Option.getD_some, eq_comm]

theorem selects_eq : Selects [(· = a)] a := .here fun _ => Iff.rfl

end Selects

/-! ## The rules at a given cut -/

namespace FailureRule

variable {fs : FileSystem} {t : Text} {f : Failure}

section Groups

variable {p l c : Text} (ht : t = p ++ ':' :: l ++ ':' :: c) (hp : p ≠ []) (hl : IsGroup l)
  (hc : IsGroup c)

include ht hp hl hc

theorem positionNotAFile_iff :
    positionNotAFile fs t f ↔ IsUnsigned l ∧ IsUnsigned c ∧ fs.FindsNonFile p ∧
      f = { kind := .notAFile, argument := t, fragment := some p } := by
  constructor
  · rintro ⟨p', l', c', ht', -, hl', hc', h⟩
    obtain ⟨rfl, rfl, rfl⟩ := append_colon_colon_inj (ht.symm.trans ht') hl.colon_notMem
      hl'.isGroup.colon_notMem hc.colon_notMem hc'.isGroup.colon_notMem
    exact ⟨hl', hc', h⟩
  · rintro ⟨hl', hc', h⟩
    exact ⟨p, l, c, ht, hp, hl', hc', h⟩

theorem badGroups_iff : badGroups t f ↔ GroupFailure t l c f := by
  constructor
  · rintro ⟨p', l', c', ht', -, hl', hc', h⟩
    obtain ⟨rfl, rfl, rfl⟩ := append_colon_colon_inj (ht.symm.trans ht') hl.colon_notMem
      hl'.colon_notMem hc.colon_notMem hc'.colon_notMem
    exact h
  · intro h
    exact ⟨p, l, c, ht, hp, hl, hc, h⟩

theorem positionUnreadable_iff :
    positionUnreadable fs t f ↔ IsUnsigned l ∧ IsUnsigned c ∧ ∃ e, fs.Finds p (.error e) ∧
      f = { kind := .otherIOFailure, argument := t
            fragment := some p, cause := some e.cause } := by
  constructor
  · rintro ⟨p', l', c', e, ht', -, hl', hc', h⟩
    obtain ⟨rfl, rfl, rfl⟩ := append_colon_colon_inj (ht.symm.trans ht') hl.colon_notMem
      hl'.isGroup.colon_notMem hc.colon_notMem hc'.isGroup.colon_notMem
    exact ⟨hl', hc', e, h⟩
  · rintro ⟨hl', hc', e, h⟩
    exact ⟨p, l, c, e, ht, hp, hl', hc', h⟩

end Groups

section Line

variable {q n : Text} (ht : t = q ++ ':' :: n) (hq : q ≠ []) (hn : IsDigits n)

include ht hq hn

theorem lineNotAFile_iff :
    lineNotAFile fs t f ↔ IsUnsigned n ∧ fs.FindsNonFile q ∧
      f = { kind := .notAFile, argument := t, fragment := some q } := by
  constructor
  · rintro ⟨q', n', ht', -, hn', h⟩
    obtain ⟨rfl, rfl⟩ :=
      append_colon_inj (ht.symm.trans ht') hn.colon_notMem hn'.digits.colon_notMem
    exact ⟨hn', h⟩
  · rintro ⟨hn', h⟩
    exact ⟨q, n, ht, hq, hn', h⟩

theorem badLine_iff :
    badLine t f ↔ ¬ IsUnsigned n ∧
      f = { kind := .invalidLine, argument := t
            fragment := some n, cause := some NumberFault.tooLarge.message } := by
  constructor
  · rintro ⟨q', n', ht', -, hd, h⟩
    obtain ⟨rfl, rfl⟩ := append_colon_inj (ht.symm.trans ht') hn.colon_notMem hd.colon_notMem
    exact h
  · intro h
    exact ⟨q, n, ht, hq, hn, h⟩

theorem lineUnreadable_iff :
    lineUnreadable fs t f ↔ IsUnsigned n ∧ ∃ e, fs.Finds q (.error e) ∧
      f = { kind := .otherIOFailure, argument := t
            fragment := some q, cause := some e.cause } := by
  constructor
  · rintro ⟨q', n', e, ht', -, hn', h⟩
    obtain ⟨rfl, rfl⟩ :=
      append_colon_inj (ht.symm.trans ht') hn.colon_notMem hn'.digits.colon_notMem
    exact ⟨hn', e, h⟩
  · rintro ⟨hn', e, h⟩
    exact ⟨q, n, e, ht, hq, hn', h⟩

end Line

end FailureRule

/-! ## Failures of the two readings -/

variable {fs : FileSystem} {t : Text}

theorem GroupFailure.unique {l c : Text} {f g : Failure} (hf : GroupFailure t l c f)
    (hg : GroupFailure t l c g) : f = g := by
  cases hf <;> cases hg <;> first | rfl | contradiction

theorem GroupFailure.not_isUnsigned {l c : Text} {f : Failure} (h : GroupFailure t l c f) :
    ¬ (IsUnsigned l ∧ IsUnsigned c) := by
  rintro ⟨hl, hc⟩
  cases h <;> contradiction

/-- What a path in front of a position comes to, where it is no file: a terminal failure, or a
    failure that is left to be reported later, if it cannot be examined. -/
theorem ofProbe_diagnosis {path : Text} {r : Probe} {pos : Position} {pending : Pending}
    (hr : fs.Finds path r)
    (hok : ∀ s, Trial.ofProbe t path pos pending r ≠ .settled (.ok s)) :
    (fs.FindsNonFile path ∧ Trial.ofProbe t path pos pending r =
      .settled (.error { kind := .notAFile, argument := t, fragment := some path })) ∨
    ¬ fs.FindsNonFile path ∧ ∃ y, Trial.ofProbe t path pos pending r =
        .continued ⟨pending.parse, pending.io <|> y⟩ ∧
      ∀ g, y = some g ↔ ∃ e, fs.Finds path (.error e) ∧
        g = { kind := .otherIOFailure, argument := t
              fragment := some path, cause := some e.cause } := by
  unfold FileSystem.FindsNonFile
  simp only [hr.iff]
  cases r with
  | file c => exact absurd rfl (hok _)
  | directory c => exact .inl ⟨⟨c, .inl rfl⟩, rfl⟩
  | other c => exact .inl ⟨⟨c, .inr rfl⟩, rfl⟩
  | missing => exact .inr ⟨by simp, none, by simp [Trial.ofProbe], by simp⟩
  | error e =>
    refine .inr ⟨by simp, some (.ofOsError t path e), rfl, fun g => ?_⟩
    constructor
    · rintro ⟨⟩
      exact ⟨e, rfl, rfl⟩
    · rintro ⟨e', he, rfl⟩
      cases he
      rfl

open FailureRule

/-- What the first reading comes to, where it does not find a file: its terminal failure, or the
    failures that it leaves to be reported later. -/
theorem searchLineColumn_diagnosis (hconv : Convertible t)
    (hfs : ∀ path, path <+: t → fs.Answers path)
    (hok : ∀ s, (Straight.searchLineColumn t).run fs ≠ .ok (.settled (.ok s))) :
    (∃ f, (Straight.searchLineColumn t).run fs = .ok (.settled (.error f)) ∧
      ∀ g, positionNotAFile fs t g ↔ g = f) ∨
    ∃ x y, (Straight.searchLineColumn t).run fs = .ok (.continued ⟨x, y⟩) ∧
      (∀ g, ¬ positionNotAFile fs t g) ∧ (∀ g, x = some g ↔ badGroups t g) ∧
      (∀ g, y = some g ↔ positionUnreadable fs t g) := by
  have hrun := Straight.lineColumnRun fs t
  generalize (Straight.searchLineColumn t).run fs = result at hrun hok ⊢
  cases hrun with
  | absent h =>
    refine .inr ⟨none, none, rfl, ?_, ?_, ?_⟩
    · rintro g ⟨p, l, c, ht, hp, hl, hc, -⟩
      exact h p l c ht hp hl.isGroup hc.isGroup
    · simp only [reduceCtorEq, false_iff]
      rintro g ⟨p, l, c, ht, hp, hl, hc, -⟩
      exact h p l c ht hp hl hc
    · simp only [reduceCtorEq, false_iff]
      rintro g ⟨p, l, c, e, ht, hp, hl, hc, -⟩
      exact h p l c ht hp hl.isGroup hc.isGroup
  | @probed p l c r ht hp hl hc hr =>
    have hlg := hl.digits.isGroup
    have hcg := hc.digits.isGroup
    have hgroups : ∀ g, ¬ badGroups t g := fun g hg =>
      ((badGroups_iff ht hp hlg hcg).1 hg).not_isUnsigned ⟨hl.toIsUnsigned, hc.toIsUnsigned⟩
    rcases ofProbe_diagnosis hr fun s hs => hok s (congrArg Except.ok hs) with
      ⟨hfinds, hsettled⟩ | ⟨hfinds, y, hcontinued, hy⟩
    · refine .inl ⟨_, congrArg Except.ok hsettled, fun g => ?_⟩
      rw [positionNotAFile_iff ht hp hlg hcg]
      exact ⟨fun h => h.2.2.2, fun h => ⟨hl.toIsUnsigned, hc.toIsUnsigned, hfinds, h⟩⟩
    · refine .inr ⟨none, y, congrArg Except.ok (by simpa using hcontinued), ?_, ?_, ?_⟩
      · intro g hg
        exact hfinds ((positionNotAFile_iff ht hp hlg hcg).1 hg).2.2.1
      · simpa using hgroups
      · intro g
        rw [positionUnreadable_iff ht hp hlg hcg, hy]
        exact ⟨fun h => ⟨hl.toIsUnsigned, hc.toIsUnsigned, h⟩, fun h => h.2.2⟩
  | @unanswered p l c ht hp hl hc hr =>
    exact absurd (hfs p ⟨':' :: l ++ ':' :: c, by simp [ht]⟩) hr
  | @refused p l c f ht hp hl hc hf =>
    refine .inr ⟨some f, none, rfl, ?_, ?_, ?_⟩
    · intro g hg
      obtain ⟨hl', hc', -⟩ := (positionNotAFile_iff ht hp hl hc).1 hg
      exact hf.not_isUnsigned ⟨hl', hc'⟩
    · intro g
      rw [badGroups_iff ht hp hl hc, Option.some.injEq]
      exact ⟨fun h => h ▸ hf, hf.unique⟩
    · simp only [reduceCtorEq, false_iff]
      intro g hg
      obtain ⟨hl', hc', -⟩ := (positionUnreadable_iff ht hp hl hc).1 hg
      exact hf.not_isUnsigned ⟨hl', hc'⟩
  | overlongLine ht _ hl hc => exact absurd hl (hconv.between _ _ _ ht hc.colon_notMem)
  | overlongColumn ht _ _ _ hc => exact absurd hc (hconv.last _ _ ht)

/-- What the second reading comes to, where it does not find a file. It adds to what is remembered
    already, and never replaces it. -/
theorem searchLineOnly_diagnosis (hconv : Convertible t)
    (hfs : ∀ path, path <+: t → fs.Answers path) (pending : Pending)
    (hok : ∀ s, (searchLineOnly t pending).run fs ≠ .ok (.settled (.ok s))) :
    (∃ f, (searchLineOnly t pending).run fs = .ok (.settled (.error f)) ∧
      ∀ g, lineNotAFile fs t g ↔ g = f) ∨
    ∃ x y, (searchLineOnly t pending).run fs =
        .ok (.continued ⟨pending.parse <|> x, pending.io <|> y⟩) ∧
      (∀ g, ¬ lineNotAFile fs t g) ∧ (∀ g, x = some g ↔ badLine t g) ∧
      (∀ g, y = some g ↔ lineUnreadable fs t g) := by
  have hrun := lineRun fs t pending
  generalize (searchLineOnly t pending).run fs = result at hrun hok ⊢
  cases hrun with
  | absent h =>
    refine .inr ⟨none, none, by simp, ?_, ?_, ?_⟩
    · rintro g ⟨q, n, ht, hq, hn, -⟩
      exact h q n ht hq hn.digits
    · simp only [reduceCtorEq, false_iff]
      rintro g ⟨q, n, ht, hq, hn, -⟩
      exact h q n ht hq hn
    · simp only [reduceCtorEq, false_iff]
      rintro g ⟨q, n, e, ht, hq, hn, -⟩
      exact h q n ht hq hn.digits
  | @probed q n r ht hq hn hr =>
    rcases ofProbe_diagnosis hr fun s hs => hok s (congrArg Except.ok hs) with
      ⟨hfinds, hsettled⟩ | ⟨hfinds, y, hcontinued, hy⟩
    · refine .inl ⟨_, congrArg Except.ok hsettled, fun g => ?_⟩
      rw [lineNotAFile_iff ht hq hn.digits]
      exact ⟨fun h => h.2.2, fun h => ⟨hn.toIsUnsigned, hfinds, h⟩⟩
    · refine .inr ⟨none, y, congrArg Except.ok (by simpa using hcontinued), ?_, ?_, ?_⟩
      · intro g hg
        exact hfinds ((lineNotAFile_iff ht hq hn.digits).1 hg).2.1
      · simp only [reduceCtorEq, false_iff]
        intro g hg
        exact ((badLine_iff ht hq hn.digits).1 hg).1 hn.toIsUnsigned
      · intro g
        rw [lineUnreadable_iff ht hq hn.digits, hy]
        exact ⟨fun h => ⟨hn.toIsUnsigned, h⟩, fun h => h.2⟩
  | @unanswered q n ht hq hn hr => exact absurd (hfs q ⟨':' :: n, ht.symm⟩) hr
  | @refused q n ht hq hd hn ho =>
    have hu : ¬ IsUnsigned n := (isUnsigned_iff_isNumber ho).not.2 hn
    have hfault : NumberFault.ofText n = .tooLarge := by
      rw [NumberFault.ofText, if_neg hd.1, if_pos hd]
    refine .inr ⟨some (.ofLine t n .tooLarge), none, ?_, ?_, ?_, ?_⟩
    · rw [hfault]
      simp [Pending.addParse]
    · intro g hg
      exact hu ((lineNotAFile_iff ht hq hd).1 hg).1
    · intro g
      rw [badLine_iff ht hq hd, Option.some.injEq, eq_comm]
      exact ⟨fun h => ⟨hu, h⟩, fun h => h.2⟩
    · simp only [reduceCtorEq, false_iff]
      intro g hg
      exact hu ((lineUnreadable_iff ht hq hd).1 hg).1
  | overlong ht _ ho => exact absurd ho (hconv.last _ _ ht)

/-! ## The whole search -/

/-- What is remembered is reported in the order of the rules. -/
theorem failure_eq_getD (x x' y y' : Option Failure) :
    Pending.failure ⟨x <|> x', y <|> y'⟩ t =
      x.getD (x'.getD (y.getD (y'.getD { kind := .noMatch, argument := t }))) := by
  cases x <;> cases x' <;> cases y <;> cases y' <;> rfl

theorem run_straight_resolveSuffix_selects (hconv : Convertible t)
    (hfs : ∀ path, path <+: t → fs.Answers path)
    (hfail : ∀ s, (Straight.resolveSuffix t).run fs ≠ .ok (.ok s)) :
    ∃ f, (Straight.resolveSuffix t).run fs = .ok (.error f) ∧ Selects (failureRules fs t) f := by
  have hfirst : ∀ s, (Straight.searchLineColumn t).run fs ≠ .ok (.settled (.ok s)) :=
    fun s hs => hfail s (run_straight_resolveSuffix_of_settled hs)
  rcases searchLineColumn_diagnosis hconv hfs hfirst with
    ⟨f, hrun, hrule⟩ | ⟨x, y, hrun, hrule, hx, hy⟩
  · exact ⟨f, run_straight_resolveSuffix_of_settled hrun, .here hrule⟩
  · have hsecond : ∀ s, (searchLineOnly t ⟨x, y⟩).run fs ≠ .ok (.settled (.ok s)) :=
      fun s hs => hfail s (run_straight_resolveSuffix_of_continued hrun hs)
    rcases searchLineOnly_diagnosis hconv hfs ⟨x, y⟩ hsecond with
      ⟨f, hrun', hrule'⟩ | ⟨x', y', hrun', hrule', hx', hy'⟩
    · exact ⟨f, run_straight_resolveSuffix_of_continued hrun hrun', .later hrule (.here hrule')⟩
    · refine ⟨_, run_straight_resolveSuffix_of_continued hrun hrun', ?_⟩
      show Selects (failureRules fs t) (Pending.failure ⟨x <|> x', y <|> y'⟩ t)
      rw [failure_eq_getD]
      apply Selects.later hrule
      apply Selects.later hrule'
      apply Selects.getD hx
      apply Selects.getD hx'
      apply Selects.getD hy
      apply Selects.getD hy'
      exact selects_eq

/-- **Failure.** Where an argument does not resolve, although its parts can be converted and the
    file system answers for what stands in front of them, it fails with the absolute argument and
    with the kind and payload of the first rule that applies. -/
theorem resolve_failure_selected {fs : FileSystem} {ctx : Context} {arg : Text} (harg : arg ≠ [])
    (hnul : Text.nul ∉ arg) (hconv : Convertible (ctx.absolutize arg))
    (hdirect : fs.Finds (ctx.absolutize arg) .missing ∨
      ∃ c, fs.Finds (ctx.absolutize arg) (.other c))
    (hfs : ∀ path, path <+: ctx.absolutize arg → fs.Answers path)
    (hfail : ∀ s, (resolve ctx arg).run fs ≠ .ok (.ok s)) :
    ∃ f, (resolve ctx arg).run fs = .ok (.error f) ∧
      Selects (failureRules fs (ctx.absolutize arg)) f := by
  rw [resolve_of_ne_nil ctx harg hnul] at hfail ⊢
  generalize ctx.absolutize arg = t at *
  obtain ⟨r, hr, hs⟩ : ∃ r, fs.Finds t r ∧ r.specifier? = none := by
    rcases hdirect with h | ⟨c, h⟩
    · exact ⟨_, h, rfl⟩
    · exact ⟨_, h, rfl⟩
  rw [run_resolveAbsolute_of_none hr hs] at hfail ⊢
  exact run_straight_resolveSuffix_selects hconv hfs hfail

/-- The directory that the second reading meets goes before the path that the first cannot
    examine. -/
theorem selects_lineNotAFile_of_unreadable_position :
    let fs := ((Table.addEntry "/work/a:1" .directory {}).addFailure "/work/a" ⟨13⟩).toFileSystem
    let ctx : Context := ⟨⟨.slash, ["work"]⟩⟩
    ("a:1:7" : Text) ≠ [] ∧ Text.nul ∉ ("a:1:7" : Text) ∧ Convertible (ctx.absolutize "a:1:7") ∧
      (fs.Finds (ctx.absolutize "a:1:7") .missing ∨
        ∃ c, fs.Finds (ctx.absolutize "a:1:7") (.other c)) ∧
      (∀ path, path <+: ctx.absolutize "a:1:7" → fs.Answers path) ∧
      (∀ s, (resolve ctx "a:1:7").run fs ≠ .ok (.ok s)) ∧
      Selects (failureRules fs (ctx.absolutize "a:1:7"))
        { kind := .notAFile, argument := "/work/a:1:7".toList
          fragment := some "/work/a:1".toList } := by
  intro fs ctx
  have harg : ("a:1:7" : Text) ≠ [] := by decide
  have hnul : Text.nul ∉ ("a:1:7" : Text) := by decide
  have hconv : Convertible (ctx.absolutize "a:1:7") := convertible_of_length_le (by decide)
  have hdirect : fs.Finds (ctx.absolutize "a:1:7") .missing ∨
      ∃ c, fs.Finds (ctx.absolutize "a:1:7") (.other c) := .inl (by
        show (probe (ctx.absolutize "a:1:7")).run fs = .ok .missing
        decide)
  have hfs : ∀ path, path <+: ctx.absolutize "a:1:7" → fs.Answers path :=
    fun path _ => Table.answers _ path
  have hrun : (resolve ctx "a:1:7").run fs =
      .ok (.error { kind := .notAFile, argument := "/work/a:1:7".toList
                    fragment := some "/work/a:1".toList }) := by decide
  have hfail : ∀ s, (resolve ctx "a:1:7").run fs ≠ .ok (.ok s) := by
    intro s hs
    rw [hrun] at hs
    cases hs
  obtain ⟨f, hf, hselects⟩ := resolve_failure_selected harg hnul hconv hdirect hfs hfail
  obtain rfl := Except.error.inj (Except.ok.inj (hrun.symm.trans hf))
  exact ⟨harg, hnul, hconv, hdirect, hfs, hfail, hselects⟩

end Pinpoint
