import Mathlib.Data.List.Infix
import Pinpoint.Toml.Document

/-!
# What readers leave

A reader of a document is given what is still to be read, and leaves an end of it. Where it
finds a number with too many digits, these digits stand in what it was given. Both hold for
readers that are put together from such readers, so they hold for all.

* `HasNumeral`: a stretch of a text that holds so many digits.
* `Leaves`, `LeavesSome`: what a reader makes of a text, and one that may refuse it.
* `Leaves.bind`, `LeavesSome.bind`: one reader after another.
* `leaves_takeBasic`, `leaves_skipFiller`, `leaves_takeKey`, …: quoted texts, what is
  skipped, and keys.
-/

namespace Pinpoint.Toml

variable {α β : Type} {t t' rest : Text} {n : Nat}

/-! ## Specification -/

/-- A stretch of a text that holds `n` digits and otherwise nothing but underscores. -/
def HasNumeral (t : Text) (n : Nat) : Prop :=
  ∃ run, run <:+: t ∧ (∀ c ∈ run, c.isDigit ∨ c = '_') ∧ run.countP Char.isDigit = n

/-- What a reader makes of a text: it leaves an end of it, and a number that has too many digits
    stands in it. -/
def Leaves (left : α → Text) (t : Text) : Except Stop α → Prop
  | .ok a => left a <:+ t
  | .error (.fault _ _) => True
  | .error (.overlong n) => Decimal.digitLimit < n ∧ HasNumeral t n

/-- What a reader makes of a text that it may refuse to read: it leaves an end of it. -/
def LeavesSome (left : α → Text) (t : Text) (r : Option α) : Prop := ∀ a, r = some a → left a <:+ t

/-! ## One reader after another -/

theorem HasNumeral.mono (h : HasNumeral t n) (ht : t <:+: t') : HasNumeral t' n := by
  obtain ⟨run, hrun, hchars, hcount⟩ := h
  exact ⟨run, hrun.trans ht, hchars, hcount⟩

namespace Leaves

variable {left : α → Text} {left' : β → Text} {r : Except Stop α}

theorem mono (h : Leaves left t r) (ht : t <:+ t') : Leaves left t' r := by
  rcases r with (_ | n) | a
  · trivial
  · exact ⟨h.1, h.2.mono ht.isInfix⟩
  · exact List.IsSuffix.trans h ht

theorem cons (h : Leaves left t r) (c : Char) : Leaves left (c :: t) r :=
  h.mono (List.suffix_cons c t)

theorem bind {f : α → Except Stop β} (h : Leaves left t r)
    (hf : ∀ a, Leaves left' (left a) (f a)) : Leaves left' t (r >>= f) := by
  rcases r with (_ | n) | a
  · trivial
  · exact h
  · exact (hf a).mono h

/-- To do something with what has been read leaves the same. -/
theorem pure {r : Except Stop (α × Text)} (h : Leaves Prod.snd t r) (g : α → β) :
    Leaves Prod.snd t (do
      let (a, rest) ← r
      return (g a, rest)) :=
  h.bind fun a => show a.2 <:+ a.2 from List.suffix_rfl

end Leaves

namespace LeavesSome

variable {left : α → Text} {left' : β → Text} {r : Option α}

theorem some {a : α} (h : left a <:+ t) : LeavesSome left t (some a) := by
  rintro _ ⟨⟩
  exact h

theorem none : LeavesSome left t none := by
  rintro _ ⟨⟩

theorem mono (h : LeavesSome left t r) (ht : t <:+ t') : LeavesSome left t' r :=
  fun a ha => (h a ha).trans ht

theorem bind {f : α → Option β} (h : LeavesSome left t r)
    (hf : ∀ a, LeavesSome left' (left a) (f a)) : LeavesSome left' t (r >>= f) := by
  rcases r with _ | a
  · exact .none
  · exact (hf a).mono (h a rfl)

end LeavesSome

/-! ## Quoted texts -/

/-- A reader between double quotes refuses, ends, or goes on behind one or two characters. -/
theorem leaves_basicFrom (multiline : Bool) (mode : StringMode) (t : Text) :
    Leaves Prod.snd t (basicFrom multiline mode t) := by
  fun_induction basicFrom multiline mode t
  all_goals first
    | trivial
    | exact Leaves.cons (by assumption) _
    | exact (Leaves.cons (by assumption) _).cons _
    | exact (Leaves.pure (by assumption) _).cons _
    | exact ((Leaves.pure (by assumption) _).cons _).cons _
    | exact List.suffix_cons _ _
    | exact ⟨['"', '"', '"'], rfl⟩

theorem suffix_of_dropHead? {head : Text} (h : Text.dropHead? head t = some rest) : rest <:+ t := by
  induction head generalizing t with
  | nil =>
    cases h
    exact List.suffix_rfl
  | cons a head ih =>
    cases t with
    | nil => cases h
    | cons b t =>
      rw [Text.dropHead?] at h
      split_ifs at h
      exact (ih h).trans (List.suffix_cons b t)

theorem suffix_of_breakOn? {pattern inside : Text}
    (h : Text.breakOn? pattern t = some (inside, rest)) : rest <:+ t := by
  induction t generalizing inside with
  | nil =>
    rw [Text.breakOn?] at h
    split_ifs at h
    cases h
    exact List.suffix_rfl
  | cons c t ih =>
    rw [Text.breakOn?] at h
    split at h
    · next after hafter =>
      cases h
      exact suffix_of_dropHead? hafter
    · obtain ⟨⟨before, after⟩, hafter, heq⟩ := Option.map_eq_some_iff.1 h
      cases heq
      exact (ih hafter).trans (List.suffix_cons c t)

theorem leaves_takeUntil (mark : Text) (multiline : Bool) (t : Text) :
    Leaves Prod.snd t (takeUntil mark multiline t) := by
  unfold takeUntil
  split
  · trivial
  · next inside after hafter =>
    split
    · exact suffix_of_breakOn? hafter
    · trivial

theorem takeExtraQuotes_suffix (quote : Char) (t rest : Text) :
    (takeExtraQuotes quote t rest).2 <:+ rest := by
  unfold takeExtraQuotes
  split
  · split_ifs
    · exact ⟨[_, _], rfl⟩
    · exact List.suffix_cons _ _
    · exact List.suffix_rfl
  · split_ifs
    · exact List.nil_suffix
    · exact List.suffix_rfl
  · exact List.suffix_rfl

theorem dropNewline_suffix (t : Text) : dropNewline t <:+ t := by
  unfold dropNewline
  split
  · exact List.suffix_cons _ _
  · exact List.suffix_rfl

theorem leaves_takeBasic (t : Text) : Leaves Prod.snd t (takeBasic t) := leaves_basicFrom ..

theorem leaves_takeLiteral (t : Text) : Leaves Prod.snd t (takeLiteral t) := leaves_takeUntil ..

theorem leaves_takeLongBasic (t : Text) : Leaves Prod.snd t (takeLongBasic t) :=
  ((leaves_basicFrom ..).mono (dropNewline_suffix t)).bind fun _ => takeExtraQuotes_suffix ..

theorem leaves_takeLongLiteral (t : Text) : Leaves Prod.snd t (takeLongLiteral t) :=
  ((leaves_takeUntil ..).mono (dropNewline_suffix t)).bind fun _ => takeExtraQuotes_suffix ..

/-! ## Blanks, comments and keys -/

theorem skipBlanks_suffix (t : Text) : skipBlanks t <:+ t := List.dropWhile_suffix _

theorem leaves_skipCommentText (t : Text) : Leaves id t (skipCommentText t) := by
  induction t with
  | nil => exact List.suffix_rfl
  | cons c t ih =>
    rw [skipCommentText]
    split_ifs
    · exact List.suffix_rfl
    · trivial
    · exact ih.cons c

theorem leaves_skipComment (t : Text) : Leaves id t (skipComment t) := by
  unfold skipComment
  split
  · exact (leaves_skipCommentText _).cons _
  · exact List.suffix_rfl

theorem leaves_skipFillerFrom (inComment : Bool) (t : Text) :
    Leaves id t (skipFillerFrom inComment t) := by
  induction t generalizing inComment with
  | nil => cases inComment <;> exact List.suffix_rfl
  | cons c t ih =>
    cases inComment <;> rw [skipFillerFrom] <;> split_ifs
    all_goals first
      | exact (ih _).cons c
      | exact List.suffix_rfl
      | trivial

theorem leaves_skipFiller (t : Text) : Leaves id t (skipFiller t) := leaves_skipFillerFrom false t

theorem leaves_takeName (t : Text) : Leaves Prod.snd t (takeName t) := by
  unfold takeName
  split
  · exact (leaves_takeLiteral _).cons _
  · exact (leaves_takeBasic _).cons _
  · split
    · trivial
    · exact List.dropWhile_suffix _

theorem leaves_takeKeyWithin (fuel : Nat) (t : Text) :
    Leaves Prod.snd t (takeKeyWithin fuel t) := by
  induction fuel generalizing t with
  | zero => trivial
  | succ fuel ih =>
    refine (leaves_takeName t).bind fun ⟨name, rest⟩ => ?_
    refine Leaves.mono ?_ (skipBlanks_suffix rest)
    dsimp only
    split
    · next after heq =>
      rw [heq]
      exact (((ih _).mono (skipBlanks_suffix after)).pure _).cons _
    · exact List.suffix_rfl

theorem leaves_takeKey (t : Text) : Leaves Prod.snd t (takeKey t) := leaves_takeKeyWithin ..

theorem leaves_takeKeyEquals (t : Text) : Leaves Prod.snd t (takeKeyEquals t) := by
  refine (leaves_takeKey t).bind fun a => ?_
  split
  · exact (skipBlanks_suffix _).trans (List.suffix_cons _ _)
  · trivial

end Pinpoint.Toml
