import Pinpoint.Proofs.Failing
import Pinpoint.Template

/-!
# What stops a template

A template stops at its first piece that cannot be read or filled in. A piece that cannot be read
lies in the template itself, and can be told; so can whatever is wrong with the name of a field, or
with its conversion. What is asked of a value that it does not have, or that does not fit it, is
beyond telling. A layout that nobody can read can be told unless it holds a surrogate: the message
quotes it, and cannot be printed then.

* `Fault.IsTellable`: the faults that can be told.
* `Tellable`: no other fault comes of a result.
* `isTellable_of_broken_mem`, `tellable_lookUp`, `isTellable_of_broken_mem_accessors`,
  `tellable_convert`: what is wrong with the pieces of a template, with a name, on the way into a
  value, and with a conversion.
-/

namespace Pinpoint.Template

variable {α : Type} {t : Text} {fault : Fault}

/-! ## Specification -/

/-- A fault that can be told: it is not about a value, and its message is a text. -/
def Fault.IsTellable (fault : Fault) : Prop :=
  fault.isAboutValue = false ∧ fault.message.text?.isSome

/-- Every fault of a result can be told. -/
abbrev Tellable (r : Except Fault α) : Prop := FailsOnly Fault.IsTellable r

/-! ## Messages -/

/-- Messages are texts, except where they quote a layout that is none. -/
theorem isSome_text?_message (h : ∀ spec kind, fault ≠ .spec (.invalid spec kind)) :
    fault.message.text?.isSome := by
  cases fault with
  | spec fault =>
    cases fault with
    | invalid spec kind => exact absurd rfl (h spec kind)
    | tooLong => rfl
    | _ =>
      simp only [Fault.message, SpecFault.message, Points.isSome_text?_append,
        Points.text?_points, Option.isSome_some, Bool.and_self]
  | keyInto kind =>
    rw [Fault.message]
    split_ifs <;>
      simp only [Points.isSome_text?_append, Points.text?_points, Option.isSome_some,
        Bool.and_self]
  | _ =>
    simp only [Fault.message, Points.isSome_text?_append, Points.text?_points,
      Option.isSome_some, Bool.and_self]

theorem isSome_text?_message_invalid {spec : Points} {kind : Kind} :
    (Fault.spec (.invalid spec kind)).message.text?.isSome = spec.text?.isSome := by
  simp [Fault.message, SpecFault.message, Points.isSome_text?_append]

/-- What can be told of a fault, if it quotes no layout. -/
theorem isTellable_iff (h : ∀ spec kind, fault ≠ .spec (.invalid spec kind)) :
    fault.IsTellable ↔ fault.isAboutValue = false :=
  and_iff_left (isSome_text?_message h)

theorem isTellable_invalid_iff {spec : Points} {kind : Kind} :
    (Fault.spec (.invalid spec kind)).IsTellable ↔ spec.text?.isSome := by
  rw [Fault.IsTellable, isSome_text?_message_invalid]
  exact and_iff_right rfl

/-- What is unknown is not asked of a value. -/
theorem isTellable_of_isUnknown (h : fault.isUnknown = true) : fault.IsTellable := by
  cases fault <;> first
    | exact (isTellable_iff (by simp)).2 rfl
    | cases h

/-! ## Results -/

theorem not_tellable_error (h : fault.isAboutValue = true) :
    ¬ Tellable (.error fault : Except Fault α) := by
  rw [not_failsOnly_error_iff]
  rintro ⟨hvalue, -⟩
  cases h.symm.trans hvalue

/-! ## Reading fields -/

theorem tellable_takeName (b : Bool) (t : Text) : Tellable (takeName b t) := by
  induction t generalizing b with
  | nil => cases b <;> exact failsOnly_error ⟨rfl, rfl⟩
  | cons c t ih =>
    cases b with
    | true => exact (ih _).bind fun _ => failsOnly_ok _
    | false =>
      rw [takeName]
      split_ifs
      · exact failsOnly_error ⟨rfl, rfl⟩
      · exact failsOnly_ok _
      · exact (ih _).bind fun _ => failsOnly_ok _

theorem tellable_takeSpec (depth : Nat) (t : Text) : Tellable (takeSpec depth t) := by
  induction t generalizing depth with
  | nil => exact failsOnly_error ⟨rfl, rfl⟩
  | cons c t ih =>
    rw [takeSpec]
    split_ifs
    · exact failsOnly_ok _
    all_goals exact (ih _).bind fun _ => failsOnly_ok _

theorem tellable_takeConversion (name t : Text) : Tellable (takeConversion name t) := by
  rw [takeConversion.eq_def]
  split
  · exact failsOnly_error ⟨rfl, rfl⟩
  · exact failsOnly_error ⟨rfl, rfl⟩
  · next c d rest =>
    extract_lets conversion
    split_ifs
    · exact failsOnly_ok _
    · exact (tellable_takeSpec 0 rest).bind fun _ => failsOnly_ok _
    · exact failsOnly_error ⟨rfl, rfl⟩

theorem tellable_takeField (t : Text) : Tellable (takeField t) := by
  refine (tellable_takeName false t).bind fun a => ?_
  dsimp only
  split_ifs
  · exact tellable_takeConversion a.1 a.2.2
  · exact (tellable_takeSpec 0 a.2.2).bind fun _ => failsOnly_ok _
  · exact failsOnly_ok _

/-- What is wrong with a piece that cannot be read can be told. -/
theorem isTellable_of_broken_mem (h : .broken fault ∈ pieces t) : fault.IsTellable := by
  fun_induction pieces t
  case case1 => cases h
  case case2 | case7 =>
    cases List.mem_singleton.1 h
    exact ⟨rfl, rfl⟩
  case case4 hfield =>
    cases List.mem_singleton.1 h
    exact tellable_takeField _ _ hfield
  case case3 ih | case5 ih | case6 ih | case8 ih => exact ih (by simpa using h)

/-! ## Names and conversions -/

theorem takeCount_error {p : Points} {fault : SpecFault} (h : takeCount p = .error fault) :
    fault = .tooManyDigits := by
  rw [takeCount] at h
  dsimp only at h
  split_ifs at h
  cases h
  rfl

theorem tellable_index? (t : Text) : Tellable (index? t) := by
  rw [index?]
  split
  · next fault hcount =>
    rw [takeCount_error hcount]
    exact failsOnly_error ⟨rfl, rfl⟩
  · exact failsOnly_ok _
  · exact failsOnly_ok _

theorem tellable_lookUp (values : Values) (first : Text) : Tellable (lookUp values first) := by
  rw [lookUp]
  split_ifs
  · exact failsOnly_error (isTellable_of_isUnknown rfl)
  · refine (tellable_index? first).bind fun n => ?_
    cases n with
    | some n => exact failsOnly_error (isTellable_of_isUnknown rfl)
    | none =>
      dsimp only
      split
      · exact failsOnly_ok _
      · exact failsOnly_error (isTellable_of_isUnknown rfl)

/-- What is wrong with an accessor that cannot be read can be told. -/
theorem isTellable_of_broken_mem_accessors (h : .broken fault ∈ accessors t) :
    fault.IsTellable := by
  fun_induction accessors t
  case case1 => cases h
  case case2 | case5 | case6 =>
    cases List.mem_singleton.1 h
    exact ⟨rfl, rfl⟩
  case case3 ih => exact ih (by simpa using h)
  case case4 rest _ ih =>
    rcases List.mem_cons.1 h with hbracket | hrest
    · rw [bracketAccessor] at hbracket
      split at hbracket
      · next hindex =>
        cases hbracket
        exact tellable_index? _ _ hindex
      · cases hbracket
      · split_ifs at hbracket
        cases hbracket
        exact ⟨rfl, rfl⟩
    · exact ih hrest

theorem tellable_convert (memory : Memory) (v : Value) (conversion : Option Char) :
    Tellable (v.convert memory conversion) := by
  rw [Value.convert.eq_def]
  split
  · exact failsOnly_ok _
  · exact failsOnly_ok _
  · exact failsOnly_ok _
  · exact failsOnly_ok _
  · exact failsOnly_error ((isTellable_iff (by simp)).2 rfl)

end Pinpoint.Template
