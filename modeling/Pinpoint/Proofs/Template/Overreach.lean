import Pinpoint.Proofs.Template.Accessors
import Pinpoint.Proofs.Template.Layout

/-!
# Templates that ask for too much

A template stops beyond telling at a field, and all before that field can be filled in. On the way
into its value an accessor is refused, or the layout is none for the value, or the layout asks for
too much itself, being a template of its own, or the layout holds a surrogate and nobody can read
it.

* `Overreaches`: such a template.
* `not_tellable_fillWithin_iff`: a template stops beyond telling exactly if it is one.
* `exists_not_isPlain_of_overreaches`: it has a field that is more than a name and a conversion.
-/

namespace Pinpoint.Template

variable {memory : Memory} {values : Values} {depth : Nat} {t : Text} {f : Field}

/-! ## Specification -/

/-- The value of a field, converted. -/
def Field.value (memory : Memory) (values : Values) (f : Field) : Except Fault Value := do
  (← (Name.parse f.name).value values).convert memory f.conversion

/-- The layout of a field, filled in if it holds fields itself. -/
def Field.layout (memory : Memory) (values : Values) (depth : Nat) (f : Field) :
    Except Fault Points :=
  if f.isNested then fillWithin memory values depth f.spec else pure f.spec.points

/-- A template comes to a field: whatever stands before it can be filled in. -/
def ComesTo (memory : Memory) (values : Values) (depth : Nat) (t : Text) (f : Field) : Prop :=
  ∃ before after, pieces t = before ++ .field f :: after ∧
    ∀ piece ∈ before, ∃ p,
      fillPiece memory values (fillWithin memory values depth) piece = .ok p

/-- A template asks for too much: it comes to a field whose value cannot be had for want of what an
    accessor asks for, or whose layout asks for too much itself, does not fit the value, or can
    neither be read nor be quoted. -/
inductive Overreaches (memory : Memory) (values : Values) : Nat → Text → Prop
  | accessor {depth : Nat} {t : Text} {f : Field} {first v : Value} {before after : List Accessor}
      {a : Accessor} (hcomes : ComesTo memory values depth t f)
      (hfirst : lookUp values (Name.parse f.name).first = .ok first)
      (hpath : (Name.parse f.name).path = before ++ a :: after)
      (hbefore : before.foldlM Value.access first = .ok v) (hrefuses : v.Refuses a) :
      Overreaches memory values (depth + 1) t
  | nested {depth : Nat} {t : Text} {f : Field} {v : Value}
      (hcomes : ComesTo memory values depth t f) (hvalue : f.value memory values = .ok v)
      (hnested : f.isNested = true) (hspec : Overreaches memory values depth f.spec) :
      Overreaches memory values (depth + 1) t
  | layout {depth : Nat} {t : Text} {f : Field} {v : Value} {spec : Points}
      (hcomes : ComesTo memory values depth t f) (hvalue : f.value memory values = .ok v)
      (hspec : f.layout memory values depth = .ok spec)
      (hmisfits : v.Misfits memory spec ∨ Spec.Unquotable v.kindOf spec) :
      Overreaches memory values (depth + 1) t

/-- A field that takes a value as a whole, as it is: its name has no accessors, and it has no
    layout. -/
def Field.IsPlain (f : Field) : Prop := (Name.parse f.name).path = [] ∧ f.spec = []

/-! ## Fields -/

theorem fillPiece_field (memory : Memory) (values : Values) (depth : Nat) (f : Field) :
    fillPiece memory values (fillWithin memory values depth) (.field f) =
      f.value memory values >>= fun v => f.layout memory values depth >>= v.layout memory := by
  rw [fillPiece, Field.value, bind_assoc]
  unfold Field.layout
  cases f.isNested <;> rfl

/-- The value of a field cannot be had, beyond telling, exactly if an accessor is refused. -/
theorem not_tellable_value_iff :
    ¬ Tellable (f.value memory values) ↔
      ∃ first before a after v, lookUp values (Name.parse f.name).first = .ok first ∧
        (Name.parse f.name).path = before ++ a :: after ∧
        before.foldlM Value.access first = .ok v ∧ v.Refuses a := by
  have hbroken : ∀ a ∈ (Name.parse f.name).path, ∀ fault, a = .broken fault → fault.IsTellable := by
    rintro _ ha fault rfl
    exact isTellable_of_broken_mem_accessors ha
  rw [Field.value, Name.value, not_failsOnly_bind_iff, or_iff_left, not_failsOnly_bind_iff,
    or_iff_right (not_not_intro (tellable_lookUp _ _))]
  · simp only [not_failsOnly_foldlM_iff]
    constructor
    · rintro ⟨first, hfirst, before, a, after, v, hpath, hbefore, ha⟩
      refine ⟨first, before, a, after, v, hfirst, hpath, hbefore, ?_⟩
      exact (Value.not_tellable_access_iff (hbroken a (by simp [hpath]))).1 ha
    · rintro ⟨first, before, a, after, v, hfirst, hpath, hbefore, ha⟩
      refine ⟨first, hfirst, before, a, after, v, hpath, hbefore, ?_⟩
      exact (Value.not_tellable_access_iff (hbroken a (by simp [hpath]))).2 ha
  · rintro ⟨v, -, hconvert⟩
    exact hconvert (tellable_convert memory v f.conversion)

/-- The layout of a field cannot be had, beyond telling, if it is a template that cannot. -/
theorem not_tellable_fieldLayout_iff :
    ¬ Tellable (f.layout memory values depth) ↔
      f.isNested = true ∧ ¬ Tellable (fillWithin memory values depth f.spec) := by
  rw [Field.layout]
  split_ifs with hnested
  · exact (and_iff_right hnested).symm
  · exact iff_of_false (not_not_intro (failsOnly_ok _)) fun h => hnested h.1

/-! ## Templates -/

/-- A template stops beyond telling at a field, if it does. -/
theorem not_tellable_fillWithin_succ_iff :
    ¬ Tellable (fillWithin memory values (depth + 1) t) ↔
      ∃ f, ComesTo memory values depth t f ∧
        ¬ Tellable (fillPiece memory values (fillWithin memory values depth) (.field f)) := by
  rw [fillWithin, not_failsOnly_bind_iff, or_iff_left, not_failsOnly_mapM_iff]
  · constructor
    · rintro ⟨before, piece, after, hpieces, hbefore, hpiece⟩
      have hmem : piece ∈ pieces t := by simp [hpieces]
      cases piece with
      | char c => exact absurd (failsOnly_ok _) hpiece
      | broken fault => exact absurd (failsOnly_error (isTellable_of_broken_mem hmem)) hpiece
      | field f => exact ⟨f, ⟨before, after, hpieces, hbefore⟩, hpiece⟩
    · rintro ⟨f, ⟨before, after, hpieces, hbefore⟩, hfield⟩
      exact ⟨before, .field f, after, hpieces, hbefore, hfield⟩
  · rintro ⟨ps, -, hflatten⟩
    exact hflatten (failsOnly_ok _)

/-- **Asking for too much.** A template stops beyond telling exactly if it asks for too much. -/
theorem not_tellable_fillWithin_iff :
    ¬ Tellable (fillWithin memory values depth t) ↔ Overreaches memory values depth t := by
  induction depth generalizing t with
  | zero =>
    refine iff_of_false (not_not_intro (failsOnly_error ⟨rfl, rfl⟩)) ?_
    rintro ⟨⟩
  | succ depth ih =>
    simp only [not_tellable_fillWithin_succ_iff, fillPiece_field, not_failsOnly_bind_iff,
      not_tellable_value_iff, not_tellable_fieldLayout_iff, not_tellable_layout_iff, ih]
    constructor
    · rintro ⟨f, hcomes, ⟨first, before, a, after, v, hfirst, hpath, hbefore, hrefuses⟩ |
        ⟨v, hvalue, ⟨hnested, hspec⟩ | ⟨spec, hspec, hmisfits⟩⟩⟩
      · exact .accessor hcomes hfirst hpath hbefore hrefuses
      · exact .nested hcomes hvalue hnested hspec
      · exact .layout hcomes hvalue hspec hmisfits
    · rintro (⟨hcomes, hfirst, hpath, hbefore, hrefuses⟩ | ⟨hcomes, hvalue, hnested, hspec⟩ |
        ⟨hcomes, hvalue, hspec, hmisfits⟩)
      · exact ⟨_, hcomes, .inl ⟨_, _, _, _, _, hfirst, hpath, hbefore, hrefuses⟩⟩
      · exact ⟨_, hcomes, .inr ⟨_, hvalue, .inl ⟨hnested, hspec⟩⟩⟩
      · exact ⟨_, hcomes, .inr ⟨_, hvalue, .inr ⟨_, hspec, hmisfits⟩⟩⟩

/-- A template that asks for too much has a field that is not plain. -/
theorem exists_not_isPlain_of_overreaches (h : Overreaches memory values depth t) :
    ∃ f, .field f ∈ pieces t ∧ ¬ f.IsPlain := by
  have hmem {depth : Nat} {t : Text} {f : Field} (hcomes : ComesTo memory values depth t f) :
      .field f ∈ pieces t := by
    obtain ⟨before, after, hpieces, -⟩ := hcomes
    simp [hpieces]
  cases h with
  | accessor hcomes _ hpath =>
    refine ⟨_, hmem hcomes, ?_⟩
    rintro ⟨hnone, -⟩
    simp [hnone] at hpath
  | nested hcomes _ hnested =>
    refine ⟨_, hmem hcomes, ?_⟩
    rintro ⟨-, hnone⟩
    rw [Field.isNested, hnone] at hnested
    cases hnested
  | layout hcomes _ hspec hmisfits =>
    refine ⟨_, hmem hcomes, ?_⟩
    rintro ⟨-, hnone⟩
    rw [Field.layout, Field.isNested, hnone] at hspec
    cases hspec
    exact not_misfits_nil hmisfits

end Pinpoint.Template
