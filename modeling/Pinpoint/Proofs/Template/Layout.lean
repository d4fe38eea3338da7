import Pinpoint.Proofs.Template.Faults

/-!
# Layouts that values do not fit

A value can be written in a layout, the layout is refused for a reason that can be told, or the
value is too much for it: kinds other than texts and numbers have no layouts at all, a number may be
too large for a layout in which others can be written, and the memory may have no room for what is
asked for. There is one reason that cannot be told, because it quotes a layout that holds a
surrogate.

* `Value.Misfits`: a value is too much for a layout.
* `Spec.Unquotable`: nobody can read a layout, and a surrogate in it is in the way of saying so.
* `not_tellable_layout_iff`: writing a value in a layout fails beyond telling exactly then.
-/

namespace Pinpoint.Template

variable {memory : Memory} {v : Value} {spec : Points} {s : Spec}

/-! ## Specification -/

/-- The memory holds no text of a size that is asked for. -/
def Memory.LacksRoom (memory : Memory) (size : Option Nat) : Prop :=
  ∃ n, size = some n ∧ memory.holds n = false

namespace Spec

/-- A layout in which whole numbers can be written, or the code points of some. -/
structure WritesWhole (s : Spec) : Prop where
  type : s.type ∈ "bcdoxXn".toList
  precision : s.precision = none
  noNegativeZero : s.noNegativeZero = false
  plain : s.type = 'c' → s.sign = none ∧ s.alternate = false

/-- A layout in which floats can be written. -/
structure WritesFloat (s : Spec) : Prop where
  type : s.type ∈ "eEfFgG%".toList
  precision : s.precision.all (· < 0x80000000) = true

/-- A number is too much for a layout in which others can be written: no code point has it, no
    float is near it, or there is no room. -/
inductive Exceeds (memory : Memory) (s : Spec) (n : Int) : Prop
  | codePoint (hwrites : s.WritesWhole) (htype : s.type = 'c') (hrange : n < 0 ∨ 0x10FFFF < n)
  | infinite (htype : s.type ∈ "eEfFgG%".toList)
      (hfloat : Decimal.Binary64.ofRatio false n.natAbs 1 = .infinite false)
  | whole (hwrites : s.WritesWhole) (hroom : memory.LacksRoom s.width)
  | float (hwrites : s.WritesFloat)
      (hroom : memory.LacksRoom s.width ∨ memory.LacksRoom s.precision)

end Spec

/-- A layout is none for a value, or the value is too much for it. -/
inductive Value.Misfits (memory : Memory) : Value → Points → Prop
  | noLayout {v : Value} {spec : Points} (hspec : spec ≠ []) (htext : ∀ t, v ≠ .text t)
      (hnumber : v.number? = none) : Misfits memory v spec
  | text {t : Text} {spec : Points} {s : Spec} (hparse : Spec.parse .text spec = .ok s)
      (hwrites : s.textFault? = none) (hroom : memory.LacksRoom s.width) :
      Misfits memory (.text t) spec
  | number {v : Value} {n : Int} {spec : Points} {s : Spec} (hnumber : v.number? = some n)
      (hparse : Spec.parse v.kindOf spec = .ok s) (hexceeds : s.Exceeds memory n) :
      Misfits memory v spec

/-- A layout for a text or a number that nobody can read, and that cannot even be quoted. -/
structure Spec.Unquotable (kind : Kind) (spec : Points) : Prop where
  hasLayouts : kind = .text ∨ kind.isNumber = true
  unreadable : Spec.parse kind spec = .error (.invalid spec kind)
  surrogate : spec.text? = none

/-! ## Reading a layout -/

/-- The only fault of a layout that may not be told is that nobody can read it. -/
theorem failsOnly_parse (kind : Kind) (spec : Points) :
    FailsOnly (fun fault => fault = .invalid spec kind ∨ (Fault.spec fault).IsTellable)
      (Spec.parse kind spec) := by
  have hcount (t : Points) : FailsOnly
      (fun fault => fault = .invalid spec kind ∨ (Fault.spec fault).IsTellable) (takeCount t) := by
    intro fault h
    rw [takeCount_error h]
    exact .inr ⟨rfl, rfl⟩
  rw [Spec.parse]
  dsimp only
  refine (hcount _).bind fun width => FailsOnly.bind ?grouping fun grouping =>
    FailsOnly.bind ?precision fun precision => FailsOnly.bind ?type fun type =>
    FailsOnly.bind ?groups fun _ => FailsOnly.bind ?letter fun _ => failsOnly_ok _
  case grouping =>
    rw [takeGrouping]
    dsimp only
    split_ifs
    · exact failsOnly_error (.inr ⟨rfl, rfl⟩)
    · exact failsOnly_error (.inr ⟨rfl, rfl⟩)
    all_goals exact failsOnly_ok _
  case precision =>
    rw [takePrecision]
    dsimp only
    split_ifs
    · refine (hcount _).bind fun count => ?_
      split
      · exact failsOnly_error (.inr ⟨rfl, rfl⟩)
      · exact failsOnly_ok _
    · exact failsOnly_ok _
  case type =>
    rw [Spec.takeType.eq_def]
    split
    · exact failsOnly_ok _
    · exact failsOnly_ok _
    · exact failsOnly_error (.inl rfl)
  case groups =>
    rw [Spec.ensureGroups.eq_def]
    split
    · split_ifs
      · exact failsOnly_ok _
      · exact failsOnly_error (.inr ((isTellable_iff (by simp)).2 rfl))
    · exact failsOnly_ok _
  case letter =>
    rw [Spec.letterOf.eq_def]
    split
    · exact failsOnly_ok _
    · exact failsOnly_error (.inr ((isTellable_iff (by simp)).2 rfl))

/-- What is wrong with reading a layout cannot be told only if it cannot be quoted. -/
theorem not_tellable_parse_iff {kind : Kind} :
    ¬ Tellable ((Spec.parse kind spec).mapError .spec) ↔
      Spec.parse kind spec = .error (.invalid spec kind) ∧ spec.text? = none := by
  cases hparse : Spec.parse kind spec with
  | ok s => exact iff_of_false (not_not_intro (failsOnly_ok _)) (by simp)
  | error fault =>
    change ¬ Tellable (.error (.spec fault) : Except Fault Spec) ↔ _
    rw [not_failsOnly_error_iff]
    constructor
    · intro hnot
      obtain rfl := (failsOnly_parse kind spec fault hparse).resolve_right hnot
      rw [isTellable_invalid_iff] at hnot
      exact ⟨rfl, by simpa using hnot⟩
    · rintro ⟨hfault, hsurrogate⟩
      cases hfault
      rw [isTellable_invalid_iff, hsurrogate]
      exact Bool.false_ne_true

/-! ## Writing in a layout -/

theorem tellable_pure (p : Points) :
    Tellable ((pure p : Except SpecFault Points).mapError .spec) := failsOnly_ok p

/-- What goes wrong is that there is no room, or what comes after that. -/
theorem not_tellable_room_iff {size : Option Nat} {rest : Except SpecFault Points} :
    ¬ Tellable ((ensureFits memory.holds size >>= fun _ => rest).mapError .spec) ↔
      memory.LacksRoom size ∨ ¬ Tellable (rest.mapError .spec) := by
  rw [ensureFits, Memory.LacksRoom]
  by_cases hholds : size.all memory.holds = true
  · have hroom : ¬ ∃ n, size = some n ∧ memory.holds n = false := by
      rintro ⟨n, rfl, hn⟩
      exact Bool.false_ne_true (hn.symm.trans (by simpa using hholds))
    rw [if_pos hholds, or_iff_right hroom]
    rfl
  · have hroom : ∃ n, size = some n ∧ memory.holds n = false := by
      cases size with
      | none => exact absurd rfl hholds
      | some n => exact ⟨n, rfl, by simpa using hholds⟩
    rw [if_neg hholds]
    exact iff_of_true (not_tellable_error rfl) (.inl hroom)

theorem isTellable_textFault {fault : SpecFault} (h : s.textFault? = some fault) :
    (Fault.spec fault).IsTellable := by
  rw [Spec.textFault?] at h
  split_ifs at h
  all_goals
    cases h
    exact (isTellable_iff (by simp)).2 rfl

/-- A text is too much for a layout only for want of room. -/
theorem not_tellable_layoutText_iff {t : Text} :
    ¬ Tellable ((s.layoutText memory.holds t).mapError .spec) ↔
      s.textFault? = none ∧ memory.LacksRoom s.width := by
  rw [Spec.layoutText]
  cases hfault : s.textFault? with
  | some fault =>
    exact iff_of_false (not_not_intro (failsOnly_error (isTellable_textFault hfault))) (by simp)
  | none =>
    dsimp only
    rw [not_tellable_room_iff, or_iff_left (not_not_intro (tellable_pure _))]
    exact (and_iff_right rfl).symm

/-- A number that no code point has is too much, and any other one for want of room. -/
theorem not_tellable_layoutCharacter_iff {n : Int} (htype : s.type = 'c') :
    ¬ Tellable ((s.layoutCharacter memory.holds n).mapError .spec) ↔
      (s.sign = none ∧ s.alternate = false) ∧
        (s.type = 'c' ∧ (n < 0 ∨ 0x10FFFF < n) ∨ memory.LacksRoom s.width) := by
  rw [Spec.layoutCharacter]
  split_ifs with hsign halternate hlarge hrange
  · refine iff_of_false (not_not_intro (failsOnly_error ⟨rfl, rfl⟩)) ?_
    rintro ⟨⟨hnone, -⟩, -⟩
    rw [hnone] at hsign
    cases hsign
  · refine iff_of_false (not_not_intro (failsOnly_error ⟨rfl, rfl⟩)) ?_
    rintro ⟨⟨-, hnone⟩, -⟩
    cases halternate.symm.trans hnone
  all_goals
    have hplain : s.sign = none ∧ s.alternate = false := by simp_all
  · exact iff_of_true (not_tellable_error rfl) ⟨hplain, .inl ⟨htype, by omega⟩⟩
  · exact iff_of_true (not_tellable_error rfl) ⟨hplain, .inl ⟨htype, hrange⟩⟩
  · rw [not_tellable_room_iff, or_iff_left (not_not_intro (tellable_pure _)), and_iff_right hplain,
      or_iff_right fun h => hrange h.2]

/-- Whole numbers and code points are too much for a layout for want of room, and numbers that no
    code point has. -/
theorem not_tellable_layoutWhole_iff {n : Int} (htype : s.type ∈ "bcdoxXn".toList) :
    ¬ Tellable ((s.layoutWhole memory.holds n).mapError .spec) ↔
      s.WritesWhole ∧ (s.type = 'c' ∧ (n < 0 ∨ 0x10FFFF < n) ∨ memory.LacksRoom s.width) := by
  rw [Spec.layoutWhole]
  split_ifs with hprecision hzero hcharacter
  · refine iff_of_false (not_not_intro (failsOnly_error ⟨rfl, rfl⟩)) ?_
    rintro ⟨⟨-, hnone, -, -⟩, -⟩
    rw [hnone] at hprecision
    cases hprecision
  · refine iff_of_false (not_not_intro (failsOnly_error ⟨rfl, rfl⟩)) ?_
    rintro ⟨⟨-, -, hnone, -⟩, -⟩
    cases hzero.symm.trans hnone
  · have hwrites : s.WritesWhole ↔ s.sign = none ∧ s.alternate = false := by
      constructor
      · exact fun h => h.plain hcharacter
      · exact fun h => ⟨htype, by simpa using hprecision, by simpa using hzero, fun _ => h⟩
    rw [hwrites]
    exact not_tellable_layoutCharacter_iff hcharacter
  · have hwrites : s.WritesWhole :=
      ⟨htype, by simpa using hprecision, by simpa using hzero, fun h => absurd h hcharacter⟩
    rw [not_tellable_room_iff, or_iff_left (not_not_intro (tellable_pure _)), and_iff_right hwrites,
      or_iff_right fun h => hcharacter h.1]

/-- A quotient is rounded to a float or to an infinity. -/
theorem ofRatio_cases (num den : Nat) :
    Decimal.Binary64.ofRatio false num den = .infinite false ∨
      ∃ m e, Decimal.Binary64.ofRatio false num den = .finite false m e := by
  rw [Decimal.Binary64.ofRatio]
  split_ifs
  · exact .inr ⟨_, _, rfl⟩
  · rw [Decimal.Binary64.roundAt]
    dsimp only
    exact (em _).elim (fun h => .inl (if_pos h)) fun h => .inr ⟨_, _, if_neg h⟩

/-- Numbers are too much for a layout that writes floats if they are rounded to an infinity, or for
    want of room. -/
theorem not_tellable_layoutFloat_iff {n : Int} (htype : s.type ∈ "eEfFgG%".toList) :
    ¬ Tellable ((s.layoutFloat memory.holds n).mapError .spec) ↔
      Decimal.Binary64.ofRatio false n.natAbs 1 = .infinite false ∨
        s.WritesFloat ∧ (memory.LacksRoom s.width ∨ memory.LacksRoom s.precision) := by
  rw [Spec.layoutFloat]
  obtain hfloat | ⟨m, e, hfloat⟩ := ofRatio_cases n.natAbs 1
  · rw [hfloat]
    exact iff_of_true (not_tellable_error rfl) (.inl rfl)
  · rw [hfloat, or_iff_right (by simp), wholeValue?]
    dsimp only
    by_cases hprecision : s.precision.any (0x80000000 ≤ ·) = true
    · rw [if_pos hprecision]
      refine iff_of_false (not_not_intro (failsOnly_error ⟨rfl, rfl⟩)) ?_
      rintro ⟨⟨-, hall⟩, -⟩
      cases hcount : s.precision <;> simp_all
      omega
    · have hwrites : s.WritesFloat := ⟨htype, by cases hcount : s.precision <;> simp_all⟩
      rw [if_neg hprecision, not_tellable_room_iff, not_tellable_room_iff,
        or_iff_left (not_not_intro (tellable_pure _)), and_iff_right hwrites]

/-- What is too much for a layout of whole numbers, or of floats. -/
theorem exceeds_iff {n : Int} :
    s.Exceeds memory n ↔
      s.type ∈ "bcdoxXn".toList ∧
          (s.WritesWhole ∧ (s.type = 'c' ∧ (n < 0 ∨ 0x10FFFF < n) ∨ memory.LacksRoom s.width)) ∨
        s.type ∈ "eEfFgG%".toList ∧
          (Decimal.Binary64.ofRatio false n.natAbs 1 = .infinite false ∨
            s.WritesFloat ∧ (memory.LacksRoom s.width ∨ memory.LacksRoom s.precision)) := by
  constructor
  · rintro (⟨hwrites, htype, hrange⟩ | ⟨htype, hfloat⟩ | ⟨hwrites, hroom⟩ | ⟨hwrites, hroom⟩)
    · exact .inl ⟨hwrites.type, hwrites, .inl ⟨htype, hrange⟩⟩
    · exact .inr ⟨htype, .inl hfloat⟩
    · exact .inl ⟨hwrites.type, hwrites, .inr hroom⟩
    · exact .inr ⟨hwrites.type, .inr ⟨hwrites, hroom⟩⟩
  · rintro (⟨-, hwrites, ⟨htype, hrange⟩ | hroom⟩ | ⟨htype, hfloat | ⟨hwrites, hroom⟩⟩)
    · exact .codePoint hwrites htype hrange
    · exact .whole hwrites hroom
    · exact .infinite htype hfloat
    · exact .float hwrites hroom

/-- A number fails beyond telling exactly in a layout that it is too much for. -/
theorem not_tellable_layoutNumber_iff {kind : Kind} {n : Int} :
    ¬ Tellable ((s.layoutNumber memory.holds kind n).mapError .spec) ↔ s.Exceeds memory n := by
  have hdisjoint : ∀ c ∈ "bcdoxXn".toList, c ∉ "eEfFgG%".toList := by decide
  rw [exceeds_iff, Spec.layoutNumber]
  simp only [List.contains_iff_mem]
  split_ifs with hwhole hfloat
  · rw [not_tellable_layoutWhole_iff hwhole]
    constructor
    · exact fun h => .inl ⟨hwhole, h⟩
    · rintro (⟨-, h⟩ | ⟨hfloat, -⟩)
      · exact h
      · exact absurd hfloat (hdisjoint _ hwhole)
  · rw [not_tellable_layoutFloat_iff hfloat]
    constructor
    · exact fun h => .inr ⟨hfloat, h⟩
    · rintro (⟨hwhole', -⟩ | ⟨-, h⟩)
      · exact absurd hwhole' hwhole
      · exact h
  · refine iff_of_false (not_not_intro (failsOnly_error ((isTellable_iff (by simp)).2 rfl))) ?_
    rintro (h | h)
    · exact hwhole h.1
    · exact hfloat h.1

/-- A value is written in a layout once that has been read. -/
theorem not_tellable_parse_bind_iff {kind : Kind} {f : Spec → Except SpecFault Points} :
    ¬ Tellable ((Spec.parse kind spec >>= f).mapError .spec) ↔
      (∃ s, Spec.parse kind spec = .ok s ∧ ¬ Tellable ((f s).mapError .spec)) ∨
        Spec.parse kind spec = .error (.invalid spec kind) ∧ spec.text? = none := by
  rw [← not_tellable_parse_iff]
  cases Spec.parse kind spec with
  | ok s =>
    change ¬ Tellable ((f s).mapError .spec) ↔ _
    simp [Except.mapError, failsOnly_ok]
  | error fault =>
    change ¬ Tellable (.error (.spec fault) : Except Fault Points) ↔
      _ ∨ ¬ Tellable (.error (.spec fault) : Except Fault Spec)
    simp [not_failsOnly_error_iff]

theorem isNumber_kindOf {n : Int} (h : v.number? = some n) : v.kindOf.isNumber = true := by
  cases v <;> first | rfl | cases h

/-- An empty layout is one that every text and every number fits. -/
theorem not_misfits_nil : ¬ (v.Misfits memory [] ∨ Spec.Unquotable v.kindOf []) := by
  have hparse (kind : Kind) : Spec.parse kind [] =
      .ok { align := Spec.defaultAlign kind, type := Spec.defaultType kind } := rfl
  have hroom : ¬ memory.LacksRoom none := by simp [Memory.LacksRoom]
  have hfloat : 'd' ∉ "eEfFgG%".toList := by decide
  rintro ((⟨hspec, -, -⟩ | ⟨hs, -, hlacks⟩ | ⟨hnumber, hs, hexceeds⟩) | ⟨-, hunreadable, -⟩)
  · exact hspec rfl
  · cases (hparse .text).symm.trans hs
    exact hroom hlacks
  · have hkind : Spec.defaultType v.kindOf = 'd' := if_pos (isNumber_kindOf hnumber)
    rw [hparse v.kindOf, hkind] at hs
    cases hs
    rcases hexceeds with ⟨-, htype, -⟩ | ⟨htype, -⟩ | ⟨-, hlacks⟩ | ⟨⟨htype, -⟩, -⟩
    · cases htype
    · exact hfloat htype
    · exact hroom hlacks
    · exact hfloat htype
  · cases (hparse v.kindOf).symm.trans hunreadable

/-- Writing a value in a layout fails beyond telling exactly if the layout is none for the value, or
    can neither be read nor be quoted. -/
theorem not_tellable_layout_iff :
    ¬ Tellable (v.layout memory spec) ↔
      v.Misfits memory spec ∨ Spec.Unquotable v.kindOf spec := by
  by_cases hspec : spec = []
  · rw [Value.layout.eq_def, if_pos hspec, hspec]
    exact iff_of_false (not_not_intro (failsOnly_ok _)) not_misfits_nil
  rw [Value.layout.eq_def, if_neg hspec]
  split
  · next t =>
    rw [not_tellable_parse_bind_iff]
    simp only [not_tellable_layoutText_iff]
    constructor
    · rintro (⟨s, hparse, hwrites, hroom⟩ | ⟨hunreadable, hsurrogate⟩)
      · exact .inl (.text hparse hwrites hroom)
      · exact .inr ⟨.inl rfl, hunreadable, hsurrogate⟩
    · rintro ((⟨-, htext, -⟩ | ⟨hparse, hwrites, hroom⟩ | ⟨hnumber, -⟩) |
        ⟨-, hunreadable, hsurrogate⟩)
      · exact absurd rfl (htext t)
      · exact .inl ⟨_, hparse, hwrites, hroom⟩
      · cases hnumber
      · exact .inr ⟨hunreadable, hsurrogate⟩
  · next n htext hnumber =>
    rw [not_tellable_parse_bind_iff]
    simp only [not_tellable_layoutNumber_iff]
    constructor
    · rintro (⟨s, hparse, hexceeds⟩ | ⟨hunreadable, hsurrogate⟩)
      · exact .inl (.number hnumber hparse hexceeds)
      · exact .inr ⟨.inr (isNumber_kindOf hnumber), hunreadable, hsurrogate⟩
    · rintro ((⟨-, -, hnone⟩ | - | ⟨hsome, hparse, hexceeds⟩) | ⟨-, hunreadable, hsurrogate⟩)
      · cases hnone.symm.trans hnumber
      · exact absurd rfl (htext _)
      · cases hsome.symm.trans hnumber
        exact .inl ⟨_, hparse, hexceeds⟩
      · exact .inr ⟨hunreadable, hsurrogate⟩
  · next htext hnone =>
    exact iff_of_true (not_tellable_error rfl) (.inl (.noLayout hspec htext hnone))

end Pinpoint.Template
