import Pinpoint.Proofs.Editor.Substitution

/-!
# Templates that ask for a member

A name in braces may be followed by a dot and the name of a member. Whether the template can be
reported then is a matter of the members of texts and of numbers alone, and neither of the specifier
nor of the other words.

* `crashes_member_iff`: such a template is beyond a report exactly if there is no such member.
-/

namespace Pinpoint.Editor

open Template (Memory Value accessors fill fillPiece fillWithin pieces)

variable {memory : Memory} {s : Specifier} {template name : Text} {p : Placeholder}
  {front back : List Part}

/-- A word with a name, a dot and the name of a member in braces. -/
def writtenMember (front : List Part) (p : Placeholder) (name : Text) (back : List Part) : Text :=
  written front ++ '\x7b' :: (p.name ++ '.' :: (name ++ '\x7d' :: written back))

/-- A name that means nothing else in a field. -/
def IsMemberName (name : Text) : Prop :=
  name ≠ [] ∧ ∀ c ∈ name, c ∉ ['\x7b', '\x7d', ':', '!', '[', '.']

/-! ## Reading such a word -/

theorem pieces_writtenMember (h : IsMemberName name) :
    pieces (writtenMember front p name back) = front.flatMap Part.pieces ++
      .field { name := p.name ++ '.' :: name } :: back.flatMap Part.pieces := by
  have hname : ∀ c ∈ p.name ++ '.' :: name, c ∉ ['\x7b', '\x7d', ':', '!', '['] := by
    intro c hc
    rcases List.mem_append.1 hc with hp | hmember
    · exact (p.notMem_of_mem_name c hp).1
    · rcases List.mem_cons.1 hmember with rfl | hc
      · decide
      · have hplain := h.2 c hc
        simp only [List.mem_cons, not_or] at hplain ⊢
        tauto
  have hback := pieces_written back []
  rw [List.append_nil, show pieces [] = [] by rw [pieces], List.append_nil] at hback
  have hfield := pieces_name hname (by simp) (written back)
  rw [List.append_assoc, List.cons_append] at hfield
  rw [writtenMember, pieces_written, hfield, hback]

/-- The way into the value is this one member. -/
theorem parse_member (h : IsMemberName name) :
    Template.Name.parse (p.name ++ '.' :: name) = ⟨p.name, [.attribute name]⟩ := by
  have hplain : ∀ c ∈ name, (!Template.startsAccessor c) = true := by
    intro c hc
    have hc := h.2 c hc
    simp only [List.mem_cons, not_or] at hc
    simp [Template.startsAccessor, hc]
  rw [p.parse_name rfl, accessors, if_pos rfl]
  simp only [List.takeWhile_eq_self_iff.2 hplain, List.dropWhile_eq_nil_iff.2 hplain]
  rw [if_neg h.1, accessors]

/-! ## Filling it in -/

/-- The values of names are texts and numbers, so that their kinds alone tell what they refuse. -/
theorem Placeholder.refuses_iff (p : Placeholder) {v : Value} (hkind : v.kindOf = p.kind) :
    v.Refuses (.attribute name) ↔ p.kind.member? name = none := by
  have hplain : p.kind ≠ .kinds ∧ p.kind ≠ .generic := by cases p <;> decide
  rw [← hkind] at hplain ⊢
  exact Value.refuses_attribute_iff hplain.1 hplain.2

/-- Where there is such a member, the word is filled in. -/
theorem exists_fill_writtenMember (h : IsMemberName name) (hmember : p.kind.member? name ≠ none) :
    ∃ q, fill memory (values s) (writtenMember front p name back) = .ok q := by
  obtain ⟨v, hlookUp, -, hkind⟩ := p.exists_lookUp memory s
  have hrefuses : ¬ v.Refuses (.attribute name) := (p.refuses_iff hkind).not.2 hmember
  obtain ⟨-, w, hw⟩ := (Value.attributeNamed_cases v name).resolve_right fun h => hrefuses h.1
  have hfield : fillPiece memory (values s) (fillWithin memory (values s) 1)
      (.field { name := p.name ++ '.' :: name }) = .ok (Text.points (w.plain memory)) := by
    have hvalue : (Template.Name.parse (p.name ++ '.' :: name)).value (values s) = .ok w := by
      rw [parse_member h, Template.Name.value, hlookUp]
      exact (bind_pure _).trans hw
    rw [fillPiece, hvalue]
    rfl
  obtain ⟨before, hfront, -⟩ :=
    fillPieces_written memory s (fillWithin memory (values s) 1) front
  obtain ⟨after, hback, -⟩ :=
    fillPieces_written memory s (fillWithin memory (values s) 1) back
  refine ⟨(before ++ Text.points (w.plain memory) :: after).flatten, ?_⟩
  rw [fill, fillWithin, pieces_writtenMember h, List.mapM_append, hfront, List.mapM_cons, hfield,
    hback]
  rfl

/-- Where there is no such member, the word asks for too much. -/
theorem overreaches_writtenMember (h : IsMemberName name) (hmember : p.kind.member? name = none) :
    Template.Overreaches memory (values s) 2 (writtenMember front p name back) := by
  obtain ⟨v, hlookUp, -, hkind⟩ := p.exists_lookUp memory s
  have hcomes : Template.ComesTo memory (values s) 1 (writtenMember front p name back)
      { name := p.name ++ '.' :: name } := by
    obtain ⟨ps, hps, -⟩ := fillPieces_written memory s (fillWithin memory (values s) 1) front
    exact ⟨_, _, pieces_writtenMember h, exists_mapM_ok_iff.1 ⟨ps, hps⟩⟩
  have hrefuses : v.Refuses (.attribute name) := (p.refuses_iff hkind).2 hmember
  have hpath : (Template.Name.parse (p.name ++ '.' :: name)).path = [] ++ [.attribute name] := by
    rw [parse_member h]
    rfl
  refine .accessor hcomes ?_ hpath rfl hrefuses
  rw [parse_member h]
  exact hlookUp

/-- **Members.** Where one word of a template asks for a member of a value, and otherwise the words
    are put together from text without braces, doubled braces and names in braces, the template is
    beyond a report exactly if the kind of the value has no member of that name. -/
theorem crashes_member_iff {before after : List (List Part)} (hblank : Text.trim template ≠ [])
    (hname : IsMemberName name)
    (hwords : Shell.words template =
      .ok (before.map written ++ writtenMember front p name back :: after.map written)) :
    Crashes memory s (.text template) ↔ p.kind.member? name = none := by
  have hwritten : ∀ parts, ∃ q, fill memory (values s) (written parts) = .ok q := fun parts =>
    ⟨_, fill_written memory s parts⟩
  constructor
  · intro hcrash
    by_contra hmember
    cases hcrash with
    | noText hno => exact absurd rfl (hno template)
    | @word _ word _ _ _ hwords' _ hword =>
      have hmem : word ∈ before.map written ++ writtenMember front p name back ::
          after.map written := by
        rw [Except.ok.inj (hwords.symm.trans hwords')]
        exact List.mem_append_cons_self
      obtain ⟨q, hq⟩ : ∃ q, fill memory (values s) word = .ok q := by
        rcases List.mem_append.1 hmem with hbefore | hrest
        · obtain ⟨parts, -, rfl⟩ := List.mem_map.1 hbefore
          exact hwritten parts
        · rcases List.mem_cons.1 hrest with rfl | hafter
          · exact exists_fill_writtenMember hname hmember
          · obtain ⟨parts, -, rfl⟩ := List.mem_map.1 hafter
            exact hwritten parts
      refine Template.not_tellable_fillWithin_iff.2 hword ?_
      rw [fill] at hq
      rw [hq]
      exact failsOnly_ok q
  · intro hmember
    refine .word hblank hwords ?_ (overreaches_writtenMember hname hmember)
    intro w hw
    obtain ⟨parts, -, rfl⟩ := List.mem_map.1 hw
    exact hwritten parts

end Pinpoint.Editor
