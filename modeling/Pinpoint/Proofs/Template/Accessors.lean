import Pinpoint.Proofs.Template.Faults

/-!
# What accessors ask for in vain

An accessor leads on from a value unless the value has nothing of that sort. Which attributes a
value has is a matter of the members of its kind, with two exceptions: what kinds are said to be
annotated with, and what is said to be abstract about them, is never set. That a text is too short
for a position, or that a table of members has no entry of a name, is another matter, and can be
told.

* `Kind.Lacks`: a kind has no attribute of a name.
* `Value.Refuses`: a value has nothing of the sort that an accessor asks for.
* `attributeNamed_cases`: an attribute is there, or it is refused.
* `not_tellable_access_iff`: an accessor fails beyond telling exactly where it is refused.
-/

namespace Pinpoint.Template

variable {v : Value} {name : Text} {k owner : Kind} {m : Member}

/-! ## Specification -/

/-- What kinds are said to have, but never do. -/
def neverSet : List Text := ["__annotations__", "__abstractmethods__"]

/-- A kind has no attribute of a name: it is no member of all kinds, and none that the kind keeps
    for its values. -/
def Kind.Lacks (k : Kind) (name : Text) : Prop :=
  name ∈ neverSet ∨ kinds.member? name = none ∧ k.member? name = none

/-- A value has nothing of the sort that an accessor asks for. An attribute has to be a member of
    the value's kind; a kind with an argument hands most questions on to the kind. Texts and tuples
    have positions, and tables have entries of any name; of kinds, only some take an argument. -/
def Value.Refuses : Value → Accessor → Prop
  | kind k, .attribute name => k.Lacks name
  | generic origin _, .attribute name =>
    if askedOfGeneric.contains name then Kind.generic.member? name = none else origin.Lacks name
  | v, .attribute name => v.kindOf.member? name = none
  | text _, .item (.number _) => False
  | tuple _, .item (.number _) => False
  | memberTable _, .item _ => False
  | dictionary, .item _ => False
  | kind k, .item _ => k.isGeneric = false
  | _, .item _ => True
  | _, .broken _ => False

/-! ## Attributes -/

namespace Value

theorem mem_of_member? (h : k.member? name = some (owner, m)) :
    m ∈ k.ancestors.flatMap Kind.members ∧ m.name = name := by
  obtain ⟨a, ha, hown⟩ := List.exists_of_findSome?_eq_some h
  obtain ⟨m', hm', hpair⟩ := Option.map_eq_some_iff.1 hown
  cases hpair
  exact ⟨List.mem_flatMap.2 ⟨_, ha, List.mem_of_find?_eq_some hm'⟩,
    by simpa using List.find?_some hm'⟩

/-- What is read off a value: its class, and what its properties and fields hold. -/
def readable (v : Value) : List Text := "__class__".toList :: v.properties.map (·.1.toList)

theorem exists_read_of_mem (h : name ∈ v.readable) : ∃ w, v.read name = .ok w := by
  rw [read.eq_def]
  by_cases hclass : name = "__class__".toList
  · exact ⟨_, if_pos hclass⟩
  rw [if_neg hclass]
  obtain ⟨property, hmem, hname⟩ := List.mem_map.1 ((List.mem_cons.1 h).resolve_left hclass)
  cases hfind : v.properties.find? (·.1.toList = name) with
  | none => exact absurd (by simpa using hname) (List.find?_eq_none.1 hfind property hmem)
  | some property => exact ⟨property.2, rfl⟩

theorem read_of_notMem (h : name ∉ v.readable) : ∃ fault, v.read name = .error fault ∧
    fault.isAboutAttribute = true := by
  obtain ⟨hclass, hproperties⟩ := not_or.1 (mt List.mem_cons.2 h)
  have hfind : v.properties.find? (·.1.toList = name) = none := by
    refine List.find?_eq_none.2 fun property hmem hname => hproperties ?_
    exact List.mem_map.2 ⟨property, hmem, by simpa using hname⟩
  rw [read.eq_def, if_neg hclass, hfind]
  cases v with
  | kind k =>
    dsimp only
    split_ifs <;> exact ⟨_, rfl, rfl⟩
  | _ => exact ⟨_, rfl, rfl⟩

/-- Whatever the values of a kind have to be read can be read; kinds apart. -/
theorem mem_readable (hv : ∀ k, v ≠ kind k)
    (hm : m ∈ v.kindOf.ancestors.flatMap Kind.members) (hread : m.role.isRead = true) :
    m.name ∈ v.readable := by
  have hnames : ∀ (w : Value), v.kindOf = w.kindOf → v.readable = w.readable →
      (∀ m ∈ w.kindOf.ancestors.flatMap Kind.members, m.role.isRead = true →
        m.name ∈ w.readable) → m.name ∈ v.readable := by
    intro w hkind hreadable hall
    rw [hkind] at hm
    rw [hreadable]
    exact hall m hm hread
  -- What can be read does not depend on what a value holds.
  cases v with
  | kind k => exact absurd rfl (hv k)
  | text t => exact hnames (.text []) rfl rfl (by decide +kernel)
  | number n => exact hnames (.number 0) rfl rfl (by decide +kernel)
  | boolean b => exact hnames (.boolean false) rfl rfl (by decide +kernel)
  | nothing => exact hnames .nothing rfl rfl (by decide +kernel)
  | tuple items => exact hnames (.tuple []) rfl rfl (by decide +kernel)
  | memberTable k => exact hnames (.memberTable .text) rfl rfl (by decide +kernel)
  | dictionary => exact hnames .dictionary rfl rfl (by decide +kernel)
  | generic origin argument =>
    exact hnames (.generic .kinds (.number 0)) rfl rfl (by decide +kernel)
  | staticMember owner found =>
    exact hnames (.staticMember .text { name := [], role := .static }) rfl rfl (by decide +kernel)
  | member owner found =>
    obtain ⟨_, role, _, _⟩ := found
    cases role <;>
      exact hnames (.member .text { name := [], role := _ }) rfl rfl (by decide +kernel)
  | bound owner found self =>
    obtain ⟨_, role, _, _⟩ := found
    cases role <;>
      exact hnames (.bound .text { name := [], role := _ } .nothing) rfl rfl (by decide +kernel)

theorem take_of_isRead (h : m.role.isRead = true) : v.take owner m = v.read m.name := by
  rw [take]
  cases hrole : m.role <;> rw [hrole] at h <;> first | rfl | cases h

theorem exists_take_of_not_isRead (h : m.role.isRead = false) : ∃ w, v.take owner m = .ok w := by
  rw [take]
  cases hrole : m.role <;> rw [hrole] at h <;> first | exact ⟨_, rfl⟩ | cases h

/-- A member that is read off kinds: only the two that are never set fail. -/
theorem take_shared (hshared : Kind.kinds.member? name = some (owner, m)) :
    (name ∉ neverSet ∧ ∃ w, (kind k).take owner m = .ok w) ∨
      name ∈ neverSet ∧ m.role.isRead = true ∧
        ∃ fault, (kind k).take owner m = .error fault ∧ fault.isAboutAttribute = true := by
  have hnames : ∀ m ∈ Kind.kinds.ancestors.flatMap Kind.members,
      (m.role.isRead = true → (m.name ∈ (kind .text).readable ↔ m.name ∉ neverSet)) ∧
        (m.name ∈ neverSet → m.role.isRead = true) := by
    decide +kernel
  obtain ⟨hmem, rfl⟩ := mem_of_member? hshared
  obtain ⟨hreadable, hread⟩ := hnames m hmem
  by_cases hnever : m.name ∈ neverSet
  · refine .inr ⟨hnever, hread hnever, ?_⟩
    rw [take_of_isRead (hread hnever)]
    exact read_of_notMem fun h => (hreadable (hread hnever)).1 h hnever
  · refine .inl ⟨hnever, ?_⟩
    cases hrole : m.role.isRead with
    | false => exact exists_take_of_not_isRead hrole
    | true =>
      rw [take_of_isRead hrole]
      exact exists_read_of_mem ((hreadable hrole).2 hnever)

/-- Kinds fail exactly at the attributes that they lack. -/
theorem ofKind_cases (k : Kind) (name : Text) :
    (¬ k.Lacks name ∧ ∃ w, ofKind k name = .ok w) ∨
      k.Lacks name ∧ ∃ fault, ofKind k name = .error fault ∧ fault.isAboutAttribute = true := by
  rw [ofKind, Kind.Lacks]
  cases hshared : Kind.kinds.member? name with
  | none =>
    have hnever : name ∉ neverSet := by
      have hall : ∀ name ∈ neverSet, Kind.kinds.member? name ≠ none := by decide +kernel
      exact fun h => hall name h hshared
    cases k.member? name with
    | none => exact .inr ⟨.inr ⟨rfl, rfl⟩, _, rfl, rfl⟩
    | some found => exact .inl ⟨by simp [hnever], _, rfl⟩
  | some found =>
    obtain ⟨owner, m⟩ := found
    obtain ⟨hnever, w, hw⟩ | ⟨hnever, hread, fault, hfault, habout⟩ := take_shared (k := k) hshared
    · refine .inl ⟨by simp [hnever], ?_⟩
      cases k.member? name with
      | none => exact ⟨w, hw⟩
      | some found =>
        dsimp only
        split_ifs
        · exact ⟨w, hw⟩
        · exact ⟨_, rfl⟩
    · refine .inr ⟨.inl hnever, fault, ?_, habout⟩
      cases k.member? name with
      | none => exact hfault
      | some found => exact (if_pos hread).trans hfault

/-- What a value other than a kind has is a matter of its kind. -/
theorem ofMembers_cases (hv : ∀ k, v ≠ kind k) (name : Text) :
    (¬ v.kindOf.member? name = none ∧ ∃ w, v.ofMembers name = .ok w) ∨
      v.kindOf.member? name = none ∧
        ∃ fault, v.ofMembers name = .error fault ∧ fault.isAboutAttribute = true := by
  rw [ofMembers]
  cases hmember : v.kindOf.member? name with
  | none => exact .inr ⟨rfl, _, rfl, rfl⟩
  | some found =>
    obtain ⟨owner, m⟩ := found
    refine .inl ⟨Option.some_ne_none _, ?_⟩
    obtain ⟨hmem, rfl⟩ := mem_of_member? hmember
    cases hread : m.role.isRead with
    | false => exact exists_take_of_not_isRead hread
    | true =>
      dsimp only
      rw [take_of_isRead hread]
      exact exists_read_of_mem (mem_readable hv hmem hread)

/-- A value refuses what its kind has no member for, kinds and kinds with an argument apart. -/
theorem refuses_attribute_iff (hkinds : v.kindOf ≠ .kinds) (hgeneric : v.kindOf ≠ .generic) :
    v.Refuses (.attribute name) ↔ v.kindOf.member? name = none := by
  cases v with
  | kind k => exact absurd rfl hkinds
  | generic origin argument => exact absurd rfl hgeneric
  | _ => exact Iff.rfl

/-- A value fails exactly at the attributes that it refuses. -/
theorem attributeNamed_cases (v : Value) (name : Text) :
    (¬ v.Refuses (.attribute name) ∧ ∃ w, v.attributeNamed name = .ok w) ∨
      v.Refuses (.attribute name) ∧
        ∃ fault, v.attributeNamed name = .error fault ∧ fault.isAboutAttribute = true := by
  cases v with
  | kind k => exact ofKind_cases k name
  | generic origin argument =>
    rw [attributeNamed, Refuses]
    split_ifs
    · exact ofMembers_cases (v := generic origin argument) (by simp) name
    · exact ofKind_cases origin name
  | _ =>
    simp only [attributeNamed, Refuses]
    exact ofMembers_cases (by simp) name

/-! ## Accessors -/

theorem isAboutValue_of_isAboutAttribute {fault : Fault} (h : fault.isAboutAttribute = true) :
    fault.isAboutValue = true := by
  cases fault <;> first | rfl | cases h

/-- An item cannot be had, beyond telling, exactly if the value has none of the sort. -/
theorem not_tellable_itemAt_iff {key : Key} :
    ¬ Tellable (v.itemAt key) ↔ v.Refuses (.item key) := by
  have hmissing {fault : Fault} (h : fault.isUnknown = true) :
      ¬ Tellable (.error fault : Except Fault Value) ↔ False :=
    iff_of_false (not_not_intro (failsOnly_error (isTellable_of_isUnknown h))) not_false
  have hfound (w : Value) : ¬ Tellable (.ok w : Except Fault Value) ↔ False :=
    iff_of_false (not_not_intro (failsOnly_ok w)) not_false
  have hrefused {fault : Fault} (h : fault.isAboutValue = true) :
      ¬ Tellable (.error fault : Except Fault Value) ↔ True :=
    iff_of_true (not_tellable_error h) trivial
  cases v with
  | text | tuple =>
    cases key with
    | number n =>
      rw [itemAt, Refuses]
      split
      · exact hfound _
      · exact hmissing rfl
    | name t => exact hrefused rfl
  | memberTable k =>
    cases key with
    | number n => exact hmissing rfl
    | name t =>
      rw [itemAt, Refuses]
      split
      · exact hfound _
      · exact hmissing rfl
  | dictionary => cases key <;> exact hmissing rfl
  | kind k =>
    rw [itemAt, Refuses]
    split_ifs with hgeneric
    · exact (hfound _).trans (by simp [hgeneric])
    · exact (hrefused rfl).trans (by simp [hgeneric])
  | _ => cases key <;> exact hrefused rfl

/-- An accessor fails beyond telling exactly if the value refuses it. -/
theorem not_tellable_access_iff {a : Accessor}
    (ha : ∀ fault, a = .broken fault → fault.IsTellable) :
    ¬ Tellable (v.access a) ↔ v.Refuses a := by
  rcases a with name | key | fault
  · rw [access]
    obtain ⟨hnot, w, hw⟩ | ⟨h, fault, hfault, habout⟩ := attributeNamed_cases v name
    · rw [hw]
      exact iff_of_false (not_not_intro (failsOnly_ok w)) hnot
    · rw [hfault]
      exact iff_of_true (not_tellable_error (isAboutValue_of_isAboutAttribute habout)) h
  · exact not_tellable_itemAt_iff
  · have hbroken : ¬ v.Refuses (.broken fault) := by cases v <;> exact not_false
    exact iff_of_false (not_not_intro (failsOnly_error (ha fault rfl))) hbroken

end Value

end Pinpoint.Template
