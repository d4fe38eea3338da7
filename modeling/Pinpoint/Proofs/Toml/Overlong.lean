import Pinpoint.Proofs.Toml.Leaves
import Pinpoint.Proofs.Toml.Lines

/-!
# Numbers with too many digits

A whole number in base ten with more digits than are converted stops the reader of a
document. It takes one: whatever else stops the reader is a fault of the document.

* `takeDecimals?_eq_some`: the whole part of a number is spelled in front of what is left.
* `leaves_takeValue`: values, with all that they hold.
* `Document.hasNumeral_of_parse`: where the reader of a document stops for the number of
  digits, so many digits stand in the document.
* `Document.parse_of_overlong`: an entry with such a number stops the reader.
-/

namespace Pinpoint.Toml

variable {t rest : Text} {n : Nat}

/-! ## Dates and times -/

theorem leavesSome_takeDigits? (count : Nat) (t : Text) :
    LeavesSome Prod.snd t (takeDigits? count t) := by
  induction count generalizing t with
  | zero => exact .some List.suffix_rfl
  | succ count ih =>
    cases t with
    | nil => exact .none
    | cons c t =>
      rw [takeDigits?]
      split_ifs
      · refine LeavesSome.mono ?_ (List.suffix_cons c t)
        refine (ih t).bind fun a => ?_
        exact .some List.suffix_rfl
      · exact .none

theorem leavesSome_takeTwo? (lo hi : Nat) (t : Text) :
    LeavesSome Prod.snd t (takeTwo? lo hi t) := by
  refine (leavesSome_takeDigits? 2 t).bind fun ⟨n, rest⟩ => ?_
  have hguard : LeavesSome (fun _ : Unit => rest) rest (guard (lo ≤ n ∧ n ≤ hi)) :=
    fun _ _ => List.suffix_rfl
  exact hguard.bind fun _ => .some List.suffix_rfl

theorem leavesSome_takeChar? (ok : Char → Bool) (t : Text) :
    LeavesSome Prod.snd t (takeChar? ok t) := by
  cases t with
  | nil => exact .none
  | cons c t =>
    rw [takeChar?]
    split_ifs
    · exact .some (List.suffix_cons c t)
    · exact .none

theorem takeMicros_suffix (t : Text) : (takeMicros t).2 <:+ t := by
  unfold takeMicros
  split
  · dsimp only
    split_ifs
    · exact List.suffix_rfl
    · exact (List.dropWhile_suffix _).trans (List.suffix_cons _ _)
  · exact List.suffix_rfl

theorem leavesSome_takeTime? (t : Text) : LeavesSome Prod.snd t (takeTime? t) := by
  refine (leavesSome_takeTwo? 0 23 t).bind fun hour => ?_
  refine (leavesSome_takeChar? _ _).bind fun _ => ?_
  refine (leavesSome_takeTwo? 0 59 _).bind fun minute => ?_
  refine (leavesSome_takeChar? _ _).bind fun _ => ?_
  refine (leavesSome_takeTwo? 0 59 _).bind fun second => ?_
  exact .some (takeMicros_suffix _)

theorem leavesSome_takeOffset? (t : Text) : LeavesSome Prod.snd t (takeOffset? t) := by
  unfold takeOffset?
  split
  · next c rest =>
    by_cases hz : c = 'Z' ∨ c = 'z'
    · rw [if_pos hz]
      exact .some (List.suffix_cons _ _)
    by_cases hsign : c = '+' ∨ c = '-'
    · rw [if_neg hz, if_pos hsign]
      refine LeavesSome.mono ?_ (List.suffix_cons c rest)
      refine (leavesSome_takeTwo? 0 23 rest).bind fun hours => ?_
      refine (leavesSome_takeChar? _ _).bind fun _ => ?_
      exact (leavesSome_takeTwo? 0 59 _).bind fun minutes => .some List.suffix_rfl
    · rw [if_neg hz, if_neg hsign]
      exact .none
  · exact .none

theorem leavesSome_takeDate? (t : Text) : LeavesSome Prod.snd t (takeDate? t) := by
  refine (leavesSome_takeDigits? 4 t).bind fun year => ?_
  refine (leavesSome_takeChar? _ _).bind fun _ => ?_
  refine (leavesSome_takeTwo? 1 12 _).bind fun month => ?_
  refine (leavesSome_takeChar? _ _).bind fun _ => ?_
  exact (leavesSome_takeTwo? 1 31 _).bind fun day => .some List.suffix_rfl

theorem leavesSome_takeTimeOfDate? (t : Text) :
    LeavesSome (fun r => r.2.2) t (takeTimeOfDate? t) := by
  refine (leavesSome_takeChar? _ t).bind fun _ => ?_
  refine (leavesSome_takeTime? _).bind fun time => ?_
  dsimp only
  split
  · next offset rest heq => exact .some (leavesSome_takeOffset? _ _ heq)
  · exact .some List.suffix_rfl

theorem leaves_takeMoment? {r : Except Stop (Value × Text)} (h : takeMoment? t = some r) :
    Leaves Prod.snd t r := by
  unfold takeMoment? at h
  split at h
  · cases h
  · next date after hdate =>
    cases h
    have hafter : after <:+ t := leavesSome_takeDate? t _ hdate
    split_ifs
    · trivial
    · split
      · exact hafter
      · next time offset rest htime => exact (leavesSome_takeTimeOfDate? after _ htime).trans hafter

/-! ## Numbers -/

/-- A stretch of digits and underscores that has as many digits as a text has characters. -/
structure Spells (ok : Char → Bool) (run ds : Text) : Prop where
  chars : ∀ c ∈ run, ok c = true ∨ c = '_'
  count : run.countP ok = ds.length

namespace Spells

variable {ok : Char → Bool} {run ds : Text} {c : Char}

theorem nil : Spells ok [] [] := ⟨fun _ hc => absurd hc List.not_mem_nil, rfl⟩

theorem digit (h : Spells ok run ds) (hc : ok c = true) : Spells ok (c :: run) (c :: ds) where
  chars := List.forall_mem_cons.2 ⟨.inl hc, h.chars⟩
  count := by rw [List.countP_cons_of_pos hc, h.count, List.length_cons]

theorem underscore (h : Spells ok run ds) (hok : ok '_' = false) : Spells ok ('_' :: run) ds where
  chars := List.forall_mem_cons.2 ⟨.inr rfl, h.chars⟩
  count := by rw [List.countP_cons_of_neg (by simp [hok]), h.count]

end Spells

/-- The digits at the start of a text are spelled there. -/
theorem exists_spells_digitRun (ok : Char → Bool) (hok : ok '_' = false) (t : Text) :
    ∃ run, run ++ (digitRun ok t).2 = t ∧ Spells ok run (digitRun ok t).1 := by
  fun_induction digitRun ok t with
  | case1 => exact ⟨[], rfl, .nil⟩
  | case2 c hc => exact ⟨[c], rfl, Spells.nil.digit hc⟩
  | case3 c hc => exact ⟨[], rfl, .nil⟩
  | case4 c rest hc after hrest ih => exact ⟨[c], rfl, Spells.nil.digit hc⟩
  | case5 c rest hc ds after hne hrest ih =>
    obtain ⟨run, hsplit, hrun⟩ := ih
    rw [hrest] at hrun hsplit
    exact ⟨c :: '_' :: run, congrArg (c :: '_' :: ·) hsplit, (hrun.underscore hok).digit hc⟩
  | case6 c d rest hc hd ds after hrest ih =>
    obtain ⟨run, hsplit, hrun⟩ := ih
    rw [hrest] at hrun hsplit
    exact ⟨c :: run, congrArg (c :: ·) hsplit, hrun.digit hc⟩
  | case7 c d rest hc => exact ⟨[], rfl, .nil⟩

theorem digitRun_suffix (ok : Char → Bool) (hok : ok '_' = false) (t : Text) :
    (digitRun ok t).2 <:+ t := by
  obtain ⟨run, hsplit, -⟩ := exists_spells_digitRun ok hok t
  exact ⟨run, hsplit⟩

theorem leavesSome_takeMarked? (t : Text) : LeavesSome Prod.snd t (takeMarked? t) := by
  unfold takeMarked?
  split
  · next mark rest =>
    refine LeavesSome.mono ?_ ⟨['0', mark], rfl⟩
    have hbase : LeavesSome (fun _ : Nat => rest) rest (markedBase? mark) :=
      fun _ _ => List.suffix_rfl
    refine hbase.bind fun base => ?_
    have hafter := digitRun_suffix (isDigitOf base) rfl rest
    split
    · exact .none
    · next ds after hne hrun =>
      rw [hrun] at hafter
      exact .some hafter
  · exact .none

/-- The digits of a whole part are spelled in front of what is left. -/
theorem takeWhole?_eq_some {ds : Text} (h : takeWhole? t = some (ds, rest)) :
    ∃ run, run ++ rest = t ∧ Spells Char.isDigit run ds := by
  unfold takeWhole? at h
  split at h
  · cases h
    exact ⟨['0'], rfl, Spells.nil.digit rfl⟩
  · obtain ⟨run, hsplit, hrun⟩ := exists_spells_digitRun Char.isDigit rfl t
    split at h
    · cases h
    · next ds' after hne heq =>
      cases h
      rw [heq] at hsplit hrun
      exact ⟨run, hsplit, hrun⟩

theorem takeFraction_suffix (t : Text) : (takeFraction t).2 <:+ t := by
  unfold takeFraction
  split
  · next rest =>
    have hafter := digitRun_suffix Char.isDigit rfl rest
    split
    · exact List.suffix_rfl
    · next ds after hne hrun =>
      rw [hrun] at hafter
      exact hafter.trans (List.suffix_cons _ _)
  · exact List.suffix_rfl

theorem takeSign_suffix (t : Text) : (takeSign t).2 <:+ t := by
  unfold takeSign
  split
  · exact List.suffix_cons _ _
  · exact List.suffix_cons _ _
  · exact List.suffix_rfl

theorem takeExponent_suffix (t : Text) : (takeExponent t).2 <:+ t := by
  unfold takeExponent
  split
  · next c rest =>
    split
    · have hafter := digitRun_suffix Char.isDigit rfl (takeSign rest).2
      dsimp only
      split
      · exact List.suffix_rfl
      · next ds after hne hrun =>
        rw [hrun] at hafter
        exact (hafter.trans (takeSign_suffix rest)).trans (List.suffix_cons c rest)
    · exact List.suffix_rfl
  · exact List.suffix_rfl

/-- A number in base ten leaves an end, and its whole part is spelled in front of that. -/
theorem takeDecimals?_eq_some {d : Decimals} (h : takeDecimals? t = some (d, rest)) :
    rest <:+ t ∧ ∃ run, run <:+: t ∧ Spells Char.isDigit run d.whole := by
  obtain ⟨⟨whole, after⟩, hwhole, heq⟩ := Option.bind_eq_some_iff.1 h
  cases heq
  obtain ⟨run, hsplit, hrun⟩ := takeWhole?_eq_some hwhole
  have hsign := takeSign_suffix t
  have hafter : after <:+ t := List.IsSuffix.trans ⟨run, hsplit⟩ hsign
  refine ⟨?_, run, List.IsInfix.trans ⟨[], after, hsplit⟩ hsign.isInfix, hrun⟩
  exact ((takeExponent_suffix _).trans (takeFraction_suffix after)).trans hafter

theorem leavesSome_takeNumber? (t : Text) : LeavesSome Prod.snd t (takeNumber? t) := by
  rintro ⟨r, rest⟩ h
  unfold takeNumber? at h
  split at h
  · next n after hmarked =>
    cases h
    exact leavesSome_takeMarked? t _ hmarked
  · obtain ⟨⟨d, after⟩, hdecimals, heq⟩ := Option.map_eq_some_iff.1 h
    cases heq
    exact (takeDecimals?_eq_some hdecimals).1

/-- A number with too many digits is spelled in the text. -/
theorem hasNumeral_of_takeNumber? (h : takeNumber? t = some (.error n, rest)) :
    Decimal.digitLimit < n ∧ HasNumeral t n := by
  unfold takeNumber? at h
  split at h
  · cases h
  · obtain ⟨⟨d, after⟩, hdecimals, heq⟩ := Option.map_eq_some_iff.1 h
    obtain ⟨-, run, hinfix, hrun⟩ := takeDecimals?_eq_some hdecimals
    have hvalue : d.value = .error n := (Prod.mk.inj heq).1
    unfold Decimals.value at hvalue
    split at hvalue
    · split_ifs at hvalue with hlimit
      cases hvalue
      exact ⟨hlimit, run, hinfix, hrun.chars, hrun.count⟩
    · cases hvalue

theorem leavesSome_takeSpecial? (t : Text) : LeavesSome Prod.snd t (takeSpecial? t) := by
  rintro a h
  obtain ⟨⟨name, x⟩, -, hfind⟩ := List.exists_of_findSome?_eq_some h
  obtain ⟨rest, hrest, rfl⟩ := Option.map_eq_some_iff.1 hfind
  exact suffix_of_dropHead? hrest

/-! ## Values -/

theorem leaves_takeScalar (t : Text) : Leaves Prod.snd t (takeScalar t) := by
  unfold takeScalar
  split
  · next rest hrest => exact suffix_of_dropHead? hrest
  · next rest _ hrest => exact suffix_of_dropHead? hrest
  · split
    · next r hmoment => exact leaves_takeMoment? hmoment
    · split
      · next time rest htime => exact leavesSome_takeTime? t _ htime
      · split
        · next v rest hnumber => exact leavesSome_takeNumber? t _ hnumber
        · next digits rest hnumber => exact hasNumeral_of_takeNumber? hnumber
        · split
          · next v rest hspecial => exact leavesSome_takeSpecial? t _ hspecial
          · trivial

theorem leaves_asText {r : Except Stop (Text × Text)} (h : Leaves Prod.snd t r) :
    Leaves Prod.snd t (asText r) :=
  h.pure _

section

variable {fuel : Nat} (hvalue : ∀ t, Leaves Prod.snd t (takeValueWithin fuel t))
  (hitems : ∀ t, Leaves Prod.snd t (takeItems fuel t))
  (hentries : ∀ closed table t, Leaves Prod.snd t (takeEntries fuel closed table t))

include hitems hentries in
theorem leaves_takeValueWithin_succ (t : Text) :
    Leaves Prod.snd t (takeValueWithin (fuel + 1) t) := by
  unfold takeValueWithin
  split
  · exact (leaves_asText (leaves_takeLongBasic _)).mono ⟨['"', '"', '"'], rfl⟩
  · exact (leaves_asText (leaves_takeBasic _)).cons _
  · exact (leaves_asText (leaves_takeLongLiteral _)).mono ⟨['\'', '\'', '\''], rfl⟩
  · exact (leaves_asText (leaves_takeLiteral _)).cons _
  · refine Leaves.cons ?_ _
    exact (leaves_skipFiller _).bind fun rest => (hitems rest).pure _
  · next rest =>
    refine (Leaves.mono ?_ (skipBlanks_suffix rest)).cons _
    split
    · next heq =>
      rw [heq]
      exact List.suffix_cons _ _
    · exact (hentries ..).pure _
  · exact leaves_takeScalar t

include hvalue hitems in
theorem leaves_takeItems_succ (t : Text) : Leaves Prod.snd t (takeItems (fuel + 1) t) := by
  unfold takeItems
  split
  · exact List.suffix_cons _ _
  · refine (hvalue t).bind fun ⟨v, rest⟩ => ?_
    refine (leaves_skipFiller rest).bind fun rest => ?_
    split
    · exact List.suffix_cons _ _
    · refine Leaves.cons ?_ _
      exact (leaves_skipFiller _).bind fun rest => (hitems rest).pure _
    · trivial

include hvalue hentries in
theorem leaves_takeEntries_succ (closed : List Key) (table : Table) (t : Text) :
    Leaves Prod.snd t (takeEntries (fuel + 1) closed table t) := by
  unfold takeEntries
  refine (leaves_takeKeyEquals t).bind fun ⟨key, rest⟩ => ?_
  refine (hvalue rest).bind fun ⟨v, rest⟩ => ?_
  dsimp only
  split
  · trivial
  · refine Leaves.mono ?_ (skipBlanks_suffix rest)
    split
    · next heq =>
      rw [heq]
      exact List.suffix_cons _ _
    · next heq =>
      rw [heq]
      exact ((hentries ..).mono (skipBlanks_suffix _)).cons _
    · trivial

end

/-- Values, the items of lists and the entries of tables are read one inside the other, so all three
    go by one induction. -/
theorem leaves_takeValueWithin_and (fuel : Nat) :
    (∀ t, Leaves Prod.snd t (takeValueWithin fuel t)) ∧
      (∀ t, Leaves Prod.snd t (takeItems fuel t)) ∧
      ∀ closed table t, Leaves Prod.snd t (takeEntries fuel closed table t) := by
  induction fuel with
  | zero => exact ⟨fun _ => trivial, fun _ => trivial, fun _ _ _ => trivial⟩
  | succ fuel ih =>
    obtain ⟨hvalue, hitems, hentries⟩ := ih
    exact ⟨leaves_takeValueWithin_succ hitems hentries, leaves_takeItems_succ hvalue hitems,
      leaves_takeEntries_succ hvalue hentries⟩

theorem leaves_takeValue (t : Text) : Leaves Prod.snd t (takeValue t) :=
  (leaves_takeValueWithin_and _).1 t

/-! ## Documents -/

namespace Document

theorem leaves_orStop (t : Text) (r : Except Reason Document) :
    Leaves (fun _ => t) t (orStop t r) := by
  cases r
  · trivial
  · exact List.suffix_rfl

theorem leaves_statement (d : Document) (t : Text) : Leaves Prod.snd t (d.statement t) := by
  unfold statement
  split
  · next rest =>
    refine Leaves.mono ?_ ⟨['[', '['], rfl⟩
    refine ((leaves_takeKey _).mono (skipBlanks_suffix rest)).bind fun ⟨key, rest⟩ => ?_
    refine (leaves_orStop rest _).bind fun d => ?_
    split
    · exact ⟨[']', ']'], rfl⟩
    · trivial
  · next rest _ =>
    refine Leaves.cons ?_ _
    refine ((leaves_takeKey _).mono (skipBlanks_suffix rest)).bind fun ⟨key, rest⟩ => ?_
    refine (leaves_orStop rest _).bind fun d => ?_
    split
    · exact List.suffix_cons _ _
    · trivial
  · refine (leaves_takeKeyEquals t).bind fun ⟨key, rest⟩ => ?_
    refine (leaves_takeValue rest).bind fun ⟨v, rest⟩ => ?_
    exact (leaves_orStop rest _).bind fun d => List.suffix_rfl

theorem leaves_line (d : Document) (t : Text) : Leaves Prod.snd t (d.line t) := by
  refine Leaves.mono ?_ (skipBlanks_suffix t)
  unfold line
  split
  · exact List.nil_suffix
  · next c rest heq =>
    rw [heq]
    split_ifs
    · exact List.suffix_rfl
    · exact (leaves_skipComment _).bind fun rest => List.suffix_rfl
    · refine (leaves_statement d _).bind fun a => ?_
      exact ((leaves_skipComment _).mono (skipBlanks_suffix a.2)).bind fun rest => List.suffix_rfl
    · trivial

theorem leaves_linesWithin (fuel : Nat) (d : Document) (t : Text) :
    Leaves (fun _ => []) t (linesWithin fuel d t) := by
  induction fuel generalizing d t with
  | zero => exact List.nil_suffix
  | succ fuel ih =>
    refine (leaves_line d t).bind fun a => ?_
    split
    · exact List.nil_suffix
    · split_ifs
      · exact (ih _ _).cons _
      · trivial

/-- What stands in one line is not changed by joining line breaks. -/
theorem prefix_of_joinNewlines {run : Text} (hrun : '\n' ∉ run) (h : run <+: joinNewlines t) :
    run <+: t := by
  cases run with
  | nil => exact List.nil_prefix
  | cons c run =>
    fun_induction joinNewlines t generalizing c run with
    | case1 rest ih =>
      obtain ⟨rfl, -⟩ := List.cons_prefix_cons.1 h
      exact absurd List.mem_cons_self hrun
    | case2 d rest hne ih =>
      obtain ⟨rfl, hrest⟩ := List.cons_prefix_cons.1 h
      refine List.cons_prefix_cons.2 ⟨rfl, ?_⟩
      cases run with
      | nil => exact List.nil_prefix
      | cons c' run => exact ih c' run (fun hc => hrun (List.mem_cons_of_mem _ hc)) hrest
    | case3 => exact h

theorem infix_of_joinNewlines {run : Text} (hrun : '\n' ∉ run) (h : run <:+: joinNewlines t) :
    run <:+: t := by
  fun_induction joinNewlines t with
  | case1 rest ih =>
    rcases List.infix_cons_iff.1 h with hprefix | hinfix
    · exact (prefix_of_joinNewlines (t := '\r' :: '\n' :: rest) hrun hprefix).isInfix
    · exact ((ih hinfix).trans (List.suffix_cons _ _).isInfix).trans (List.suffix_cons _ _).isInfix
  | case2 d rest hne ih =>
    rcases List.infix_cons_iff.1 h with hprefix | hinfix
    · have hjoin : joinNewlines (d :: rest) = d :: joinNewlines rest := by
        rw [joinNewlines]
        exact hne
      exact (prefix_of_joinNewlines hrun (hjoin ▸ hprefix)).isInfix
    · exact (ih hinfix).trans (List.suffix_cons _ _).isInfix
  | case3 => exact h

/-- A number with too many digits that stops the reader of a document stands in the document. -/
theorem hasNumeral_of_parse (h : parse t = .error (.overlong n)) :
    Decimal.digitLimit < n ∧ HasNumeral t n := by
  have hlines := leaves_linesWithin ((joinNewlines t).length + 1) {} (joinNewlines t)
  unfold parse at h
  dsimp only at h
  split at h
  · cases h
  · cases h
  · next digits heq =>
    cases h
    rw [heq] at hlines
    obtain ⟨hlimit, run, hinfix, hchars, hcount⟩ := hlines
    have hnewline : '\n' ∉ run := fun hc => by
      rcases hchars _ hc with hd | hd <;> exact absurd hd (by decide)
    exact ⟨hlimit, run, infix_of_joinNewlines hnewline hinfix, hchars, hcount⟩

end Document

/-! ## Entries with too many digits -/

section

variable {ds : Text} (hds : ∀ c ∈ ds, c.isDigit = true)
include hds

theorem exists_takeDigits?_append {count : Nat} (hcount : count ≤ ds.length) (rest : Text) :
    ∃ k, takeDigits? count (ds ++ rest) = some (k, ds.drop count ++ rest) := by
  induction count generalizing ds with
  | zero => exact ⟨0, rfl⟩
  | succ count ih =>
    cases ds with
    | nil => simp at hcount
    | cons c ds =>
      obtain ⟨hc, hds⟩ := List.forall_mem_cons.1 hds
      obtain ⟨k, hk⟩ := ih hds (Nat.le_of_succ_le_succ hcount)
      rw [List.cons_append, takeDigits?, if_pos hc, hk]
      exact ⟨_, rfl⟩

/-- Behind some of many digits no mark follows. -/
theorem takeChar?_drop {count : Nat} (hcount : count < ds.length) {ok : Char → Bool}
    (hok : ∀ c : Char, c.isDigit = true → ok c = false) (rest : Text) :
    takeChar? ok (ds.drop count ++ rest) = none := by
  rw [List.drop_eq_getElem_cons hcount, List.cons_append, takeChar?,
    hok _ (hds _ (List.getElem_mem hcount))]
  rfl

end

theorem takeMoment?_of_digits {ds : Text} (hds : ∀ c ∈ ds, c.isDigit = true)
    (hlength : 4 < ds.length) (rest : Text) : takeMoment? (ds ++ rest) = none := by
  have hok : ∀ c : Char, c.isDigit = true → decide (c = '-') = false := fun c hc =>
    decide_eq_false (ne_of_isDigit hc (by decide))
  obtain ⟨k, hk⟩ := exists_takeDigits?_append hds hlength.le rest
  have hdate : takeDate? (ds ++ rest) = none := by
    rw [takeDate?, hk]
    simp only [Option.bind_eq_bind, Option.bind_some, takeChar?_drop hds hlength hok,
      Option.bind_none]
  rw [takeMoment?, hdate]

theorem takeTwo?_of_digits {ds : Text} (hds : ∀ c ∈ ds, c.isDigit = true) (hlength : 2 ≤ ds.length)
    (lo hi : Nat) (rest : Text) :
    takeTwo? lo hi (ds ++ rest) = none ∨
      ∃ k, takeTwo? lo hi (ds ++ rest) = some (k, ds.drop 2 ++ rest) := by
  obtain ⟨k, hk⟩ := exists_takeDigits?_append hds hlength rest
  have htwo : takeTwo? lo hi (ds ++ rest) =
      guard (lo ≤ k ∧ k ≤ hi) >>= fun _ => some (k, ds.drop 2 ++ rest) := by
    rw [takeTwo?, hk]
    rfl
  rw [htwo, guard]
  split_ifs
  · exact .inr ⟨k, rfl⟩
  · exact .inl rfl

theorem takeTime?_of_digits {ds : Text} (hds : ∀ c ∈ ds, c.isDigit = true)
    (hlength : 2 < ds.length) (rest : Text) : takeTime? (ds ++ rest) = none := by
  have hok : ∀ c : Char, c.isDigit = true → decide (c = ':') = false := fun c hc =>
    decide_eq_false (ne_of_isDigit hc (by decide))
  rcases takeTwo?_of_digits hds hlength.le 0 23 rest with htwo | ⟨k, htwo⟩
  · rw [takeTime?, htwo]
    rfl
  · rw [takeTime?, htwo]
    simp only [Option.bind_eq_bind, Option.bind_some, takeChar?_drop hds hlength hok,
      Option.bind_none]

theorem digitRun_of_digits {ds : Text} (hds : ∀ c ∈ ds, c.isDigit = true) (rest : Text) :
    digitRun Char.isDigit (ds ++ '\n' :: rest) = (ds, '\n' :: rest) := by
  induction ds with
  | nil => exact digitRun_of_false (by decide) rest
  | cons c ds ih =>
    obtain ⟨hc, hds⟩ := List.forall_mem_cons.1 hds
    have hrest := ih hds
    cases ds with
    | nil =>
      rw [List.nil_append] at hrest
      simp [digitRun, hc, hrest]
    | cons d ds =>
      have hd : d ≠ '_' := ne_of_isDigit (hds d List.mem_cons_self) (by decide)
      rw [List.cons_append] at hrest
      simp [digitRun, hc, hd, hrest]

/-- A whole number with too many digits stops the reader of values. -/
theorem takeValue_of_overlong {c : Char} {ds : Text} (hds : ∀ d ∈ c :: ds, d.isDigit = true)
    (hzero : c ≠ '0') (hlimit : Decimal.digitLimit < (c :: ds).length) (rest : Text) :
    takeValue (c :: ds ++ '\n' :: rest) = .error (.overlong (c :: ds).length) := by
  have hc : c.isDigit = true := hds c List.mem_cons_self
  have hlength : 4300 < (c :: ds).length := hlimit
  have htrue : Text.dropHead? "true" (c :: ds ++ '\n' :: rest) = none :=
    if_neg (ne_of_isDigit hc (by decide)).symm
  have hfalse : Text.dropHead? "false" (c :: ds ++ '\n' :: rest) = none :=
    if_neg (ne_of_isDigit hc (by decide)).symm
  have hminus : c ≠ '-' := ne_of_isDigit hc (by decide)
  have hplus : c ≠ '+' := ne_of_isDigit hc (by decide)
  have hrun : digitRun Char.isDigit (c :: (ds ++ '\n' :: rest)) = (c :: ds, '\n' :: rest) :=
    digitRun_of_digits hds rest
  have hnumber : takeNumber? (c :: ds ++ '\n' :: rest) =
      some (.error (c :: ds).length, '\n' :: rest) := by
    rw [List.cons_append]
    simp [takeNumber?, takeMarked?, takeDecimals?, takeSign, takeWhole?, takeFraction, takeExponent,
      Decimals.value, hplus, hminus, hzero, hrun, -List.length_cons, hlimit]
  rw [takeValue, takeValueWithin]
  · rw [takeScalar, htrue, hfalse, takeMoment?_of_digits hds (by omega),
      takeTime?_of_digits hds (by omega), hnumber]
  all_goals exact fun _ heq => absurd (List.cons.inj heq).1 (ne_of_isDigit hc (by decide))

namespace Document

/-- An entry with a number of too many digits stops the reader of a document, whatever is behind
    it. -/
theorem parse_of_overlong {d : Document} {name ds : Text} {c : Char} (h : Reads {} t d)
    (hname : IsBareName name) (hds : ∀ d ∈ c :: ds, d.isDigit = true) (hzero : c ≠ '0')
    (hlimit : Decimal.digitLimit < (c :: ds).length)
    (hreturn : '\r' ∉ t ++ (name ++ ' ' :: '=' :: ' ' :: (c :: ds ++ '\n' :: rest))) :
    parse (t ++ (name ++ ' ' :: '=' :: ' ' :: (c :: ds ++ '\n' :: rest))) =
      .error (.overlong (c :: ds).length) := by
  have hc : c.isDigit = true := hds c List.mem_cons_self
  have hline : d.line (name ++ ' ' :: '=' :: ' ' :: (c :: ds ++ '\n' :: rest)) =
      .error (.overlong (c :: ds).length) :=
    line_entry_of_error hname (ne_of_isDigit hc (by decide)) (ne_of_isDigit hc (by decide))
      (takeValue_of_overlong hds hzero hlimit rest)
  rw [parse, joinNewlines_of_notMem hreturn]
  simp only [linesWithin_of_reads_of_error h hline]

end Document

end Pinpoint.Toml
