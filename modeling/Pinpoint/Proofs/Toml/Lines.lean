import Mathlib.Data.List.Basic
import Pinpoint.Toml.Document

/-!
# Documents read line by line

A document is read one line after the other, so what a text does to a document is put
together from what its lines do. Comments and empty lines do nothing, a header opens a
table, and an entry adds a value to the last one opened.

* `Document.Reads`: the lines of a text turn one document into another.
* `Document.parse_of_reads`, `Document.parse_of_reads_of_error`: what becomes of a
  text whose lines are read, and of one that a line spoils.
* `Document.line_comment`, `Document.line_header`, `Document.line_entry`: single lines.
-/

namespace Pinpoint.Toml

variable {name value rest t t' : Text}

/-! ## Keys of one bare name -/

/-- A name that needs no quotes. -/
structure IsBareName (name : Text) : Prop where
  ne_nil : name ≠ []
  bare : ∀ c ∈ name, isBare c = true

instance (name : Text) : Decidable (IsBareName name) :=
  decidable_of_iff (name ≠ [] ∧ ∀ c ∈ name, isBare c = true)
    ⟨fun h => ⟨h.1, h.2⟩, fun h => ⟨h.ne_nil, h.bare⟩⟩

theorem takeName_append (h : IsBareName name) {c : Char} (hc : isBare c = false) (rest : Text) :
    takeName (name ++ c :: rest) = .ok (name, c :: rest) := by
  have htake : (name ++ c :: rest).takeWhile isBare = name := by
    rw [List.takeWhile_append_of_pos h.bare, List.takeWhile_cons_of_neg (by simp [hc]),
      List.append_nil]
  have hdrop : (name ++ c :: rest).dropWhile isBare = c :: rest := by
    rw [List.dropWhile_append_of_pos h.bare, List.dropWhile_cons_of_neg (by simp [hc])]
  obtain ⟨first, name', rfl⟩ := List.exists_cons_of_ne_nil h.ne_nil
  have hfirst : isBare first = true := h.bare first List.mem_cons_self
  unfold takeName
  split
  · rename_i heq
    rw [(List.cons.inj heq).1] at hfirst
    exact absurd hfirst (by decide)
  · rename_i heq
    rw [(List.cons.inj heq).1] at hfirst
    exact absurd hfirst (by decide)
  · rw [htake, hdrop]

theorem skipBlanks_of_ne {c : Char} (h : c ≠ ' ') (htab : c ≠ '\t') (rest : Text) :
    skipBlanks (c :: rest) = c :: rest :=
  List.dropWhile_cons_of_neg (by simp [h, htab])

/-- A key of one name ends where neither a name nor a point goes on. -/
theorem takeKey_append (h : IsBareName name) {c : Char} (hc : isBare c = false)
    (hrest : ∀ after, skipBlanks (c :: rest) ≠ '.' :: after) :
    takeKey (name ++ c :: rest) = .ok ([name], skipBlanks (c :: rest)) := by
  rw [takeKey, takeKeyWithin, takeName_append h hc]
  dsimp only [bind, Except.bind]
  split
  · rename_i after heq
    exact absurd heq (hrest after)
  · rfl

theorem takeKeyEquals_append (h : IsBareName name) {c : Char} (hblank : c ≠ ' ') (htab : c ≠ '\t')
    (rest : Text) :
    takeKeyEquals (name ++ ' ' :: '=' :: ' ' :: c :: rest) = .ok ([name], c :: rest) := by
  have hskip : skipBlanks (' ' :: '=' :: ' ' :: c :: rest) = '=' :: ' ' :: c :: rest := rfl
  have hvalue : skipBlanks (' ' :: c :: rest) = c :: rest := skipBlanks_of_ne hblank htab rest
  rw [takeKeyEquals, takeKey_append h (by decide) (by simp [hskip]), hskip]
  simp only [bind, Except.bind, pure, Except.pure, hvalue]

theorem startsEntry_of_isBare {c : Char} (h : isBare c = true) :
    Document.startsEntry c = true := by
  simp [Document.startsEntry, h]

/-- A bare character starts neither an empty line, nor a comment, nor a header. -/
theorem ne_of_isBare {c d : Char} (h : isBare c = true) (hd : isBare d = false) : c ≠ d := by
  rintro rfl
  simp [h] at hd

/-! ## Values of one digit -/

theorem digitRun_of_false {ok : Char → Bool} {c : Char} (h : ok c = false) (rest : Text) :
    digitRun ok (c :: rest) = ([], c :: rest) := by
  cases rest <;> simp [digitRun, h]

theorem ne_of_isDigit {c d : Char} (hc : c.isDigit = true) (hd : d.isDigit = false) : c ≠ d := by
  rintro rfl
  simp [hc] at hd

theorem takeNumber?_of_digit {c : Char} (hc : c.isDigit = true) (hzero : c ≠ '0') (rest : Text) :
    takeNumber? (c :: '\n' :: rest) = some (.ok (.integer (Decimal.value [c])), '\n' :: rest) := by
  have hplus : c ≠ '+' := ne_of_isDigit hc (by decide)
  have hminus : c ≠ '-' := ne_of_isDigit hc (by decide)
  have hdigits : digitRun Char.isDigit ('\n' :: rest) = ([], '\n' :: rest) :=
    digitRun_of_false (by decide) rest
  have hrun : digitRun Char.isDigit (c :: '\n' :: rest) = ([c], '\n' :: rest) := by
    simp [digitRun, hc, hdigits]
  have hlimit : Decimal.digitLimit ≠ 0 := by decide
  simp [takeNumber?, takeMarked?, takeDecimals?, takeSign, takeWhole?, takeFraction, takeExponent,
    Decimals.value, hplus, hminus, hzero, hrun, hlimit]

theorem takeDigits?_of_digit {c : Char} (hc : c.isDigit = true) (count : Nat) (rest : Text) :
    takeDigits? (count + 2) (c :: '\n' :: rest) = none := by
  rw [takeDigits?, if_pos hc, takeDigits?]
  rfl

theorem takeScalar_of_digit {c : Char} (hc : c.isDigit = true) (hzero : c ≠ '0') (rest : Text) :
    takeScalar (c :: '\n' :: rest) = .ok (.integer (Decimal.value [c]), '\n' :: rest) := by
  have ht : Text.dropHead? "true" (c :: '\n' :: rest) = none :=
    if_neg (ne_of_isDigit hc (by decide)).symm
  have hf : Text.dropHead? "false" (c :: '\n' :: rest) = none :=
    if_neg (ne_of_isDigit hc (by decide)).symm
  have hmoment : takeMoment? (c :: '\n' :: rest) = none := by
    rw [takeMoment?, takeDate?, takeDigits?_of_digit hc]
    rfl
  have htime : takeTime? (c :: '\n' :: rest) = none := by
    rw [takeTime?, takeTwo?, takeDigits?_of_digit hc]
    rfl
  rw [takeScalar, ht, hf, hmoment, htime, takeNumber?_of_digit hc hzero]

theorem takeValue_of_digit {c : Char} (hc : c.isDigit = true) (hzero : c ≠ '0') (rest : Text) :
    takeValue (c :: '\n' :: rest) = .ok (.integer (Decimal.value [c]), '\n' :: rest) := by
  rw [takeValue, takeValueWithin]
  · exact takeScalar_of_digit hc hzero rest
  all_goals exact fun _ heq => absurd (List.cons.inj heq).1 (ne_of_isDigit hc (by decide))

namespace Document

variable {d d' d₁ d₂ : Document}

/-! ## Single lines -/

theorem line_blank (d : Document) (rest : Text) : d.line ('\n' :: rest) = .ok (d, '\n' :: rest) :=
  rfl

theorem skipCommentText_append (h : ∀ c ∈ t, isIllegal false c = false) (rest : Text) :
    skipCommentText (t ++ '\n' :: rest) = .ok ('\n' :: rest) := by
  induction t with
  | nil => rfl
  | cons c t ih =>
    obtain ⟨hc, ht⟩ := List.forall_mem_cons.1 h
    have hnewline : c ≠ '\n' := by
      rintro rfl
      exact absurd hc (by decide)
    rw [List.cons_append, skipCommentText, if_neg hnewline, hc]
    exact ih ht

theorem line_comment (d : Document) (h : ∀ c ∈ t, isIllegal false c = false) (rest : Text) :
    d.line ('#' :: (t ++ '\n' :: rest)) = .ok (d, '\n' :: rest) := by
  have hskip : skipComment ('#' :: (t ++ '\n' :: rest)) = .ok ('\n' :: rest) :=
    skipCommentText_append h rest
  rw [line, skipBlanks_of_ne (by decide) (by decide)]
  simp [hskip, bind, Except.bind, pure, Except.pure]

theorem line_header (h : IsBareName name) (hopen : d.settle.openTable [name] = .ok d')
    (rest : Text) : d.line ('[' :: (name ++ ']' :: '\n' :: rest)) = .ok (d', '\n' :: rest) := by
  obtain ⟨first, name', rfl⟩ := List.exists_cons_of_ne_nil h.ne_nil
  have hfirst : isBare first = true := h.bare first List.mem_cons_self
  have hbracket : first ≠ '[' := ne_of_isBare hfirst (by decide)
  have hkey : takeKey ((first :: name') ++ ']' :: '\n' :: rest) =
      .ok ([first :: name'], ']' :: '\n' :: rest) :=
    takeKey_append h (by decide) (by simp [skipBlanks_of_ne])
  have hstatement : d.statement ('[' :: ((first :: name') ++ ']' :: '\n' :: rest)) =
      .ok (d', '\n' :: rest) := by
    rw [statement]
    · rw [List.cons_append, skipBlanks_of_ne (ne_of_isBare hfirst (by decide))
        (ne_of_isBare hfirst (by decide)), ← List.cons_append, hkey]
      simp only [bind, Except.bind, hopen, orStop]
      rfl
    · rintro after heq
      exact hbracket (List.cons.inj heq).1
  rw [line, skipBlanks_of_ne (by decide) (by decide)]
  simp only [hstatement]
  rfl

theorem statement_entry (h : IsBareName name) {c : Char} (hblank : c ≠ ' ') (htab : c ≠ '\t')
    (rest : Text) :
    d.statement (name ++ ' ' :: '=' :: ' ' :: c :: rest) = (do
      let (v, rest) ← takeValue (c :: rest)
      return (← orStop rest (d.addEntry [name] v), rest)) := by
  obtain ⟨first, name', rfl⟩ := List.exists_cons_of_ne_nil h.ne_nil
  have hbracket : first ≠ '[' := ne_of_isBare (h.bare first List.mem_cons_self) (by decide)
  rw [statement]
  · rw [takeKeyEquals_append h hblank htab]
    rfl
  · rintro after heq
    exact hbracket (List.cons.inj heq).1
  · rintro after heq
    exact hbracket (List.cons.inj heq).1

/-- A line that starts with a bare name is a statement. -/
theorem line_of_isBareName (h : IsBareName name) (rest : Text) :
    d.line (name ++ rest) = (do
      let (d, rest) ← d.statement (name ++ rest)
      return (d, ← skipComment (skipBlanks rest))) := by
  obtain ⟨first, name', rfl⟩ := List.exists_cons_of_ne_nil h.ne_nil
  have hfirst : isBare first = true := h.bare first List.mem_cons_self
  rw [line, List.cons_append, skipBlanks_of_ne (ne_of_isBare hfirst (by decide))
    (ne_of_isBare hfirst (by decide))]
  simp only [ne_of_isBare hfirst (show isBare '\n' = false by decide),
    ne_of_isBare hfirst (show isBare '#' = false by decide), startsEntry_of_isBare hfirst,
    if_false, Bool.true_or, if_true]

theorem line_entry (h : IsBareName name) {c : Char} (hblank : c ≠ ' ') (htab : c ≠ '\t')
    {v : Value} (hvalue : takeValue (c :: value ++ '\n' :: rest) = .ok (v, '\n' :: rest))
    (hadd : d.addEntry [name] v = .ok d') :
    d.line (name ++ ' ' :: '=' :: ' ' :: (c :: value ++ '\n' :: rest)) =
      .ok (d', '\n' :: rest) := by
  rw [line_of_isBareName h, List.cons_append, statement_entry h hblank htab, ← List.cons_append,
    hvalue]
  simp only [bind, Except.bind, pure, Except.pure, hadd, orStop]
  rfl

theorem line_entry_of_error (h : IsBareName name) {c : Char} (hblank : c ≠ ' ') (htab : c ≠ '\t')
    {stop : Stop} (hvalue : takeValue (c :: rest) = .error stop) :
    d.line (name ++ ' ' :: '=' :: ' ' :: c :: rest) = .error stop := by
  rw [line_of_isBareName h, statement_entry h hblank htab, hvalue]
  rfl

/-! ## Many lines -/

/-- The lines of a text, each with its end, turn one document into another. -/
inductive Reads : Document → Text → Document → Prop
  | done (d : Document) : Reads d [] d
  | line {d d₁ d₂ : Document} {l t : Text}
      (hline : ∀ rest, d.line (l ++ '\n' :: rest) = .ok (d₁, '\n' :: rest))
      (hrest : Reads d₁ t d₂) : Reads d (l ++ '\n' :: t) d₂

theorem Reads.append (h : Reads d t d₁) (h' : Reads d₁ t' d₂) : Reads d (t ++ t') d₂ := by
  induction h with
  | done d => exact h'
  | line hline _ ih =>
    rw [List.append_assoc, List.cons_append]
    exact .line hline (ih h')

theorem Reads.blank (h : Reads d t d') : Reads d ('\n' :: t) d' :=
  Reads.line (l := []) (line_blank d) h

theorem Reads.comment {l : Text} (hl : ∀ c ∈ l, isIllegal false c = false) (h : Reads d t d') :
    Reads d ('#' :: (l ++ '\n' :: t)) d' :=
  Reads.line (l := '#' :: l) (line_comment d hl) h

theorem Reads.header (hname : IsBareName name) (hopen : d.settle.openTable [name] = .ok d₁)
    (h : Reads d₁ t d') : Reads d ('[' :: (name ++ ']' :: '\n' :: t)) d' := by
  have hline : Reads d (('[' :: (name ++ [']'])) ++ '\n' :: t) d' :=
    .line (fun rest => by simpa using line_header hname hopen rest) h
  simpa using hline

theorem Reads.entry (hname : IsBareName name) {c : Char} (hblank : c ≠ ' ') (htab : c ≠ '\t')
    {v : Value}
    (hvalue : ∀ rest, takeValue (c :: value ++ '\n' :: rest) = .ok (v, '\n' :: rest))
    (hadd : d.addEntry [name] v = .ok d₁) (h : Reads d₁ t d') :
    Reads d (name ++ ' ' :: '=' :: ' ' :: (c :: value ++ '\n' :: t)) d' := by
  have hline : Reads d ((name ++ ' ' :: '=' :: ' ' :: c :: value) ++ '\n' :: t) d' :=
    .line (fun rest => by simpa using line_entry hname hblank htab (hvalue rest) hadd) h
  simpa using hline

theorem linesWithin_nil (fuel : Nat) (d : Document) : linesWithin fuel d [] = .ok d := by
  cases fuel <;> rfl

/-- The lines that are read may be counted off, and enough remains for the rest. -/
theorem Reads.linesWithin (h : Reads d t d') :
    ∃ k, ∀ fuel rest,
      linesWithin (t.length + fuel) d (t ++ rest) = linesWithin (k + fuel) d' rest := by
  induction h with
  | done d => exact ⟨0, fun _ _ => rfl⟩
  | @line d d₁ d₂ l t hline _ ih =>
    obtain ⟨k, hk⟩ := ih
    refine ⟨k + l.length, fun fuel rest => ?_⟩
    have hfuel : (l ++ '\n' :: t).length + fuel = t.length + (l.length + fuel) + 1 := by
      simp only [List.length_append, List.length_cons]
      omega
    rw [hfuel, List.append_assoc, List.cons_append, Document.linesWithin, hline]
    simp only [bind, Except.bind, if_true]
    rw [hk, Nat.add_assoc]

theorem joinNewlines_of_notMem (h : '\r' ∉ t) : joinNewlines t = t := by
  induction t with
  | nil => rfl
  | cons c t ih =>
    obtain ⟨hc, ht⟩ := not_or.1 (mt List.mem_cons.2 h)
    rw [joinNewlines]
    · rw [ih ht]
    · rintro after rfl
      exact absurd rfl hc

/-- The table of a text whose lines are all read. -/
theorem parse_of_reads (hreturn : '\r' ∉ t) (h : Reads {} t d) : parse t = .ok d.table := by
  obtain ⟨k, hk⟩ := h.linesWithin
  have hlines : linesWithin (t.length + 1) {} t = .ok d := by
    rw [← linesWithin_nil (k + 1) d, ← hk 1 [], List.append_nil]
  rw [parse, joinNewlines_of_notMem hreturn]
  simp only [hlines]

/-- A line that stops the reader of lines stops it wherever it stands. -/
theorem linesWithin_of_reads_of_error (h : Reads {} t d) {stop : Stop}
    (hrest : d.line rest = .error stop) :
    linesWithin ((t ++ rest).length + 1) {} (t ++ rest) = .error stop := by
  obtain ⟨k, hk⟩ := h.linesWithin
  rw [List.length_append, Nat.add_assoc, hk, ← Nat.add_assoc, Document.linesWithin, hrest]
  rfl

/-- A line that cannot be read spoils the text. -/
theorem parse_of_reads_of_error (hreturn : '\r' ∉ t ++ rest) (h : Reads {} t d) {reason : Reason}
    {after : Text} (hrest : d.line rest = .error (.fault reason after)) :
    parse (t ++ rest) = .error (.at reason (place (t ++ rest) after)) := by
  rw [parse, joinNewlines_of_notMem hreturn]
  simp only [linesWithin_of_reads_of_error h hrest]

end Document

end Pinpoint.Toml
