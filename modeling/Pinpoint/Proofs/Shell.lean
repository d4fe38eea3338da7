import Mathlib.Data.List.TakeWhile
import Pinpoint.Proofs.Path.Reading
import Pinpoint.Shell
import Pinpoint.Text.Blank

/-!
# Command lines read back

A command line that is put together from words is split into the same words again, whatever
they consist of: a word that needs no quotes is read character by character, any other one between
its quotes, and a blank stands only between two words. Surrogates are read like any other character
that means nothing, so that a command line is a text exactly if its words are. Whatever a command
line is, a character in it that does not separate words begins one, and a word that has begun is not
lost.

* `wordsFrom_quote`: a word in quotes, if it needs them, is read to its end.
* `words_join`: the words of a command line that has been put together.
* `words_points`, `join_points`: texts among code points.
* `join_eq_points_iff`, `text?_join_eq_none_iff`: command lines that are texts, and those that are
  none.
* `getLast?_join`: such a command line does not end in a backslash.
* `words_ne_nil`: a command line that is not blank has a word, if it has words at all.
-/

namespace Pinpoint.Shell

open Alphabet (char? ofChar)

section

variable {α : Type} [Alphabet α] {c : α} {t : List α} {ws : List (List α)}

/-! ## Words without quotes -/

theorem isSafe_eq {d : Char} (h : char? c = some d) : isSafe c = isSafe d := by
  rw [isSafe, h]
  rfl

/-- A safe character neither separates nor quotes. -/
theorem isSeparator_of_isSafe (h : isSafe c = true) :
    isSeparator c = false ∧ char? c ≠ some '\\' ∧ char? c ≠ some '\'' ∧ char? c ≠ some '"' := by
  have hspecial : ∀ d ∈ [' ', '\t', '\r', '\n', '\\', '\'', '"'], isSafe d = false := by decide
  have hne : ∀ d ∈ [' ', '\t', '\r', '\n', '\\', '\'', '"'], char? c ≠ some d := by
    intro d hd hc
    rw [isSafe_eq hc, hspecial d hd] at h
    cases h
  simp only [List.forall_mem_cons] at hne
  obtain ⟨hblank, htab, hreturn, hnewline, hslash, hsingle, hdouble, -⟩ := hne
  refine ⟨?_, hslash, hsingle, hdouble⟩
  rw [isSeparator]
  cases hc : char? c <;> simp_all

theorem wordsFrom_safe (h : isSafe c = true) (word : Option (List α)) (rest : List α) :
    wordsFrom .plain word (c :: rest) = wordsFrom .plain (extend word c) rest := by
  obtain ⟨hseparator, hslash, hsingle, hdouble⟩ := isSeparator_of_isSafe h
  rw [wordsFrom, hseparator, if_neg Bool.false_ne_true, if_neg hslash, if_neg hsingle,
    if_neg hdouble]

/-- Safe characters go on with a word that has begun. -/
theorem wordsFrom_safe_append (h : ∀ c ∈ t, isSafe c = true) (word rest : List α) :
    wordsFrom .plain (some word) (t ++ rest) = wordsFrom .plain (some (word ++ t)) rest := by
  induction t generalizing word with
  | nil => rw [List.nil_append, List.append_nil]
  | cons c t ih =>
    obtain ⟨hc, ht⟩ := List.forall_mem_cons.1 h
    rw [List.cons_append, wordsFrom_safe hc, extend, Option.getD_some, ih ht, List.append_assoc]
    rfl

/-! ## Words in quotes -/

/-- Between single quotes every character is read back, a single quote by way of double ones. -/
theorem wordsFrom_quoteChar (c : α) (word rest : List α) :
    wordsFrom .single (some word) (quoteChar c ++ rest) =
      wordsFrom .single (some (word ++ [c])) rest := by
  rw [quoteChar]
  split_ifs with hc
  · obtain rfl := Alphabet.char?_eq_some_iff.1 hc
    simp [wordsFrom, isSeparator, begun, extend]
  · rw [List.singleton_append, wordsFrom, if_neg hc]
    rfl

theorem wordsFrom_quoteChars (t word rest : List α) :
    wordsFrom .single (some word) (t.flatMap quoteChar ++ rest) =
      wordsFrom .single (some (word ++ t)) rest := by
  induction t generalizing word with
  | nil => rw [List.flatMap_nil, List.nil_append, List.append_nil]
  | cons c t ih =>
    rw [List.flatMap_cons, List.append_assoc, wordsFrom_quoteChar, ih, List.append_assoc]
    rfl

/-- A quoted word is read to its end. -/
theorem wordsFrom_quote (word rest : List α) :
    wordsFrom .plain none (quote word ++ rest) = wordsFrom .plain (some word) rest := by
  rw [quote]
  split_ifs with hsafe
  · obtain ⟨hne, hall⟩ := hsafe
    obtain ⟨c, t, rfl⟩ := List.exists_cons_of_ne_nil hne
    obtain ⟨hc, ht⟩ := List.forall_mem_cons.1 (List.all_eq_true.1 hall)
    rw [List.cons_append, wordsFrom_safe hc]
    exact wordsFrom_safe_append ht [c] rest
  · have hopen : wordsFrom .plain none (ofChar '\'' :: (word.flatMap quoteChar ++
        ofChar '\'' :: rest)) =
        wordsFrom .single (some []) (word.flatMap quoteChar ++ ofChar '\'' :: rest) := by
      simp [wordsFrom, isSeparator, begun]
    have hclose : wordsFrom .single (some word) (ofChar '\'' :: rest) =
        wordsFrom .plain (some word) rest := by
      simp [wordsFrom]
    rw [List.cons_append, List.append_assoc]
    exact hopen.trans ((wordsFrom_quoteChars word [] (ofChar '\'' :: rest)).trans hclose)

/-! ## Command lines -/

theorem join_singleton (word : List α) : join [word] = quote word := by
  rw [join, List.map_singleton, List.intercalate_singleton]

theorem join_cons (word : List α) (h : ws ≠ []) :
    join (word :: ws) = quote word ++ ofChar ' ' :: join ws := by
  rw [join, List.map_cons, List.intercalate_cons_of_ne_nil (mt List.map_eq_nil_iff.1 h),
    List.append_assoc]
  rfl

theorem wordsFrom_blank (word rest : List α) :
    wordsFrom .plain (some word) (ofChar ' ' :: rest) = (do
      let words ← wordsFrom .plain none rest
      return word :: words) := by
  simp [wordsFrom, isSeparator]

/-- **Joined words.** Splitting a command line gives the words back that it was put together
    from. -/
theorem words_join (ws : List (List α)) : words (join ws) = .ok ws := by
  unfold words
  induction ws with
  | nil => rfl
  | cons word ws ih =>
    by_cases hws : ws = []
    · have hquote := wordsFrom_quote word []
      rw [List.append_nil] at hquote
      rw [hws, join_singleton, hquote]
      rfl
    · rw [join_cons word hws, wordsFrom_quote, wordsFrom_blank, ih]
      rfl

theorem getLast?_quote (word : List α) : (quote word).getLast? ≠ some (ofChar '\\') := by
  rw [quote]
  split_ifs with hsafe
  · intro hlast
    have hslash := List.all_eq_true.1 hsafe.2 _ (List.mem_of_getLast? hlast)
    exact (isSeparator_of_isSafe hslash).2.1 (Alphabet.char?_ofChar _)
  · rw [← List.cons_append, List.getLast?_concat]
    intro hlast
    have hquote := Alphabet.char?_eq_some_iff.2 (Option.some.inj hlast)
    rw [Alphabet.char?_ofChar] at hquote
    exact absurd hquote (by decide)

/-- A word that ends in a backslash is quoted. -/
theorem getLast?_join (ws : List (List α)) : (join ws).getLast? ≠ some (ofChar '\\') := by
  induction ws with
  | nil => exact fun h => by cases h
  | cons word ws ih =>
    by_cases hws : ws = []
    · rw [hws, join_singleton]
      exact getLast?_quote word
    · rw [join_cons word hws, List.getLast?_append, List.getLast?_cons, Option.some_or]
      intro hlast
      cases hrest : (join ws).getLast? with
      | none =>
        rw [hrest] at hlast
        have hblank := Alphabet.char?_eq_some_iff.2 (Option.some.inj hlast)
        rw [Option.getD_none, Alphabet.char?_ofChar] at hblank
        exact absurd hblank (by decide)
      | some c =>
        rw [hrest] at hlast ih
        exact ih hlast

/-! ## Command lines with words -/

/-- A word that has begun is not lost, whatever follows it. -/
theorem wordsFrom_ne_nil {mode : Mode} {word : Option (List α)} (hword : word ≠ none)
    (h : wordsFrom mode word t = .ok ws) : ws ≠ [] := by
  fun_induction wordsFrom mode word t generalizing ws
  case case1 =>
    cases h
    simpa using hword
  case case2 | case3 | case4 | case5 => cases h
  case case6 word c rest hseparator ih =>
    -- The word ends here, in front of the others.
    obtain ⟨first, rfl⟩ := Option.ne_none_iff_exists'.1 hword
    cases hrest : wordsFrom .plain none rest with
    | error fault =>
      rw [hrest] at h
      cases h
    | ok words =>
      rw [hrest] at h
      cases h
      exact List.cons_ne_nil first words
  case case7 ih | case8 ih | case9 ih | case10 ih | case11 ih | case13 ih | case16 ih | case17 ih =>
    exact ih (Option.some_ne_none _) h
  case case12 ih | case14 ih | case15 ih => exact ih hword h

end

/-! ## Texts among code points -/

theorem isSeparator_char (c : Char) : isSeparator (CodePoint.char c) = isSeparator c := rfl

theorem char?_char (c : Char) : char? (CodePoint.char c) = char? c := rfl

theorem begun_points (word : Option Text) :
    begun (word.map Text.points) = (begun word).map Text.points := by
  cases word <;> rfl

theorem extend_points (word : Option Text) (c : Char) :
    extend (word.map Text.points) (.char c) = (extend word c).map Text.points := by
  cases word <;> simp [extend, Text.points]

theorem keepBackslash_points (word : Option Text) (c : Char) :
    keepBackslash (word.map Text.points) (.char c) =
      (keepBackslash word c).map Text.points := by
  rw [keepBackslash, keepBackslash, ← char?_char]
  split_ifs
  · rfl
  · exact extend_points word '\\'

theorem wordsFrom_points (mode : Mode) (word : Option Text) (t : Text) :
    wordsFrom mode (word.map Text.points) t.points =
      (wordsFrom mode word t).map (List.map Text.points) := by
  fun_induction wordsFrom mode word t
  case case1 word => cases word <;> rfl
  case case2 | case3 | case4 | case5 => rfl
  case case6 word c rest hseparator ih =>
    have hfirst : wordsFrom .plain (word.map Text.points) (Text.points (c :: rest)) = (do
        return (word.map Text.points).toList ++ (← wordsFrom .plain none (Text.points rest))) := by
      rw [Text.points, List.map_cons, wordsFrom, isSeparator_char, if_pos hseparator]
      rfl
    rw [Option.map_none] at ih
    rw [hfirst, ih]
    cases wordsFrom .plain none rest with
    | error fault => rfl
    | ok words => cases word <;> rfl
  all_goals
    simp_all [Text.points, wordsFrom, char?_char, isSeparator_char, ← extend_points,
      ← begun_points, ← keepBackslash_points]

/-- The code points of a text are split where the text is. -/
theorem words_points (t : Text) : words t.points = (words t).map (List.map Text.points) :=
  wordsFrom_points .plain none t

theorem quoteChar_char (c : Char) :
    quoteChar (CodePoint.char c) = Text.points (quoteChar c) := by
  rw [quoteChar, quoteChar, ← char?_char]
  split_ifs <;> rfl

theorem quote_points (word : Text) : quote word.points = Text.points (quote word) := by
  have hsafe : (word.points ≠ [] ∧ word.points.all isSafe) ↔ (word ≠ [] ∧ word.all isSafe) := by
    rw [Text.points, List.all_map, Ne, List.map_eq_nil_iff]
    rfl
  have hquoted : word.points.flatMap quoteChar = Text.points (word.flatMap quoteChar) := by
    rw [Text.points, Text.points, List.flatMap_map, List.map_flatMap]
    exact congrArg (word.flatMap ·) (funext quoteChar_char)
  rw [quote, quote, hquoted]
  simp only [hsafe]
  split_ifs
  · rfl
  · simp [Text.points, ofChar]

/-- Texts are put together to a text. -/
theorem join_points (ws : List Text) : join (ws.map Text.points) = Text.points (join ws) := by
  induction ws with
  | nil => rfl
  | cons word ws ih =>
    by_cases hws : ws = []
    · rw [hws, List.map_singleton, join_singleton, join_singleton, quote_points]
    · rw [List.map_cons, join_cons _ (mt List.map_eq_nil_iff.1 hws), join_cons _ hws, ih,
        quote_points, Text.points, Text.points, Text.points, List.map_append, List.map_cons]
      rfl

/-- A command line is a text exactly if its words are. -/
theorem join_eq_points_iff {cmd : List Points} {line : Text} :
    join cmd = line.points ↔ ∃ ws, cmd = ws.map Text.points ∧ line = join ws := by
  constructor
  · intro h
    have hwords := words_join cmd
    rw [h, words_points] at hwords
    cases hline : words line with
    | error fault =>
      rw [hline] at hwords
      cases hwords
    | ok ws =>
      rw [hline] at hwords
      obtain rfl : ws.map Text.points = cmd := Except.ok.inj hwords
      rw [join_points] at h
      exact ⟨ws, rfl, (Text.points_inj.1 h).symm⟩
  · rintro ⟨ws, rfl, rfl⟩
    exact join_points ws

/-- A command line that is no text has a word that is none. -/
theorem text?_join_eq_none_iff {cmd : List Points} :
    Points.text? (join cmd) = none ↔ ∀ ws : List Text, cmd ≠ ws.map Text.points := by
  rw [Option.eq_none_iff_forall_ne_some]
  simp only [ne_eq, Points.text?_eq_some_iff, join_eq_points_iff]
  constructor
  · intro h ws hws
    exact h _ ⟨ws, hws, rfl⟩
  · rintro h line ⟨ws, hws, -⟩
    exact h ws hws

/-! ## Command lines that are not blank -/

section

variable {c : Char} {t : Text} {ws : List Text}

/-- A character that separates words is blank. -/
theorem isBlank_of_isSeparator (h : isSeparator c = true) : Text.isBlank c = true := by
  change (c = ' ' || c = '\t' || c = '\r' || c = '\n') = true at h
  simp only [Bool.or_eq_true, decide_eq_true_eq] at h
  rcases h with ((rfl | rfl) | rfl) | rfl <;> decide

theorem exists_isBlank_eq_false (h : Text.trim t ≠ []) : ∃ c ∈ t, Text.isBlank c = false := by
  by_contra hall
  push Not at hall
  have hblank : ∀ c ∈ t, Text.isBlank c = true := fun c hc => by simpa using hall c hc
  refine h ?_
  rw [Text.trim, Text.trimLeft, List.dropWhile_eq_nil_iff.2 hblank]
  rfl

/-- A character that is not blank begins a word, or goes on with one. -/
theorem wordsFrom_ne_nil_of_mem (h : wordsFrom .plain none t = .ok ws) (hc : c ∈ t)
    (hblank : Text.isBlank c = false) : ws ≠ [] := by
  induction t generalizing ws with
  | nil => cases hc
  | cons d rest ih =>
    rw [wordsFrom] at h
    split_ifs at h with hseparator
    · have hrest : c ∈ rest := by
        rcases List.mem_cons.1 hc with rfl | hrest
        · cases hblank.symm.trans (isBlank_of_isSeparator hseparator)
        · exact hrest
      cases hwords : wordsFrom .plain none rest with
      | error fault =>
        rw [hwords] at h
        cases h
      | ok words =>
        rw [hwords] at h
        cases h
        exact ih hwords hrest
    all_goals exact wordsFrom_ne_nil (Option.some_ne_none _) h

/-- A command line that is not blank has a word, if it can be split at all. -/
theorem words_ne_nil (h : words t = .ok ws) (hblank : Text.trim t ≠ []) : ws ≠ [] := by
  obtain ⟨c, hc, hcblank⟩ := exists_isBlank_eq_false hblank
  exact wordsFrom_ne_nil_of_mem h hc hcblank

end

end Pinpoint.Shell
