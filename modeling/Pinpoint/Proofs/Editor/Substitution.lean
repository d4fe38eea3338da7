import Mathlib.Data.List.TakeWhile
import Pinpoint.Proofs.Editor

/-!
# Templates that only substitute

A word of a template may be put together from text without braces, doubled braces and the names of
the four values in braces, with nothing behind the name. Filling such a word in is plain
substitution: one part after another, from left to right, and what has been put in is behind the
reader by then.

* `Part`, `written`, `filled`: such words, as they are written and as they are filled in.
* `pieces_written`: the pieces of such a word, whatever follows it.
* `fill_written`: filling in a whole word.
* `command_substitutes`: the command of a template that consists of such words.
-/

namespace Pinpoint.Editor

open Template (Memory Value accessors fill fillPiece fillWithin lookUp pieces startsAccessor
  takeField takeName)

variable {e : Editor} {memory : Memory} {s : Specifier} {t rest : Text} {c : Char}

/-! ## Specification -/

/-- The values that a template may ask for. -/
inductive Placeholder
  | path
  | line
  | column
  | target
  deriving DecidableEq, Repr

namespace Placeholder

/-- The name of a value. -/
def name : Placeholder → Text
  | path => "path"
  | line => "line"
  | column => "column"
  | target => "target"

/-- The kind of a value. -/
def kind : Placeholder → Template.Kind
  | path => .text
  | line => .number
  | column => .number
  | target => .text

/-- What a specifier has for a name. Without a position it counts as line 1, column 1, but a target
    is no more than the path then. -/
def value (s : Specifier) : Placeholder → Text
  | path => s.path.render
  | line => Text.ofInt (s.position.elim 1 Position.line)
  | column => Text.ofInt (s.position.elim 1 Position.column)
  | target => s.path.render ++ s.position.elim [] fun position =>
      ':' :: (Text.ofInt position.line ++ ':' :: Text.ofInt position.column)

end Placeholder

/-- A part of a word: text without braces, a brace that is written twice, or a name in braces. -/
inductive Part
  | text (t : Text) (hopen : '\x7b' ∉ t) (hclose : '\x7d' ∉ t)
  | openBrace
  | closeBrace
  | placeholder (p : Placeholder)

namespace Part

/-- A part as it stands in a template. -/
def written : Part → Text
  | text t _ _ => t
  | openBrace => ['\x7b', '\x7b']
  | closeBrace => ['\x7d', '\x7d']
  | placeholder p => '\x7b' :: (p.name ++ ['\x7d'])

/-- The pieces of a part. -/
def pieces : Part → List Template.Piece
  | text t _ _ => t.map .char
  | openBrace => [.char '\x7b']
  | closeBrace => [.char '\x7d']
  | placeholder p => [.field { name := p.name }]

/-- A part as it stands in a command. -/
def filled (s : Specifier) : Part → Text
  | text t _ _ => t
  | openBrace => ['\x7b']
  | closeBrace => ['\x7d']
  | placeholder p => p.value s

end Part

/-- A word as it stands in a template. -/
def written (parts : List Part) : Text := parts.flatMap Part.written

/-- A word as it stands in a command. -/
def filled (s : Specifier) (parts : List Part) : Text := parts.flatMap (Part.filled s)

/-! ## Reading the parts of a word -/

theorem pieces_char (hopen : c ≠ '\x7b') (hclose : c ≠ '\x7d') (rest : Text) :
    pieces (c :: rest) = .char c :: pieces rest := by
  rw [pieces]
  all_goals simp_all

/-- A field that has been read is a piece. -/
theorem pieces_field {after : Text} {f : Template.Field} (hopen : c ≠ '\x7b')
    (h : takeField (c :: rest) = .ok (f, after)) :
    pieces ('\x7b' :: c :: rest) = .field f :: pieces after := by
  rw [pieces]
  · split <;> simp_all
  · simpa using hopen

/-- A name is read up to the brace behind it. -/
theorem takeName_append {name : Text} (h : ∀ c ∈ name, c ∉ ['\x7b', '\x7d', ':', '!', '['])
    (rest : Text) : takeName false (name ++ '\x7d' :: rest) = .ok (name, '\x7d', rest) := by
  induction name with
  | nil => rfl
  | cons c name ih =>
    obtain ⟨hc, hname⟩ := List.forall_mem_cons.1 h
    simp only [List.mem_cons, List.not_mem_nil, or_false, not_or] at hc
    obtain ⟨hopen, hclose, hcolon, hmark, hbracket⟩ := hc
    rw [List.cons_append, takeName, if_neg hopen, if_neg (by simp [hclose, hcolon, hmark]),
      decide_eq_false hbracket, ih hname]
    rfl

/-- A name in braces, with nothing behind the name. -/
theorem pieces_name {name : Text} (h : ∀ c ∈ name, c ∉ ['\x7b', '\x7d', ':', '!', '['])
    (hne : name ≠ []) (rest : Text) :
    pieces ('\x7b' :: (name ++ '\x7d' :: rest)) = .field { name } :: pieces rest := by
  have hfield : takeField (name ++ '\x7d' :: rest) = .ok ({ name }, rest) := by
    rw [takeField, takeName_append h]
    rfl
  obtain ⟨c, name, rfl⟩ := List.exists_cons_of_ne_nil hne
  refine pieces_field (fun hc => ?_) hfield
  exact (List.forall_mem_cons.1 h).1 (by simp [hc])

namespace Placeholder

variable (p : Placeholder)

theorem notMem_of_mem_name :
    ∀ c ∈ p.name, c ∉ ['\x7b', '\x7d', ':', '!', '['] ∧ (!startsAccessor c) = true := by
  cases p <;> decide

theorem name_ne_nil : p.name ≠ [] := by
  cases p <;> decide

/-- A name is read up to an accessor. -/
theorem parse_name {t : Text} (h : t.head?.all startsAccessor = true) :
    Template.Name.parse (p.name ++ t) = ⟨p.name, accessors t⟩ := by
  have hname : ∀ c ∈ p.name, (!startsAccessor c) = true := fun c hc =>
    (p.notMem_of_mem_name c hc).2
  rw [Template.Name.parse, List.takeWhile_append_of_pos hname, List.dropWhile_append_of_pos hname]
  cases t with
  | nil => rw [List.takeWhile_nil, List.dropWhile_nil, List.append_nil]
  | cons c t =>
    have hc : (!startsAccessor c) = false := by simpa using h
    rw [List.takeWhile_cons, List.dropWhile_cons, hc]
    simp

/-- Every name has its value among those that a template may use. -/
theorem exists_lookUp (memory : Memory) (s : Specifier) :
    ∃ v : Value, lookUp (values s) p.name = .ok v ∧ v.plain memory = p.value s ∧
      v.kindOf = p.kind := by
  cases p
  case path => exact ⟨.text s.path.render, rfl, rfl, rfl⟩
  case target =>
    refine ⟨.text s.target, rfl, ?_, rfl⟩
    cases hposition : s.position <;>
      simp [value, Value.plain, Specifier.target, Position.render, hposition]
  case line | column =>
    refine ⟨.number _, rfl, ?_, rfl⟩
    cases hposition : s.position <;> simp [value, Value.plain, Value.simple, hposition]

end Placeholder

/-- A part is read whatever follows it. -/
theorem pieces_part (part : Part) (rest : Text) :
    pieces (part.written ++ rest) = part.pieces ++ pieces rest := by
  cases part with
  | text t hopen hclose =>
    change pieces (t ++ rest) = t.map .char ++ pieces rest
    induction t with
    | nil => rfl
    | cons c t ih =>
      obtain ⟨hc, ht⟩ := not_or.1 (mt List.mem_cons.2 hopen)
      obtain ⟨hc', ht'⟩ := not_or.1 (mt List.mem_cons.2 hclose)
      rw [List.cons_append, pieces_char (Ne.symm hc) (Ne.symm hc'), ih ht ht']
      rfl
  | openBrace => simp [Part.written, Part.pieces, pieces]
  | closeBrace => simp [Part.written, Part.pieces, pieces]
  | placeholder p =>
    have hwritten : (Part.placeholder p).written ++ rest =
        '\x7b' :: (p.name ++ '\x7d' :: rest) := by
      simp [Part.written]
    rw [hwritten]
    exact pieces_name (fun c hc => (p.notMem_of_mem_name c hc).1) p.name_ne_nil rest

/-- A word is read part by part, whatever follows it. -/
theorem pieces_written (parts : List Part) (rest : Text) :
    pieces (written parts ++ rest) = parts.flatMap Part.pieces ++ pieces rest := by
  induction parts with
  | nil => rfl
  | cons part parts ih =>
    rw [written, List.flatMap_cons, List.append_assoc, pieces_part, List.flatMap_cons,
      List.append_assoc]
    exact congrArg (part.pieces ++ ·) ih

/-! ## Filling in a word -/

/-- A part is replaced by what it stands for. -/
theorem fillPieces_part (memory : Memory) (s : Specifier) (nested : Text → Except _ Points)
    (part : Part) :
    ∃ ps, part.pieces.mapM (fillPiece memory (values s) nested) = .ok ps ∧
      ps.flatten = Text.points (part.filled s) := by
  cases part with
  | text t hopen hclose =>
    refine ⟨t.map fun c => [.char c], ?_, ?_⟩
    · rw [Part.pieces, List.mapM_map]
      exact List.mapM_pure
    · rw [← List.flatMap_def]
      exact List.flatMap_pure_eq_map _ t
  | openBrace => exact ⟨_, rfl, rfl⟩
  | closeBrace => exact ⟨_, rfl, rfl⟩
  | placeholder p =>
    obtain ⟨v, hlookUp, hplain, -⟩ := p.exists_lookUp memory s
    refine ⟨[Text.points (v.plain memory)], ?_, by rw [hplain]; simp [Part.filled]⟩
    have hvalue : (Template.Name.parse p.name).value (values s) = .ok v := by
      have hparse := p.parse_name (t := []) rfl
      rw [List.append_nil, accessors] at hparse
      rw [Template.Name.value, hparse, hlookUp]
      rfl
    rw [Part.pieces, List.mapM_cons, fillPiece, hvalue]
    rfl

/-- A word is filled in part by part. -/
theorem fillPieces_written (memory : Memory) (s : Specifier) (nested : Text → Except _ Points)
    (parts : List Part) :
    ∃ ps, (parts.flatMap Part.pieces).mapM (fillPiece memory (values s) nested) = .ok ps ∧
      ps.flatten = Text.points (filled s parts) := by
  induction parts with
  | nil => exact ⟨[], rfl, rfl⟩
  | cons part parts ih =>
    obtain ⟨first, hfirst, hflatten⟩ := fillPieces_part memory s nested part
    obtain ⟨ps, hps, hrest⟩ := ih
    refine ⟨first ++ ps, ?_, ?_⟩
    · rw [List.flatMap_cons, List.mapM_append, hfirst, hps]
      rfl
    · rw [List.flatten_append, hflatten, hrest]
      exact List.map_append.symm

theorem fill_written (memory : Memory) (s : Specifier) (parts : List Part) :
    fill memory (values s) (written parts) = .ok (Text.points (filled s parts)) := by
  have hpieces := pieces_written parts []
  rw [List.append_nil, show pieces [] = [] by rw [pieces], List.append_nil] at hpieces
  obtain ⟨ps, hps, hflatten⟩ :=
    fillPieces_written memory s (fillWithin memory (values s) 1) parts
  rw [fill, fillWithin, hpieces, hps, ← hflatten]
  rfl

/-! ## Commands -/

/-- **Substitution.** Where the words of a template are put together from text without braces,
    doubled braces and names in braces, the command for a specifier has the same number of words,
    and each of them is the word of the template with single braces for doubled ones and the value
    of the specifier for each name. What the values are made of plays no part. -/
theorem command_substitutes {words : List (List Part)}
    (h : Shell.words e.template = .ok (words.map written)) (memory : Memory) (s : Specifier) :
    e.command memory s = .ok (words.map fun parts => Text.points (filled s parts)) := by
  have hword : fillWord memory e.template s ∘ written =
      fun parts => pure (Text.points (filled s parts)) :=
    funext fun parts => fillWord_ok_iff.2 (fill_written memory s parts)
  rw [command, h]
  dsimp only
  rw [List.mapM_map, hword, List.mapM_pure]
  rfl

/-- A file whose name has a quote, a blank and a name in braces in it, with a position. -/
def bracedFile : Specifier := .file ⟨.slash, ["work", "it's \x7bline\x7d"]⟩ (some ⟨7, 3⟩)

/-- A template with quotes, doubled braces around a name, and names next to text. -/
def bracedEditor : Editor :=
  ⟨"vi +\x7bline\x7d '\x7b\x7b\x7bpath\x7d\x7d\x7d at' \x7btarget\x7d", by decide⟩

/-- The words of this template, part by part. -/
def bracedWords : List (List Part) :=
  [[.text "vi" (by decide) (by decide)],
    [.text "+" (by decide) (by decide), .placeholder .line],
    [.openBrace, .placeholder .path, .closeBrace, .text " at" (by decide) (by decide)],
    [.placeholder .target]]

/-- What is put in is neither split nor filled in again. -/
theorem braced_file_put_in :
    Shell.words bracedEditor.template = .ok (bracedWords.map written) ∧
      ∀ memory, bracedEditor.command memory bracedFile = .ok ["vi".toList, "+7".toList,
        "\x7b/work/it's \x7bline\x7d\x7d at".toList, "/work/it's \x7bline\x7d:7:3".toList] := by
  have hwords : Shell.words bracedEditor.template = .ok (bracedWords.map written) := by decide
  refine ⟨hwords, fun memory => (command_substitutes hwords memory bracedFile).trans ?_⟩
  decide

end Pinpoint.Editor
