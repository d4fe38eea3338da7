import Pinpoint.Proofs.CommandLine.Resolve
import Pinpoint.Proofs.Console.Lines

/-!
# Outcomes as lines of text

Every outcome is printed on a line of its own: a phrase in a style that tells whether the
argument was resolved, and an escaped text that tells what it leads to or why it leads
nowhere. The phrase and the blank behind it are always printed as they are. The text is
printed as it is exactly where it is verbatim.

* `printOutcomes_text_run`: what is printed of some outcomes.
* `text_verbatim_iff`: what a whole run prints, and when it is what the outcomes say.
-/

namespace Pinpoint.CommandLine

open Console (IsLine unlines unlines_map_inj isLine_of_le printUnbroken_phrase)
open Markup (EmojiTable IsPrintable IsStyle Verbatim shown shown_eq_iff tagText escape plain
  isStyle_of_mem le_of_mem_shown le_of_isPrintable)

variable {around : Surroundings} {tree : Tree} {args : List Text} {j : Journal} {o : Outcome}
  {outcomes : List Outcome} {emojis : EmojiTable}

/-! ## Specification -/

/-- The phrase in front of an outcome: the kind of what was found, or that there was an error. -/
def outcomePhrase (o : Outcome) : Text :=
  match o.result with
  | .ok s => Text.padRight 9 ' ' s.kind.name
  | .error _ => "ERROR:"

/-- What an outcome tells: the text for an editor, or the message of the failure. -/
def outcomeText (o : Outcome) : Text :=
  match o.result with
  | .ok s => s.target
  | .error f => f.message

/-- The line of an outcome. -/
def outcomeLine (o : Outcome) : Text := outcomePhrase o ++ ' ' :: outcomeText o

/-- The line that is printed of an outcome. -/
def printedLine (emojis : EmojiTable) (o : Outcome) : Text :=
  outcomePhrase o ++ ' ' :: shown emojis (outcomeText o)

/-! ## One line -/

/-- The style of the phrase. -/
def outcomeStyle (o : Outcome) : Text :=
  match o.result with
  | .ok _ => "green"
  | .error _ => "red"

theorem outcomeMarkup_eq (o : Outcome) :
    outcomeMarkup o = tagText 0 (outcomeStyle o)
      (outcomePhrase o ++ tagText 0 ('/' :: outcomeStyle o) ([' '] ++ escape (outcomeText o))) := by
  obtain ⟨argument, f | s⟩ := o
  · rfl
  · have happend : ∀ phrase t : Text, "[green]".toList ++ phrase ++ "[/green] ".toList ++ t =
        tagText 0 "green" (phrase ++ tagText 0 ('/' :: "green".toList) ([' '] ++ t)) := by
      intro phrase t
      rw [List.append_assoc, List.append_assoc]
      rfl
    exact happend _ _

theorem isStyle_outcomeStyle (o : Outcome) : IsStyle (outcomeStyle o) := by
  obtain ⟨argument, f | s⟩ := o
  · exact isStyle_of_mem "red" (by decide)
  · exact isStyle_of_mem "green" (by decide)

/-- All phrases. -/
def phrases : List Text := ["file     ", "directory", "ERROR:"]

theorem outcomePhrase_mem (o : Outcome) : outcomePhrase o ∈ phrases := by
  have hkinds : ∀ kind : SpecifierKind, Text.padRight 9 ' ' kind.name ∈ phrases := by
    rintro (_ | _) <;> decide
  obtain ⟨argument, f | s⟩ := o
  · have herror : "ERROR:".toList ∈ phrases := by decide
    exact herror
  · exact hkinds s.kind

/-- No emoji code is in a phrase, whatever the emojis are. -/
theorem plain_of_mem_phrases {phrase : Text} (h : phrase ∈ phrases) :
    plain emojis phrase = phrase := by
  simp only [phrases, List.mem_cons, List.not_mem_nil, or_false] at h
  rcases h with rfl | rfl | rfl <;> rfl

theorem isLine_of_mem_phrases {phrase : Text} (h : phrase ∈ phrases) : IsLine phrase := by
  have hall : ∀ phrase ∈ phrases, IsLine phrase := by decide
  exact hall phrase h

/-- No text without control characters breaks the line behind a phrase. -/
theorem isLine_outcomePhrase_append (o : Outcome) {t : Text} (h : ∀ c ∈ t, 0x20 ≤ c.toNat) :
    IsLine (outcomePhrase o ++ ' ' :: t) :=
  (isLine_of_mem_phrases (outcomePhrase_mem o)).append
    (isLine_of_le (List.forall_mem_cons.2 ⟨by decide, h⟩))

theorem isLine_printedLine (h : IsPrintable (outcomeText o)) : IsLine (printedLine emojis o) :=
  isLine_outcomePhrase_append o fun _ => le_of_mem_shown h

theorem isLine_outcomeLine (h : IsPrintable (outcomeText o)) : IsLine (outcomeLine o) :=
  isLine_outcomePhrase_append o fun c hc => le_of_isPrintable (h c hc)

theorem printUnbroken_outcomeMarkup (emojis : EmojiTable) (h : IsPrintable (outcomeText o)) :
    Console.printUnbroken emojis (outcomeMarkup o) = .ok (printedLine emojis o ++ ['\n']) := by
  have hplain : ∀ phrase ∈ phrases, '[' ∉ phrase ∧ phrase.getLast? ≠ some '\\' := by decide
  have hmem := outcomePhrase_mem o
  obtain ⟨hbracket, hlast⟩ := hplain _ hmem
  rw [outcomeMarkup_eq]
  exact printUnbroken_phrase (isStyle_outcomeStyle o) hbracket hlast (plain_of_mem_phrases hmem)
    (isLine_of_mem_phrases hmem) h

/-- A line is printed as the outcome tells exactly where its text is verbatim. -/
theorem printedLine_eq_iff (h : IsPrintable (outcomeText o)) :
    printedLine emojis o = outcomeLine o ↔ Verbatim emojis (outcomeText o) := by
  rw [printedLine, outcomeLine, List.append_cancel_left_eq, List.cons.injEq, shown_eq_iff h]
  exact and_iff_right rfl

/-! ## All lines -/

theorem forM_sayUnbroken_run (h : ∀ o ∈ outcomes, IsPrintable (outcomeText o)) (j : Journal) :
    (outcomes.forM fun o => Action.sayUnbroken (outcomeMarkup o)).run around j =
      ({ j with printed := j.printed ++ unlines (outcomes.map (printedLine around.emojis)) },
        .ok ()) := by
  induction outcomes generalizing j with
  | nil => simp [unlines]
  | cons o outcomes ih =>
    have hprint := printUnbroken_outcomeMarkup around.emojis (h o List.mem_cons_self)
    have hsay : (Action.sayUnbroken (outcomeMarkup o)).run around j =
        ({ j with printed := j.printed ++ (printedLine around.emojis o ++ ['\n']) }, .ok ()) := by
      rw [Action.sayUnbroken, Action.run_bind_of_ok Action.around_run, hprint,
        Action.run_bind_of_ok (Action.orUncaught_run_ok _ _), Action.write_run]
    rw [List.forM, Action.run_bind_of_ok hsay,
      ih fun o ho => h o (List.mem_cons_of_mem _ ho)]
    simp [unlines]

theorem printOutcomes_text_run (h : ∀ o ∈ outcomes, IsPrintable (outcomeText o)) (j : Journal) :
    (printOutcomes "text" outcomes).run around j =
      ({ j with printed := j.printed ++ unlines (outcomes.map (printedLine around.emojis)) },
        .ok ()) := by
  unfold printOutcomes
  rw [if_neg (by decide), if_neg (by decide)]
  exact forM_sayUnbroken_run h j

/-! ## The whole run -/

theorem ResolveRun.printed_text (r : ResolveRun around tree args) (htext : r.format = "text")
    (h : ∀ o ∈ r.outcomes, IsPrintable (outcomeText o)) :
    (run around tree args).journal.printed =
      unlines (r.outcomes.map (printedLine around.emojis)) := by
  obtain ⟨hjournal, -⟩ := r.report_eq (htext ▸ printOutcomes_text_run h r.ready)
  rw [hjournal, r.printed_ready]
  rfl

/-- **Lines of text.** A run that resolves arguments and prints text, where what the outcomes tell
    is printable, prints one line for each argument, in order: the kind in nine characters or
    `ERROR:`, a blank, and what is printed of an escaped text. These are the texts that the outcomes
    tell exactly if all of them are verbatim. -/
theorem text_verbatim_iff {around : Surroundings} {tree : Tree} {args : List Text}
    (r : ResolveRun around tree args) (htext : r.format = "text")
    (hprintable : ∀ o ∈ r.outcomes, IsPrintable (outcomeText o)) :
    let printed := (run around tree args).journal.printed
    r.outcomes.map (·.argument) = r.asked.args ∧
      printed = unlines (r.outcomes.map (printedLine around.emojis)) ∧
      (∀ o ∈ r.outcomes, IsLine (printedLine around.emojis o)) ∧
      (printed = unlines (r.outcomes.map outcomeLine) ↔
        ∀ o ∈ r.outcomes, Verbatim around.emojis (outcomeText o)) := by
  intro printed
  have hprinted : printed = unlines (r.outcomes.map (printedLine around.emojis)) :=
    r.printed_text htext hprintable
  refine ⟨r.arguments_eq, hprinted, fun o ho => isLine_printedLine (hprintable o ho), ?_⟩
  rw [hprinted, unlines_map_inj (fun o ho => isLine_printedLine (hprintable o ho))
    fun o ho => isLine_outcomeLine (hprintable o ho)]
  exact forall₂_congr fun o ho => printedLine_eq_iff (hprintable o ho)

/-- A file with brackets in its name. -/
def bracketFiles : Table := Table.addEntry "/work/[a].txt" .file {}

/-- The file is found with a line of it, and another one is not found. -/
def bracketRun : ResolveRun (workSurroundings bracketFiles) ⟨homeNodes⟩
    ["resolve", "[a].txt:3", "b"] :=
  workRun bracketFiles ["[a].txt:3", "b"] ["[a].txt:3", "b"] none "text"
    [⟨"[a].txt:3", .ok (.file ⟨.slash, ["work", "[a].txt"]⟩ (some ⟨3, 1⟩))⟩,
      ⟨"b", .error { kind := .noMatch, argument := "/work/b".toList }⟩]
    (read_positional (by decide) (by decide)) rfl (by decide) rfl

/-- Brackets are printed as they are. -/
theorem brackets_printed_verbatim :
    (∀ o ∈ bracketRun.outcomes, IsPrintable (outcomeText o)) ∧
      (run (workSurroundings bracketFiles) ⟨homeNodes⟩
        ["resolve", "[a].txt:3", "b"]).journal.printed =
        "file      /work/[a].txt:3:1\nERROR: \"/work/b\" is not a file or directory\n" := by
  have hprintable : ∀ o ∈ bracketRun.outcomes, IsPrintable (outcomeText o) := by decide
  have hverbatim : ∀ o ∈ bracketRun.outcomes, Verbatim EmojiTable.common (outcomeText o) := by
    decide +kernel
  exact ⟨hprintable, (text_verbatim_iff bracketRun rfl hprintable).2.2.2.2 hverbatim⟩

/-- A file that is asked for with a position in it. -/
def positionFiles : Table := Table.addEntry "/work/main.py" .file {}

/-- Line 100 of the file, column 5. -/
def positionRun : ResolveRun (workSurroundings positionFiles) ⟨homeNodes⟩
    ["resolve", "main.py:100:5"] :=
  workRun positionFiles ["main.py:100:5"] ["main.py:100:5"] none "text"
    [⟨"main.py:100:5", .ok (.file ⟨.slash, ["work", "main.py"]⟩ (some ⟨100, 5⟩))⟩]
    (read_positional (by decide) (by decide)) rfl (by decide) rfl

/-- A line number between colons may be an emoji code. -/
theorem line_number_printed_as_emoji :
    positionRun.format = "text" ∧
      (∀ o ∈ positionRun.outcomes, IsPrintable (outcomeText o)) ∧
      positionRun.outcomes.map outcomeLine = ["file      /work/main.py:100:5".toList] ∧
      (run (workSurroundings positionFiles) ⟨homeNodes⟩
        ["resolve", "main.py:100:5"]).journal.printed = "file      /work/main.py💯5\n" := by
  have hprintable : ∀ o ∈ positionRun.outcomes, IsPrintable (outcomeText o) := by decide
  have hlines : positionRun.outcomes.map (printedLine EmojiTable.common) =
      ["file      /work/main.py💯5".toList] := by decide +kernel
  refine ⟨rfl, hprintable, by decide, (positionRun.printed_text rfl hprintable).trans ?_⟩
  exact congrArg unlines hlines

end Pinpoint.CommandLine
