import Mathlib.Data.List.Basic
import Pinpoint.Proofs.Text.Replace
import Pinpoint.Proofs.Toml.Lines
import Pinpoint.Proofs.Toml.Quoted
import Pinpoint.Settings

/-!
# The file that is written at first

The editor command is the only part of the file that is not fixed, and it stands between
quotes on a line of its own. Whatever it holds, it neither ends that line nor reaches
beyond the quotes, so the file says the same about everything else.

* `reads_linesBeforeEditor`, `reads_linesAfterEditor`: the fixed lines.
* `parse_defaultText_ok_iff`: the file can be read exactly where the command is within
  the basic plane, and then it gives the defaults and that command, and nothing else.
* `shown_defaultTable`: these settings as they are shown.
-/

namespace Pinpoint.Settings

open Toml Toml.Document

/-! ## Specification -/

/-- The table of the file: the defaults, and an editor command. -/
def defaultTable (editor : Text) : Toml.Table := [
  ("output", .table [("format", .text "text")]),
  ("resolver", .table [("jobs", .integer 4)]),
  ("editor", .table [("command", .text editor)]),
  ("logging", .table [("level", .text "WARNING")])]

/-! ## The fixed lines -/

variable {editor : Text}

/-- A key and the equals sign behind it. -/
def assign (key : Text) (t : Text) : Text := key ++ ' ' :: '=' :: ' ' :: t

/-- The lines before the one of the editor command. -/
def linesBeforeEditor : Text :=
  '#' :: (" Linecol Configuration".toList ++ '\n' ::
  '#' :: (" Location: ~/.config/linecol/config.toml".toList ++ '\n' ::
  '#' :: (" Follows XDG Base Directory Specification".toList ++ '\n' ::
  '\n' ::
  '[' :: ("output".toList ++ ']' :: '\n' ::
  '#' :: (" Output format for `linecol resolve`: text, json or yaml".toList ++ '\n' ::
  assign "format" (Json.quote "text" ++ '\n' ::
  '\n' ::
  '[' :: ("resolver".toList ++ ']' :: '\n' ::
  '#' :: (" Worker threads used when several arguments are resolved at once".toList ++ '\n' ::
  assign "jobs" (['4'] ++ '\n' ::
  '\n' ::
  '[' :: ("editor".toList ++ ']' :: '\n' ::
  '#' :: (" Command used by `linecol open`".toList ++ '\n' ::
  '#' :: (" Placeholders: \x7bpath\x7d, \x7bline\x7d, \x7bcolumn\x7d, \x7btarget\x7d ".toList ++
    "(path:line:column)".toList ++ '\n' :: []))))))))))))

/-- The lines after the one of the editor command. -/
def linesAfterEditor : Text :=
  '\n' ::
  '[' :: ("logging".toList ++ ']' :: '\n' ::
  '#' :: (" DEBUG, INFO, WARNING or ERROR".toList ++ '\n' ::
  assign "level" (Json.quote "WARNING" ++ '\n' :: [])))

theorem defaultText_eq (editor : Text) :
    defaultText editor =
      linesBeforeEditor ++ assign "command" (Json.quote editor ++ '\n' :: linesAfterEditor) := by
  have htemplate : template = linesBeforeEditor ++ (assign "command" [] ++
      (placeholder ++ '\n' :: linesAfterEditor)) := by decide +kernel
  have hbefore : '@' ∉ linesBeforeEditor := by decide +kernel
  have hafter : '@' ∉ '\n' :: linesAfterEditor := by decide +kernel
  have hplaceholder : placeholder = '@' :: "EDITOR_COMMAND@".toList := rfl
  rw [defaultText, htemplate, hplaceholder, Text.replace_append hbefore,
    Text.replace_append (by decide), Text.replace_pattern, Text.replace_of_notMem hafter, assign,
    assign]
  simp

/-- The document of the lines before the editor command. -/
def documentBeforeEditor : Document where
  table := [
    ("output", .table [("format", .text "text")]),
    ("resolver", .table [("jobs", .integer 4)]),
    ("editor", .table [])]
  header := ["editor"]
  declared := [["editor"], ["resolver"], ["output"]]

/-- The document with an editor command. -/
def documentOfEditor (editor : Text) : Document where
  table := [
    ("output", .table [("format", .text "text")]),
    ("resolver", .table [("jobs", .integer 4)]),
    ("editor", .table [("command", .text editor)])]
  header := ["editor"]
  declared := [["editor"], ["resolver"], ["output"]]

/-- The document of all lines. -/
def documentOfFile (editor : Text) : Document where
  table := defaultTable editor
  header := ["logging"]
  declared := [["logging"], ["editor"], ["resolver"], ["output"]]

theorem reads_linesBeforeEditor : Reads {} linesBeforeEditor documentBeforeEditor := by
  have hformat : ∀ rest, takeValue (Json.quote "text" ++ '\n' :: rest) =
      .ok (.text "text", '\n' :: rest) := takeValue_quote_of_isBasic (by decide) (by decide)
  have hjobs : ∀ rest, takeValue (['4'] ++ '\n' :: rest) = .ok (.integer 4, '\n' :: rest) :=
    takeValue_of_digit (by decide) (by decide)
  refine .comment (by decide) <| .comment (by decide) <| .comment (by decide) <| .blank ?_
  -- The first table.
  refine .header (by decide) rfl <| .comment (by decide) ?_
  refine .entry (by decide) (by decide) (by decide) hformat rfl <| .blank ?_
  -- The second one.
  refine .header (by decide) rfl <| .comment (by decide) ?_
  refine .entry (by decide) (by decide) (by decide) hjobs rfl <| .blank ?_
  -- The head of the third.
  exact .header (by decide) rfl <| .comment (by decide) <| .comment (by decide) <| .done _

theorem reads_linesAfterEditor (editor : Text) :
    Reads (documentOfEditor editor) linesAfterEditor (documentOfFile editor) := by
  have hlevel : ∀ rest, takeValue (Json.quote "WARNING" ++ '\n' :: rest) =
      .ok (.text "WARNING", '\n' :: rest) := takeValue_quote_of_isBasic (by decide) (by decide)
  refine .blank <| .header (by decide) rfl <| .comment (by decide) ?_
  exact .entry (by decide) (by decide) (by decide) hlevel rfl <| .done _

/-! ## The editor command -/

theorem return_notMem_defaultText (editor : Text) : '\r' ∉ defaultText editor := by
  have hbefore : '\r' ∉ linesBeforeEditor := by decide +kernel
  have hafter : '\r' ∉ linesAfterEditor := by decide +kernel
  have hquote : '\r' ∉ Json.quote editor := fun h =>
    absurd (Json.visible_of_mem_quote h) (by decide)
  rw [defaultText_eq, assign]
  simp [hbefore, hafter, hquote]

theorem parse_defaultText (h : IsBasic editor) :
    parse (defaultText editor) = .ok (defaultTable editor) := by
  have hreturn := return_notMem_defaultText editor
  rw [defaultText_eq] at hreturn ⊢
  refine parse_of_reads (d := documentOfFile editor) hreturn (reads_linesBeforeEditor.append ?_)
  exact .entry (by decide) (by decide) (by decide) (takeValue_quote_of_isBasic h (by decide)) rfl
    (reads_linesAfterEditor editor)

/-- A command with a character beyond the basic plane spoils the file. -/
theorem parse_defaultText_of_beyond (h : ¬ IsBasic editor) :
    ∃ place, parse (defaultText editor) = .error (.at .notScalar place) := by
  have hreturn := return_notMem_defaultText editor
  rw [defaultText_eq] at hreturn ⊢
  obtain ⟨after, hafter⟩ := takeValue_quote_of_beyond h (c := '\n') (by decide) linesAfterEditor
  exact ⟨_, parse_of_reads_of_error hreturn reads_linesBeforeEditor
    (line_entry_of_error (by decide) (by decide) (by decide) hafter)⟩

/-- **The file says what it should.** For every editor command, the file that is written at first
    can be read exactly where no character of the command is beyond the basic plane. It then holds
    the four tables with the defaults and the command, character for character, and nothing else. -/
theorem parse_defaultText_ok_iff {editor : Text} {table : Toml.Table} :
    parse (defaultText editor) = .ok table ↔ IsBasic editor ∧ table = defaultTable editor := by
  by_cases h : IsBasic editor
  · rw [parse_defaultText h, Except.ok.injEq, eq_comm]
    exact ⟨fun htable => ⟨h, htable⟩, And.right⟩
  · obtain ⟨place, hplace⟩ := parse_defaultText_of_beyond h
    rw [hplace]
    constructor
    · intro hok
      cases hok
    · exact fun hbasic => absurd hbasic.1 h

/-! ## What is shown of it -/

/-- One digit is not too many, whatever the limit is. -/
theorem lt_pow {n limit : Nat} (h : n < 10) (hlimit : limit ≠ 0) : n < Nat.pow 10 limit :=
  h.trans_le (Nat.le_self_pow hlimit 10)

theorem ensureWritable_integer {n : Nat} (h : n < 10) :
    ensureWritable (.integer n) = .ok () := by
  have hwritable : Toml.Value.isWritable (.integer n) = true := by
    rw [Toml.Value.isWritable]
    exact decide_eq_true (lt_pow h (by decide))
  rw [ensureWritable, hwritable]
  rfl

theorem ensureWritable_text (t : Text) : ensureWritable (.text t) = .ok () := by
  simp [ensureWritable, Toml.Value.isWritable]

/-- The settings of the file that has been written, as they are shown. -/
theorem shown_defaultTable (dir : Path) (editor : Text) :
    shown ⟨dir, defaultTable editor⟩ = .ok [
      ⟨"output.format", "text", true⟩, ⟨"resolver.jobs", Text.ofInt 4, true⟩,
      ⟨"editor.command", editor, true⟩, ⟨"logging.level", Text.upper "WARNING", true⟩] := by
  generalize hs : (⟨dir, defaultTable editor⟩ : Settings) = s
  have hformat : s.get? "output.format" = some (.text "text") := by rw [← hs]; rfl
  have hjobs : s.get? "resolver.jobs" = some (.integer 4) := by rw [← hs]; rfl
  have heditor : s.get? "editor.command" = some (.text editor) := by rw [← hs]; rfl
  have hlevel : s.get? "logging.level" = some (.text "WARNING") := by rw [← hs]; rfl
  have hknown : outputFormat s = .ok "text" := by
    rw [outputFormat, hformat]
    rfl
  have hworkers : jobs s = .ok 4 := by
    rw [jobs, hjobs]
    rfl
  have hwritable : ensureWritable (.integer 4) = .ok () :=
    ensureWritable_integer (n := 4) (by decide)
  simp only [shown, hknown, hworkers, logLevel, editorCommand, hlevel,
    heditor, hwritable, ensureWritable_text, Option.getD_some, bind, Except.bind, pure,
    Except.pure, List.map_cons, List.map_nil, hformat, hjobs, Option.isSome_some,
    Toml.Value.display]

end Pinpoint.Settings
