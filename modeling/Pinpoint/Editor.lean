import Pinpoint.FileSystem
import Pinpoint.Markup
import Pinpoint.Shell
import Pinpoint.Specifier
import Pinpoint.Template
import Pinpoint.Text.Blank

/-!
# Editors

An editor is known by a command template. The template is split into words by the rules of the
shell, and each word is filled in with the path, the line, the column and the target of a
specifier. Splitting comes first, so that nothing in a path is ever taken for a blank or a quote.

* `Editor.command` — the argument list for a specifier.
* `Editor.Start` — what the operating system makes of an argument list.
-/

namespace Pinpoint

/-- A command template that is not blank (`EditorRunner`). -/
structure Editor where
  template : Text
  trim_ne_nil : Text.trim template ≠ []

namespace Editor

/-- Why an editor cannot be started. -/
inductive Fault
  | emptyTemplate
  | splitting (fault : Shell.Fault)
  | unknownPlaceholder (fault : Template.Fault) (template : Text)
  | filling (fault : Template.Fault)
  | notFound (program : Points)
  | refused (reason : Text)
  | starting (e : OsError)
  deriving DecidableEq, Repr

/-- The wording of a fault. -/
def Fault.message : Fault → Points
  | emptyTemplate => "Editor command template is empty"
  | splitting fault => fault.message
  | unknownPlaceholder fault template =>
    "Unknown placeholder " ++ fault.message ++ " in editor command: " ++ template
  | filling fault => fault.message
  | notFound program =>
    "Editor '" ++ program ++ "' not found in PATH.\n" ++
      "Set editor.command in the config file or pass --editor"
  | refused reason => reason
  | starting e => e.message

/-- The fault lies in the command, and is reported to whoever gave it. What a template asks of a
value is beyond a report, as is a program that is there and cannot be started. -/
def Fault.isReported : Fault → Bool
  | filling fault => !fault.isAboutValue
  | starting _ => false
  | _ => true

/-- The editor of a template. -/
def ofTemplate (template : Text) : Except Fault Editor :=
  if h : Text.trim template = [] then .error .emptyTemplate else .ok ⟨template, h⟩

/-- The values that a template may use. A specifier without a position counts as line 1,
column 1. -/
def values (s : Specifier) : Template.Values :=
  let position := s.position.getD ⟨1, 1⟩
  [("path".toList, .text s.path.render), ("line".toList, .number position.line),
    ("column".toList, .number position.column), ("target".toList, .text s.target)]

/-- Fills one word in. -/
def fillWord (memory : Template.Memory) (template : Text) (s : Specifier) (word : Text) :
    Except Fault Points :=
  match Template.fill memory (values s) word with
  | .ok p => .ok p
  | .error fault =>
    .error (if fault.isUnknown then .unknownPlaceholder fault template else .filling fault)

/-- The argument list for a specifier (`EditorRunner.build_command`). -/
def command (e : Editor) (memory : Template.Memory) (s : Specifier) :
    Except Fault (List Points) :=
  match Shell.words e.template with
  | .error fault => .error (.splitting fault)
  | .ok words => words.mapM (fillWord memory e.template s)

/-- The markup that shows a command line before it is carried out. -/
def announcement (line : Text) : Text := "[dim]$ " ++ Markup.escape line ++ "[/dim]"

/-- What the operating system makes of an argument list: an exit code, or a reason why there is
none. There may be no such program, the list may be none that can be handed over, or starting the
program fails. -/
inductive Start
  | exited (code : Int)
  | notFound
  | refused (reason : Text)
  | failed (e : OsError)
  deriving DecidableEq, Repr

/-- The exit code of a command that was started, or why it has none. -/
def Start.result (cmd : List Points) : Start → Except Fault Int
  | exited code => .ok code
  | notFound => .error (.notFound (cmd.headD []))
  | refused reason => .error (.refused reason)
  | failed e => .error (.starting e)

end Editor

end Pinpoint
