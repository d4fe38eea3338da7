import Pinpoint.Editor
import Pinpoint.Proofs.Template.Overreach
import Pinpoint.Toml.Value

/-!
# Settings for the editor

The setting for the editor may be any value. A value that is no text has no words, and a text may
have a word that asks for too much. Nothing else is beyond a report.

* `Crashes`: the settings that are beyond a report.
* `crashes_text_iff`: among the texts they are the templates whose command has a fault that cannot
  be told.
* `exists_not_isPlain_of_crashes`: such a template has a field that is not plain.
-/

namespace Pinpoint.Editor

open Template (Memory Overreaches fill pieces)

variable {e : Editor} {memory : Memory} {s : Specifier} {template word : Text} {fault : Fault}

/-! ## Specification -/

/-- The settings that cannot be reported when a specifier is opened: those that are no text, and
    the templates that are not blank and have a word which asks for too much, behind words that can
    be filled in. -/
inductive Crashes (memory : Memory) (s : Specifier) : Toml.Value → Prop
  | noText {value : Toml.Value} (h : ∀ template, value ≠ .text template) : Crashes memory s value
  | word {template word : Text} {before after : List Text}
      (hblank : Text.trim template ≠ [])
      (hwords : Shell.words template = .ok (before ++ word :: after))
      (hbefore : ∀ w ∈ before, ∃ p, fill memory (values s) w = .ok p)
      (hword : Overreaches memory (values s) 2 word) :
      Crashes memory s (.text template)

/-- A fault that can be told: it is reported, and its message is a text. -/
def Fault.IsTellable (fault : Fault) : Prop :=
  fault.isReported = true ∧ fault.message.text?.isSome

/-! ## Words -/

theorem fillWord_ok_iff {p : Points} :
    fillWord memory template s word = .ok p ↔ fill memory (values s) word = .ok p := by
  rw [fillWord]
  cases fill memory (values s) word <;> simp

theorem isTellable_filling_iff {cause : Template.Fault} :
    (Fault.filling cause).IsTellable ↔ cause.IsTellable := by
  rw [Fault.IsTellable, Template.Fault.IsTellable, Fault.isReported, Bool.not_eq_true']
  rfl

/-- The fault of a word can be told exactly if what stops its template can. -/
theorem not_failsOnly_fillWord_iff :
    ¬ FailsOnly Fault.IsTellable (fillWord memory template s word) ↔
      Overreaches memory (values s) 2 word := by
  rw [← Template.not_tellable_fillWithin_iff, fillWord, fill]
  cases Template.fillWithin memory (values s) 2 word with
  | ok p => exact iff_of_false (not_not_intro (failsOnly_ok _)) (not_not_intro (failsOnly_ok _))
  | error cause =>
    dsimp only
    rw [not_failsOnly_error_iff, not_failsOnly_error_iff]
    split_ifs with hunknown
    · have hcause := Template.isTellable_of_isUnknown hunknown
      refine iff_of_false (not_not_intro ⟨rfl, ?_⟩) (not_not_intro hcause)
      simp [Fault.message, Points.isSome_text?_append, hcause.2]
    · exact not_congr isTellable_filling_iff

/-! ## Commands -/

/-- The command of an editor has a fault that cannot be told if its first word that cannot be filled
    in has. -/
theorem not_failsOnly_command_iff :
    ¬ FailsOnly Fault.IsTellable (e.command memory s) ↔
      ∃ before word after, Shell.words e.template = .ok (before ++ word :: after) ∧
        (∀ w ∈ before, ∃ p, fill memory (values s) w = .ok p) ∧
        Overreaches memory (values s) 2 word := by
  rw [command]
  cases Shell.words e.template with
  | error splitting =>
    have htold : (Fault.splitting splitting).IsTellable := ⟨rfl, by simp [Fault.message]⟩
    exact iff_of_false (not_not_intro (failsOnly_error htold)) (by simp)
  | ok words =>
    simp only [not_failsOnly_mapM_iff, fillWord_ok_iff, not_failsOnly_fillWord_iff,
      Except.ok.injEq]

theorem ofTemplate_ok_iff :
    ofTemplate template = .ok e ↔ e.template = template := by
  obtain ⟨t, ht⟩ := e
  rw [ofTemplate]
  split_ifs with h
  · constructor
    · rintro ⟨⟩
    · rintro rfl
      exact absurd h ht
  · simp [eq_comm]

theorem isTellable_ofTemplate (h : ofTemplate template = .error fault) : fault.IsTellable := by
  rw [ofTemplate] at h
  split_ifs at h
  cases h
  exact ⟨rfl, rfl⟩

/-- A text is beyond a report exactly if the command of its editor has a fault that cannot be
    told. -/
theorem crashes_text_iff :
    Crashes memory s (.text template) ↔ ∃ e fault, ofTemplate template = .ok e ∧
      e.command memory s = .error fault ∧ ¬ fault.IsTellable := by
  constructor
  · rintro (hno | ⟨hblank, hwords, hbefore, hword⟩)
    · exact absurd rfl (hno template)
    · have hcommand := (not_failsOnly_command_iff (e := ⟨template, hblank⟩)).2
        ⟨_, _, _, hwords, hbefore, hword⟩
      obtain ⟨fault, hfault, htold⟩ := not_failsOnly_iff.1 hcommand
      exact ⟨_, fault, ofTemplate_ok_iff.2 rfl, hfault, htold⟩
  · rintro ⟨e, fault, he, hcommand⟩
    obtain ⟨before, word, after, hwords, hbefore, hword⟩ :=
      not_failsOnly_command_iff.1 (not_failsOnly_iff.2 ⟨fault, hcommand⟩)
    obtain rfl := ofTemplate_ok_iff.1 he
    exact .word e.trim_ne_nil hwords hbefore hword

theorem crashes_template_iff :
    Crashes memory s (.text e.template) ↔
      ∃ fault, e.command memory s = .error fault ∧ ¬ fault.IsTellable := by
  have he : ofTemplate e.template = .ok e := ofTemplate_ok_iff.2 rfl
  rw [crashes_text_iff]
  constructor
  · rintro ⟨e', fault, he', hfault⟩
    cases he'.symm.trans he
    exact ⟨fault, hfault⟩
  · rintro ⟨fault, hfault⟩
    exact ⟨e, fault, he, hfault⟩

theorem not_crashes_of_command {cmd : List Points} (h : e.command memory s = .ok cmd) :
    ¬ Crashes memory s (.text e.template) := by
  intro hcrash
  obtain ⟨fault, hfault, -⟩ := crashes_template_iff.1 hcrash
  cases hfault.symm.trans h

/-- A template that is beyond a report has a word with a field that is not plain. -/
theorem exists_not_isPlain_of_crashes (h : Crashes memory s (.text template)) :
    ∃ words, Shell.words template = .ok words ∧
      ∃ word ∈ words, ∃ f, .field f ∈ pieces word ∧ ¬ f.IsPlain := by
  cases h with
  | noText hno => exact absurd rfl (hno template)
  | word hblank hwords hbefore hword =>
    exact ⟨_, hwords, _, List.mem_append_cons_self,
      Template.exists_not_isPlain_of_overreaches hword⟩

end Pinpoint.Editor
