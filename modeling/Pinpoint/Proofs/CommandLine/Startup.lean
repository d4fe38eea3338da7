import Pinpoint.Proofs.CommandLine.DryRun
import Pinpoint.Proofs.Markup.Literal

/-!
# Starting up

Before a command is carried out, the logger is set up. Settings that cannot be had or a level that
is not known hinder that; the message then goes to a markup printer as it is, behind the word for an
error. What the message is about, such as a level that somebody has made up, may look like markup,
so that it is not told, or not as it is, or the run ends with a fault of the printer.

* `Request.level`, `Request.hindrance`: the level that is asked for, and what is wrong with it.
* `StartsCleanly`: a run that starts, or tells what hinders it.
* `complainAndExit_run_eq`, `configure_run_of_none`, `configure_run_of_some`: setting the logger up.
* `render_error_eq_iff`: the messages that are told as they are.
* `startsCleanly_iff_literal`: the runs that start cleanly.
-/

namespace Pinpoint.CommandLine

open Markup (FailsUnder Literal Prints isStyle_of_mem prints_of_notMem tagText)

variable {around : Surroundings} {tree : Tree} {args : List Text} {j : Journal} {r : Request}
  {message : Text} {α : Type}

/-! ## Specification -/

/-- The name of the log level: what options say, or else the settings, if they can be had. Writing
    settings does without them. -/
def Request.level (r : Request) (opened : Except Settings.Fault Settings) :
    Except Settings.Fault Text :=
  if r.verbose then .ok "DEBUG"
  else
    r.logLevel.elim (if r.command = .init then .ok "WARNING" else opened.bind Settings.logLevel) .ok

/-- The message of what keeps the logger from being set up, if anything does. -/
def Request.hindrance (r : Request) (opened : Except Settings.Fault Settings) : Option Text :=
  match r.level opened with
  | .error fault => some fault.message
  | .ok level =>
    if Logging.Level.ofName? level = none then some (Logging.UnknownLevel.message ⟨level⟩) else none

/-- The settings that a run finds, or why it cannot have them. -/
def Surroundings.settings (around : Surroundings) (tree : Tree) : Except Settings.Fault Settings :=
  Settings.open tree around.place around.environment.dir

/-- A run starts: the logger has a level, and the command is carried out. Or else the message of
    what hinders it is printed behind the word for an error as it is, among the complaints and
    broken into lines like any prose, and the run ends with exit code 1. -/
inductive StartsCleanly (around : Surroundings) (tree : Tree) (args : List Text) (r : Request) :
    Prop
  | ready {level : Logging.Level}
      (hconfigured : (configure r).run around { tree } =
        ({ tree, logger := .ofLevel level }, .ok ()))
      (haction : (action args).run around { tree } =
        (runCommand r.command r.args).run around { tree, logger := .ofLevel level }) :
      StartsCleanly around tree args r
  | told {message : Text} (hhinders : r.hindrance (around.settings tree) = some message)
      (hrender : Markup.render around.emojis (Action.errorHead ++ message) =
        .ok ("ERROR: " ++ message))
      (hreport : run around tree args =
        ⟨{ tree, complained := Console.unlines (Console.wrap around.width ("ERROR: " ++ message)) },
          some (.exit 1)⟩) :
      StartsCleanly around tree args r

/-! ## Complaints -/

/-- What has been done, and why the run ends, once a message has been complained of or could not
    be. -/
def Journal.complaint (j : Journal) (width : Nat) (emojis : Markup.EmojiTable) (message : Text) :
    Journal × Stop :=
  match Markup.render emojis (Action.errorHead ++ message) with
  | .ok text =>
    ({ j with complained := j.complained ++ Console.unlines (Console.wrap width text) },
      .exit 1)
  | .error fault => (j, .uncaught (.markup fault))

theorem complainAndExit_run_eq (message : Text) (around : Surroundings) (j : Journal) :
    (complainAndExit message : Action α).run around j =
      ((j.complaint around.width around.emojis message).1,
        .error (j.complaint around.width around.emojis message).2) := by
  rw [complainAndExit, Journal.complaint]
  cases hrender : Markup.render around.emojis (Action.errorHead ++ message) with
  | ok text =>
    have hprint : Console.print around.width around.emojis (Action.errorHead ++ message) =
        .ok (Console.unlines (Console.wrap around.width text)) := by
      rw [Console.print, hrender]
      rfl
    rw [Action.run_bind_of_ok (Action.complain_run_of_print hprint)]
    rfl
  | error fault =>
    have hprint : Console.print around.width around.emojis (Action.errorHead ++ message) =
        .error fault := by
      rw [Console.print, hrender]
      rfl
    rw [Action.run_bind_of_error (Action.complain_run_of_error hprint)]

theorem errorHead_append (message : Text) :
    Action.errorHead ++ message =
      tagText 0 "red" ("ERROR:" ++ tagText 0 ('/' :: "red".toList) (' ' :: message)) := rfl

/-- The blank in front of a message means nothing to markup. -/
theorem literal_blank_iff {emojis : Markup.EmojiTable} :
    Literal emojis (' ' :: message) ↔ Literal emojis message := by
  have hbracket : ['\\', '['] <:+: ' ' :: message ↔ ['\\', '['] <:+: message := by
    rw [List.infix_cons_iff, or_iff_right]
    rintro ⟨after, hafter⟩
    cases hafter
  have huntagged : Markup.Untagged (' ' :: message) ↔ Markup.Untagged message :=
    Markup.untagged_char (Markup.hasTag_of_ne (by decide) (by decide) message)
  have hemoji : Markup.replaceEmoji emojis (' ' :: message) =
      ' ' :: Markup.replaceEmoji emojis message := rfl
  constructor
  · rintro ⟨htags, hcodes, hbrackets, hcontrol⟩
    rw [hemoji] at hcodes
    exact ⟨huntagged.1 htags, (List.cons.inj hcodes).2, fun h => hbrackets (hbracket.2 h),
      (List.forall_mem_cons.1 hcontrol).2⟩
  · rintro ⟨htags, hcodes, hbrackets, hcontrol⟩
    exact ⟨huntagged.2 htags, hemoji.trans (congrArg (' ' :: ·) hcodes),
      fun h => hbrackets (hbracket.1 h), List.forall_mem_cons.2 ⟨rfl, hcontrol⟩⟩

/-- A message is told as it is exactly if it is literal. -/
theorem render_error_eq_iff {emojis : Markup.EmojiTable} :
    Markup.render emojis (Action.errorHead ++ message) = .ok ("ERROR: " ++ message) ↔
      Literal emojis message := by
  have hword : Markup.plain emojis "ERROR:" = "ERROR:".toList := rfl
  have hphrase : Markup.render emojis
      (tagText 0 "red" ("ERROR:" ++ tagText 0 ('/' :: "red".toList) (' ' :: message))) =
        .ok (Markup.plain emojis "ERROR:" ++ ' ' :: message) ↔ Literal emojis (' ' :: message) :=
    Markup.render_phrase_eq_iff (isStyle_of_mem "red" (by decide)) (by decide) (by decide)
  rw [hword] at hphrase
  rw [errorHead_append, ← literal_blank_iff]
  exact hphrase

/-- A message without brackets is always told. -/
theorem complaint_of_notMem (h : '[' ∉ message) (j : Journal) (width : Nat)
    (emojis : Markup.EmojiTable) : (j.complaint width emojis message).2 = .exit 1 := by
  have hblank : '[' ∉ ' ' :: message := by simpa using h
  have hmessage : Prints emojis (' ' :: message) [' ' :: message] := prints_of_notMem hblank
  have hprints :=
    hmessage.styled (isStyle_of_mem "red" (by decide)) "ERROR:" (by decide) (by decide)
  rw [Journal.complaint, errorHead_append, hprints.render]

/-! ## Setting the logger up -/

theorem chooseLevel_run_eq (r : Request) (around : Surroundings) (j : Journal) :
    (chooseLevel r).run around j =
      (Action.orReported (fun fault => fault.isWrong || fault.isUnfit)
        (fun fault => complainAndExit fault.message)
        (r.level (around.settings j.tree))).run around j := by
  obtain ⟨verbose, logLevel, command, args⟩ := r
  cases verbose with
  | true => rfl
  | false =>
    cases logLevel with
    | some level => rfl
    | none => cases command <;> rfl

/-- A fault that keeps a level from being chosen is reported if those of the settings are. -/
theorem isReported_of_level {fault : Settings.Fault}
    (hloads : ∀ fault, around.settings tree = .error fault →
      fault.isWrong = true ∨ fault.isUnfit = true)
    (h : r.level (around.settings tree) = .error fault) :
    (fault.isWrong || fault.isUnfit) = true := by
  rw [Bool.or_eq_true]
  rw [Request.level] at h
  cases hlevel : r.logLevel with
  | some level =>
    rw [hlevel] at h
    split_ifs at h <;> cases h
  | none =>
    rw [hlevel] at h
    split_ifs at h
    · cases h
    cases hsettings : around.settings tree with
    | error other =>
      rw [hsettings] at h
      cases h
      exact hloads fault hsettings
    | ok settings =>
      rw [hsettings] at h
      exact .inr (isUnfit_of_logLevel h)

/-- Where nothing hinders it, the logger is set up. -/
theorem configure_run_of_none (h : r.hindrance (around.settings j.tree) = none) :
    ∃ level, (configure r).run around j = ({ j with logger := .ofLevel level }, .ok ()) := by
  rw [Request.hindrance] at h
  cases hlevel : r.level (around.settings j.tree) with
  | error fault =>
    rw [hlevel] at h
    cases h
  | ok name =>
    rw [hlevel] at h
    dsimp only at h
    split_ifs at h with hnone
    obtain ⟨level, hknown⟩ := Option.ne_none_iff_exists'.1 hnone
    have hchosen : (chooseLevel r).run around j = (j, .ok name) := by
      rw [chooseLevel_run_eq, hlevel]
      rfl
    refine ⟨level, ?_⟩
    rw [configure, Action.run_bind_of_ok hchosen, Logging.Logger.setUp, hknown]
    rfl

/-- What hinders it is complained of. -/
theorem configure_run_of_some
    (hloads : ∀ fault, around.settings j.tree = .error fault →
      fault.isWrong = true ∨ fault.isUnfit = true)
    (h : r.hindrance (around.settings j.tree) = some message) :
    (configure r).run around j = ((j.complaint around.width around.emojis message).1,
      .error (j.complaint around.width around.emojis message).2) := by
  rw [Request.hindrance] at h
  cases hlevel : r.level (around.settings j.tree) with
  | error fault =>
    rw [hlevel] at h
    cases h
    have hchosen := chooseLevel_run_eq r around j
    rw [hlevel, Action.orReported, if_pos (isReported_of_level hloads hlevel),
      complainAndExit_run_eq] at hchosen
    rw [configure, Action.run_bind_of_error hchosen]
  | ok name =>
    rw [hlevel] at h
    dsimp only at h
    split_ifs at h with hnone
    cases h
    have hchosen : (chooseLevel r).run around j = (j, .ok name) := by
      rw [chooseLevel_run_eq, hlevel]
      rfl
    rw [configure, Action.run_bind_of_ok hchosen, Logging.Logger.setUp, hnone]
    exact complainAndExit_run_eq _ _ _

/-! ## The whole run -/

section Run

variable (hloads : ∀ fault, around.settings tree = .error fault →
    fault.isWrong = true ∨ fault.isUnfit = true)

include hloads

/-- Where a run starts cleanly, what hinders it is literal. -/
theorem literal_of_startsCleanly (hclean : StartsCleanly around tree args r)
    (h : r.hindrance (around.settings tree) = some message) :
    Literal around.emojis message := by
  cases hclean with
  | ready hconfigured haction =>
    have hstops := configure_run_of_some (j := { tree }) hloads h
    cases congrArg Prod.snd (hstops.symm.trans hconfigured)
  | told hhinders hrender hreport =>
    cases h.symm.trans hhinders
    exact render_error_eq_iff.1 hrender

variable (hread : (Request.read args).run around { tree } = ({ tree }, .ok r))

include hread

/-- What hinders a run ends it. -/
theorem run_of_hindrance (h : r.hindrance (around.settings tree) = some message) :
    run around tree args =
      ⟨(Journal.complaint { tree } around.width around.emojis message).1,
        some (Journal.complaint { tree } around.width around.emojis message).2⟩ := by
  apply Action.report_of_error
  rw [action, Action.run_bind_of_ok hread]
  exact Action.run_bind_of_error (configure_run_of_some (j := { tree }) hloads h)

theorem startsCleanly_of_literal
    (h : ∀ message, r.hindrance (around.settings tree) = some message →
      Literal around.emojis message) : StartsCleanly around tree args r := by
  cases hhinders : r.hindrance (around.settings tree) with
  | none =>
    obtain ⟨level, hlevel⟩ := configure_run_of_none (j := { tree }) hhinders
    refine .ready hlevel ?_
    rw [action, Action.run_bind_of_ok hread, Action.run_bind_of_ok hlevel]
  | some message =>
    have hrender := render_error_eq_iff.2 (h message hhinders)
    refine .told hhinders hrender ?_
    rw [run_of_hindrance hloads hread hhinders, Journal.complaint, hrender]
    rfl

end Run

/-- **Starting up.** Let the options in front of a command be read, and let the settings load or
    fail for a fault that is reported. The run starts, or it tells what hinders it and ends with
    exit code 1, exactly if the message of what hinders it, if anything does, is literal. In any
    case a message that can be rendered is printed as that among the complaints, and exit code 1
    goes with it; a message that cannot ends the run with the fault of the printer and with nothing
    printed, which takes a bracket in the message. -/
theorem startsCleanly_iff_literal {around : Surroundings} {tree : Tree} {args : List Text}
    {r : Request} (hread : (Request.read args).run around { tree } = ({ tree }, .ok r))
    (hloads : ∀ fault, around.settings tree = .error fault →
      fault.isWrong = true ∨ fault.isUnfit = true) :
    let report := run around tree args
    let hindrance := r.hindrance (around.settings tree)
    (StartsCleanly around tree args r ↔
        ∀ message, hindrance = some message → Literal around.emojis message) ∧
      ∀ message, hindrance = some message →
        let rendered := Markup.render around.emojis (Action.errorHead ++ message)
        (∀ text, rendered = .ok text → report =
          ⟨{ tree, complained := Console.unlines (Console.wrap around.width text) },
            some (.exit 1)⟩) ∧
        (∀ fault, rendered = .error fault →
          report = ⟨{ tree }, some (.uncaught (.markup fault))⟩) ∧
        ('[' ∉ message → report.stop = some (.exit 1)) := by
  intro report hindrance
  refine ⟨⟨fun hclean _ => literal_of_startsCleanly hloads hclean,
    startsCleanly_of_literal hloads hread⟩, fun message hhinders => ?_⟩
  intro rendered
  have hreport : report = ⟨_, some _⟩ := run_of_hindrance hloads hread hhinders
  refine ⟨fun text htext => ?_, fun fault hfault => ?_, fun hbracket => ?_⟩
  · rw [hreport, Journal.complaint, show Markup.render _ _ = _ from htext]
    rfl
  · rw [hreport, Journal.complaint, show Markup.render _ _ = _ from hfault]
  · rw [hreport]
    exact congrArg some (complaint_of_notMem hbracket _ _ _)

/-- A file of settings that breaks off in a header is told. -/
theorem unclosed_header_told :
    let around := homeSurroundings
    let tree := homeTree (Utf8.encode unclosedHeader)
    let r : Request := { command := .resolve, args := ["a"] }
    let message : Text := "Failed to load config: Expected ']' at the end of a table " ++
      "declaration (at line 1, column 8)"
    (Request.read ["resolve", "a"]).run around { tree } = ({ tree }, .ok r) ∧
      (∀ fault, around.settings tree = .error fault →
        fault.isWrong = true ∨ fault.isUnfit = true) ∧
      r.hindrance (around.settings tree) = some message ∧
      StartsCleanly around tree ["resolve", "a"] r ∧
      (run around tree ["resolve", "a"]).stop = some (.exit 1) := by
  intro around tree r message
  have hread : (Request.read ["resolve", "a"]).run around { tree } = ({ tree }, .ok r) :=
    read_command rfl ["a"]
  have hparse : Toml.Document.parse unclosedHeader = .error (.at .tableEnd "line 1, column 8") :=
    rfl
  have hsettings : around.settings tree = .error (.malformed .tableEnd "line 1, column 8") := by
    rw [Surroundings.settings, open_homeTree, Settings.tableOfBytes_encode_of_error hparse]
    rfl
  have hloads : ∀ fault, around.settings tree = .error fault →
      fault.isWrong = true ∨ fault.isUnfit = true := by
    intro fault hfault
    cases hsettings.symm.trans hfault
    exact .inl rfl
  have hhinders : r.hindrance (around.settings tree) = some message := by
    rw [hsettings]
    rfl
  have hbracket : '[' ∉ message := by decide
  have hliteral : Literal around.emojis message :=
    .of_notMem hbracket (by decide) (by decide)
  obtain ⟨hclean, hends⟩ := startsCleanly_iff_literal hread hloads
  refine ⟨hread, hloads, hhinders, hclean.2 fun m hm => ?_, (hends _ hhinders).2.2 hbracket⟩
  cases hhinders.symm.trans hm
  exact hliteral

/-- A level that looks like a closing tag ends a run without a word. -/
theorem bracket_level_untold :
    let around := workSurroundings {}
    let tree : Tree := ⟨homeNodes⟩
    let args : List Text := ["--log-level", "[/x]", "resolve", "a"]
    let r : Request := { logLevel := some "[/x]", command := .resolve, args := ["a"] }
    (Request.read args).run around { tree } = ({ tree }, .ok r) ∧
      (∃ settings, around.settings tree = .ok settings) ∧
      r.hindrance (around.settings tree) = some "Unknown log level: [/x]" ∧
      (∃ fault, run around tree args = ⟨{ tree }, some (.uncaught (.markup fault))⟩) ∧
      ¬ StartsCleanly around tree args r := by
  intro around tree args r
  have hread : (Request.read args).run around { tree } = ({ tree }, .ok r) := by
    rw [Request.read]
    simp only [args, Parsed.ofArgs]
    rfl
  have hsettings : around.settings tree = .ok (.unread homeSurroundings.environment.dir) :=
    open_homeNodes
  have hloads : ∀ fault, around.settings tree = .error fault →
      fault.isWrong = true ∨ fault.isUnfit = true := by
    intro fault hfault
    cases hsettings.symm.trans hfault
  have hhinders : r.hindrance (around.settings tree) = some "Unknown log level: [/x]" := rfl
  have htag : Markup.IsTag ('/' :: "x".toList) := by decide
  have htail : FailsUnder around.emojis [] (tagText 0 ('/' :: "x".toList) []) :=
    Markup.failsUnder_unopened htag []
  have hlevel := htail.append " Unknown log level: " (by decide) (by decide)
  have hfails := hlevel.styled (isStyle_of_mem "red" (by decide)) "ERROR:" (by decide) (by decide)
  obtain ⟨fault, hfault⟩ := hfails.render
  have hrender : Markup.render around.emojis (Action.errorHead ++ "Unknown log level: [/x]") =
      .error fault := hfault
  refine ⟨hread, ⟨_, hsettings⟩, hhinders, ⟨fault, ?_⟩, fun hclean => ?_⟩
  · rw [run_of_hindrance hloads hread hhinders, Journal.complaint, hrender]
  · have hliteral := literal_of_startsCleanly hloads hclean hhinders
    cases (render_error_eq_iff.2 hliteral).symm.trans hrender

end Pinpoint.CommandLine
