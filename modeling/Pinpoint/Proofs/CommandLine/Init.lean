import Pinpoint.CommandLine
import Pinpoint.Proofs.CommandLine.Action
import Pinpoint.Proofs.Settings.Create

/-!
# Writing settings on the command line

Writing settings over those that are there works whenever the file can be written, whatever
it said. The settings are shown afterwards, so that they are read again, and this is where
an editor command with a character beyond the basic plane comes to light.

* `run_writeSettings`: the command itself.
* `init_force_editor`: the whole run.
-/

namespace Pinpoint.CommandLine

open Markup (Prints tagText tagText_append escape prints_of_notMem prints_escape isStyle_of_mem)
open Settings (Writable Present fileIn fileExists chosenEditor defaultTable shown_defaultTable
  bracket_notMem_fileIn getLast?_fileIn)
open Toml (IsBasic)

variable {around : Surroundings} {j : Journal} {t : Tree} {place : Place} {dir : Path}
  {editor path : Text} {emojis : Markup.EmojiTable}

/-! ## Messages -/

theorem prints_removed (h : '[' ∉ path) :
    ∃ texts, Prints emojis ("[yellow]Removed existing config:[/yellow] " ++ path) texts := by
  have hrest : '[' ∉ ' ' :: path := by simpa using h
  exact ⟨_, (prints_of_notMem hrest).styled (isStyle_of_mem "yellow" (by decide))
    "Removed existing config:" (by decide) (by decide)⟩

theorem prints_created (h : '[' ∉ path) (hlast : path.getLast? ≠ some '\\') :
    ∃ texts, Prints emojis
      ("[green]✓[/green] Configuration created: [bold]" ++ path ++ "[/bold]") texts := by
  have hnone : Prints emojis [] [[]] := prints_of_notMem (by decide)
  have hbold := hnone.styled (isStyle_of_mem "bold" (by decide)) path h hlast
  have hmiddle := hbold.append " Configuration created: " (by decide) (by decide)
  have hall := hmiddle.styled (isStyle_of_mem "green" (by decide)) "✓" (by decide) (by decide)
  have hhead : ("[green]✓[/green] Configuration created: [bold]" : Text) =
      tagText 0 "green" ("✓" ++ tagText 0 ('/' :: "green".toList)
        (" Configuration created: " ++ "[bold]")) := by decide
  have hbold : ("[bold]" : Text) ++ (path ++ "[/bold]") =
      tagText 0 "bold" (path ++ tagText 0 ('/' :: "bold".toList) []) := rfl
  rw [hhead, List.append_assoc, tagText_append, List.append_assoc, tagText_append,
    List.append_assoc, hbold]
  exact ⟨_, hall⟩

/-! ## Steps of the command -/

theorem notMem_append_append {c : Char} {x y z : Text} (hx : c ∉ x) (hy : c ∉ y) (hz : c ∉ z) :
    c ∉ x ++ y ++ z := by
  simp [hx, hy, hz]

/-- Only values of settings may hold brackets, and these are escaped. -/
theorem printTable_settings (width : Nat) (emojis : Markup.EmojiTable) {file : Path}
    {rows : List Settings.Shown} (hfile : '[' ∉ file.render) (hrows : ∀ row ∈ rows, '[' ∉ row.key) :
    ∃ out, Console.printTable width emojis (settingsTable file rows) = .ok out := by
  have htitle : '[' ∉ (settingsTable file rows).title :=
    notMem_append_append (by decide) hfile (by decide)
  have hheader : ∀ cell ∈ ["Key".toList, "Value".toList, "Source".toList], '[' ∉ cell := by decide
  have hsource : ∀ fromFile : Bool,
      '[' ∉ if fromFile then "config".toList else "default".toList := by decide
  refine Console.printTable_ok ⟨_, prints_of_notMem htitle⟩
    (fun cell hcell => ⟨_, prints_of_notMem (hheader cell hcell)⟩) ?_
  intro row hrow cell hcell
  obtain ⟨shown, hshown, rfl⟩ := List.mem_map.1 hrow
  simp only [List.mem_cons, List.not_mem_nil, or_false] at hcell
  rcases hcell with rfl | rfl | rfl
  · exact ⟨_, prints_of_notMem (hrows shown hshown)⟩
  · exact ⟨_, prints_escape _ _⟩
  · exact ⟨_, prints_of_notMem (hsource shown.fromFile)⟩

theorem printSettings_run {file : Path} {rows : List Settings.Shown}
    (hfile : '[' ∉ file.render) (hrows : ∀ row ∈ rows, '[' ∉ row.key) :
    ∃ j', (printSettings file rows).run around j = (j', .ok ()) ∧ j'.tree = j.tree := by
  obtain ⟨out, hout⟩ := printTable_settings around.width around.emojis hfile hrows
  rw [printSettings, Action.run_bind_of_ok Action.around_run]
  dsimp only
  rw [hout, Action.run_bind_of_ok (Action.orUncaught_run_ok _ _), Action.write_run]
  exact ⟨_, rfl, rfl⟩

/-- The file is removed, and this is told. -/
theorem removeFile_run (around : Surroundings) {file : Path} (hfile : '[' ∉ file.render)
    (h : j.tree.unlink place file = .ok t) :
    ∃ j', (removeFile place file).run around j = (j', .ok ()) ∧ j'.tree = t := by
  obtain ⟨texts, hprints⟩ := prints_removed hfile
  rw [removeFile, Action.run_bind_of_ok Action.tree_run, h]
  exact Action.say_run (j := { j with tree := t }) hprints

/-- The file is written, and this is told. -/
theorem createFile_run (around : Surroundings) {editor : Option Text} (hdir : '[' ∉ dir.render)
    (h : (Settings.unread dir).create j.tree place editor = (t, .ok ())) :
    ∃ j', (createFile (.unread dir) place editor).run around j = (j', .ok ()) ∧ j'.tree = t := by
  have hlast : (fileIn dir).render.getLast? ≠ some '\\' := by
    rw [getLast?_fileIn]
    decide
  obtain ⟨texts, hprints⟩ := prints_created (bracket_notMem_fileIn hdir) hlast
  rw [createFile, Action.run_bind_of_ok Action.tree_run, h]
  exact Action.say_run (j := { j with tree := t }) hprints

/-- The file is removed if it is there. Either way, a new one can be written. -/
theorem removeIfPresent_run (h : Writable j.tree around.place dir place) (hdir : '[' ∉ dir.render) :
    ∃ present j', fileExists j.tree around.place (fileIn dir) = .ok present ∧
      (if present then removeFile around.place (fileIn dir) else pure ()).run around j =
        (j', .ok ()) ∧
      Writable j'.tree around.place dir place ∧
      fileExists j'.tree around.place (fileIn dir) = .ok false := by
  rcases h.absent_or_present with habsent | ⟨hexists, hpresent⟩
  · exact ⟨false, j, habsent, rfl, h, habsent⟩
  · obtain ⟨t, hunlink, hwritable, habsent⟩ := h.unlink hpresent
    obtain ⟨j', hrun, rfl⟩ := removeFile_run around (bracket_notMem_fileIn hdir) hunlink
    exact ⟨true, j', hexists, hrun, hwritable, habsent⟩

/-! ## The command -/

/-- Reads the settings again and shows them. -/
def showWritten : Action Unit := do
  let dir := (← Action.around).environment.dir
  let settings ← Action.orUncaught .settings (← Action.openSettings)
  printSettings (fileIn dir) (← Action.orUncaught .settings settings.shown)

/-- The settings are written, whatever has been there, and then read again and shown. -/
theorem run_writeSettings (h : Writable j.tree around.place around.environment.dir place)
    (hdir : '[' ∉ around.environment.dir.render) (editor : Option Text) :
    ∃ j', Settings.load j'.tree around.place (fileIn around.environment.dir) =
        Settings.tableOfBytes (Utf8.encode (Settings.defaultText (chosenEditor editor))) ∧
      (writeSettings true editor).run around j = showWritten.run around j' := by
  obtain ⟨present, j₁, hexists, hremove, hwritable, habsent⟩ := removeIfPresent_run h hdir
  obtain ⟨t, hcreate, hload⟩ := hwritable.create habsent editor
  obtain ⟨j₂, hcreated, rfl⟩ := createFile_run around hdir hcreate
  refine ⟨j₂, hload, ?_⟩
  have hpresent : (Settings.unread around.environment.dir).isPresent j.tree around.place =
      .ok present := hexists
  have hfile : (Settings.unread around.environment.dir).file = fileIn around.environment.dir := rfl
  rw [writeSettings, Action.run_bind_of_ok Action.around_run,
    Action.run_bind_of_ok Action.tree_run]
  simp only [hpresent, hfile, Bool.not_true, Bool.and_false, Bool.false_eq_true, if_false]
  rw [Action.run_bind_of_ok (Action.orUncaught_run_ok _ _)]
  cases present with
  | true =>
    simp only [if_true] at hremove ⊢
    rw [Action.run_bind_of_ok hremove, Action.run_bind_of_ok hcreated]
    rfl
  | false =>
    simp only [Bool.false_eq_true, if_false] at hremove ⊢
    obtain rfl : j = j₁ := congrArg Prod.fst hremove
    rw [Action.run_bind_of_ok hcreated]
    rfl

theorem showWritten_run (hdir : '[' ∉ around.environment.dir.render)
    (h : Settings.open j.tree around.place around.environment.dir =
      .ok ⟨around.environment.dir, defaultTable editor⟩) :
    ∃ j', showWritten.run around j = (j', .ok ()) ∧ j'.tree = j.tree := by
  rw [showWritten, Action.run_bind_of_ok Action.around_run,
    Action.run_bind_of_ok Action.openSettings_run, h,
    Action.run_bind_of_ok (Action.orUncaught_run_ok _ _), shown_defaultTable,
    Action.run_bind_of_ok (Action.orUncaught_run_ok _ _)]
  have hkeys : ∀ key ∈ ["output.format".toList, "resolver.jobs".toList, "editor.command".toList,
      "logging.level".toList], '[' ∉ key := by decide
  exact printSettings_run (bracket_notMem_fileIn hdir) fun row hrow =>
    hkeys row.key (List.mem_map_of_mem (f := Settings.Shown.key) hrow)

theorem showWritten_run_of_error {fault : Settings.Fault}
    (h : Settings.open j.tree around.place around.environment.dir = .error fault) :
    showWritten.run around j = (j, .error (.uncaught (.settings fault))) := by
  rw [showWritten, Action.run_bind_of_ok Action.around_run,
    Action.run_bind_of_ok Action.openSettings_run, h,
    Action.run_bind_of_error (Action.orUncaught_run_error _ _)]

/-! ## The whole run -/

theorem ofArgs_force_editor (editor : Text) :
    Parsed.ofArgs initOptions true ["--force", "--editor", editor] =
      .ok { given := [(.force, []), (.editor, editor)] } := by
  simp only [Parsed.ofArgs]
  rfl

theorem configure_init (around : Surroundings) (j : Journal) (args : List Text) :
    ∃ j', (configure { command := .init, args }).run around j = (j', .ok ()) ∧
      j'.tree = j.tree :=
  ⟨_, rfl, rfl⟩

theorem read_force_editor (around : Surroundings) (j : Journal) (editor : Text) :
    (InitArgs.read ["--force", "--editor", editor]).run around j =
      (j, .ok { force := true, editor := some editor }) := by
  rw [InitArgs.read, ofArgs_force_editor]
  rfl

/-- The run writes the settings and shows them. -/
theorem report_init_force_editor {tree : Tree}
    (h : Writable tree around.place around.environment.dir place)
    (hdir : '[' ∉ around.environment.dir.render) (editor : Text) :
    ∃ j, Settings.load j.tree around.place (fileIn around.environment.dir) =
        Settings.tableOfBytes (Utf8.encode (Settings.defaultText (chosenEditor (some editor)))) ∧
      (action ["init", "--force", "--editor", editor]).run around { tree } =
        showWritten.run around j := by
  obtain ⟨j₁, hconfigure, htree⟩ :=
    configure_init around { tree } ["--force", "--editor", editor]
  obtain ⟨j₂, hload, hrun⟩ := run_writeSettings (j := j₁) (by rwa [htree]) hdir (some editor)
  refine ⟨j₂, hload, ?_⟩
  rw [action, Action.run_bind_of_ok (read_command rfl _), Action.run_bind_of_ok hconfigure]
  change (InitArgs.read ["--force", "--editor", editor] >>= initCommand).run around j₁ = _
  rw [Action.run_bind_of_ok (read_force_editor around j₁ editor)]
  exact hrun

theorem run_init_of_isBasic {tree : Tree}
    (h : Writable tree around.place around.environment.dir place)
    (hdir : '[' ∉ around.environment.dir.render) (heditor : IsBasic editor) :
    (run around tree ["init", "--force", "--editor", editor]).code = 0 ∧
      Settings.open (run around tree ["init", "--force", "--editor", editor]).journal.tree
        around.place around.environment.dir =
        .ok ⟨around.environment.dir, defaultTable (chosenEditor (some editor))⟩ := by
  obtain ⟨j₁, hload, haction⟩ := report_init_force_editor h hdir editor
  have hopen := Settings.open_of_isBasic (Settings.isBasic_chosenEditor.2 heditor) hload
  obtain ⟨j₂, hshow, htree⟩ := showWritten_run hdir hopen
  rw [run, Action.report_of_ok (haction.trans hshow)]
  exact ⟨rfl, by rw [htree, hopen]⟩

theorem run_init_of_beyond {tree : Tree}
    (h : Writable tree around.place around.environment.dir place)
    (hdir : '[' ∉ around.environment.dir.render) (heditor : ¬ IsBasic editor) :
    (run around tree ["init", "--force", "--editor", editor]).code = 1 ∧
      ∃ line, Settings.open (run around tree ["init", "--force", "--editor", editor]).journal.tree
        around.place around.environment.dir = .error (.malformed .notScalar line) := by
  obtain ⟨j, hload, haction⟩ := report_init_force_editor h hdir editor
  obtain ⟨line, hopen⟩ :=
    Settings.open_of_beyond (mt Settings.isBasic_chosenEditor.1 heditor) hload
  rw [run, Action.report_of_error (haction.trans (showWritten_run_of_error hopen))]
  exact ⟨rfl, line, hopen⟩

/-! ## Settings in a home directory -/

/-- A user with a home directory. -/
def homeSurroundings : Surroundings where
  fileSystem := Tree.toFileSystem {} []
  workingDir := some ⟨.slash, []⟩
  environment := { home := "/home" }
  place := []
  start := fun _ => .notFound
  memory := { holds := (· ≤ 0x10000000), place := fun _ => "0x7f0000000000" }

/-- The place of the settings. -/
def homeSettings : Place := ["linecol", ".config", "home"]

/-- The directories above the settings. -/
def homeNodes : List (Place × Node) := [
  (["home"], .directory), ([".config", "home"], .directory), (homeSettings, .directory)]

/-- Settings that are no text at all. -/
def brokenTree : Tree := ⟨(Settings.fileName :: homeSettings, .file [0xFF]) :: homeNodes⟩

theorem writable_home {t : Tree} (ht : t.Lawful) (hsolid : t.Solid homeSettings)
    (hdir : t.node? homeSettings = some .directory)
    (hfile : t.IsFileOrFree (Settings.fileName :: homeSettings)) :
    Writable t homeSurroundings.place homeSurroundings.environment.dir homeSettings :=
  Settings.writable_of_find (by decide) (by decide)
    (Tree.find_toPath ht hsolid (by decide)) hdir hfile

theorem writable_brokenTree :
    Writable brokenTree homeSurroundings.place homeSurroundings.environment.dir homeSettings :=
  writable_home (Tree.lawful_of_nodes (by decide)) (by decide) rfl fun _ hn =>
    ⟨_, (Option.some.inj hn).symm⟩

theorem writable_homeNodes :
    Writable ⟨homeNodes⟩ homeSurroundings.place homeSurroundings.environment.dir homeSettings :=
  writable_home (Tree.lawful_of_nodes (by decide)) (by decide) rfl (.of_none rfl)

/-- **Written settings can be read again, within the basic plane.** Wherever the file of the
    settings can be written, and whatever it said before, writing it with an editor command ends
    with exit code 0 and leaves settings that load with this command, or with the default one for
    an empty command, if no character of the command is beyond the basic plane. Any other command
    leaves a file that cannot be loaded, and the run ends with exit code 1. -/
theorem init_force_editor {around : Surroundings} {tree : Tree} {place : Place} {editor : Text}
    (h : Writable tree around.place around.environment.dir place)
    (hdir : '[' ∉ around.environment.dir.render) :
    let report := run around tree ["init", "--force", "--editor", editor]
    let loaded := Settings.open report.journal.tree around.place around.environment.dir
    (IsBasic editor → report.code = 0 ∧ ∃ settings, loaded = .ok settings ∧
      settings.editorCommand =
        .text (if editor = [] then Settings.defaultEditor else editor)) ∧
    (¬ IsBasic editor → report.code = 1 ∧
      ∃ line, loaded = .error (.malformed .notScalar line)) := by
  intro report loaded
  constructor
  · intro heditor
    obtain ⟨hcode, hopen⟩ := run_init_of_isBasic h hdir heditor
    exact ⟨hcode, _, hopen, rfl⟩
  · exact run_init_of_beyond h hdir

/-- Settings that are no text are replaced. -/
theorem init_over_broken_settings :
    (run homeSurroundings brokenTree ["init", "--force", "--editor", "vi"]).code = 0 ∧
      ∃ settings, Settings.open
        (run homeSurroundings brokenTree ["init", "--force", "--editor", "vi"]).journal.tree
        homeSurroundings.place homeSurroundings.environment.dir = .ok settings ∧
      settings.editorCommand = .text "vi" :=
  (init_force_editor writable_brokenTree (by decide)).1 (by decide)

/-- An editor command with a character beyond the basic plane leaves settings that cannot be loaded
    where there were none before. -/
theorem init_with_emoji_unreadable :
    Writable ⟨homeNodes⟩ homeSurroundings.place homeSurroundings.environment.dir homeSettings ∧
      '[' ∉ homeSurroundings.environment.dir.render ∧
      (run homeSurroundings ⟨homeNodes⟩ ["init", "--force", "--editor", "😀"]).code = 1 ∧
      ∃ line, Settings.open
        (run homeSurroundings ⟨homeNodes⟩ ["init", "--force", "--editor", "😀"]).journal.tree
        homeSurroundings.place homeSurroundings.environment.dir =
          .error (.malformed .notScalar line) :=
  ⟨writable_homeNodes, by decide, run_init_of_beyond writable_homeNodes (by decide) (by decide)⟩

end Pinpoint.CommandLine
