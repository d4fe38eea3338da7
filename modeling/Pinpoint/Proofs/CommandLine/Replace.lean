import Pinpoint.Proofs.CommandLine.Frame
import Pinpoint.Proofs.CommandLine.Init
import Pinpoint.Proofs.Settings.Entry

/-!
# Settings before and after a run that writes them

A file of settings that is to be replaced is removed before the new one is written, and this is
told in between. Its path is printed as markup there, so that a path that looks like a closing tag
ends the command with the old file gone and no new one written. Apart from that, what has been at
the path is kept or replaced, unless directories above it are made and bring another one to light.

* `Loses`, `Blocked`: the cases in which it is not.
* `Lasting.keeps_showSettings`, `tree_writeAndShow`, …: what each step changes.
* `entry_run_of_loses`, `entry_run_of_blocked`, `kept_or_replaced`: the ends of a run.
* `kept_or_replaced_iff`, `gone_iff`: which of them a run comes to.
* `removalTold_of_notMem`, `untold_of_closing`: paths that can and cannot be told.
* `isPlain_madeTree`, `not_blocked`: paths without `..`.
* `init_replaces_or_keeps`: the whole run.
-/

namespace Pinpoint.CommandLine

open Pinpoint.CommandLine.Action (Keeps keeps_around keeps_openSettings keeps_orReported
  keeps_orUncaught keeps_stop)
open Markup (FailsUnder IsTag Prints failsUnder_unopened isStyle_of_mem tagText)
open Settings (fileIn fileExists newEntry)

variable {around : Surroundings} {tree t : Tree} {j : Journal} {a : InitArgs} {dir : Path}
  {place : Place} {editor : Option Text} {α γ : Type} {f : Journal → γ}

/-! ## Specification -/

/-- The options of the command, as they are written on a command line. -/
def InitArgs.words (a : InitArgs) : List Text :=
  (if a.force then ["--force".toList] else []) ++ (if a.showOnly then ["--show".toList] else []) ++
    a.editor.elim [] fun editor => ["--editor".toList, editor]

/-- What tells that a file has been removed. -/
def removalMarkup (file : Path) : Text :=
  "[yellow]Removed existing config:[/yellow] " ++ file.render

/-- It can be told that the file of the settings has been removed. -/
def RemovalTold (around : Surroundings) : Prop :=
  ∃ out, Console.print around.width around.emojis
    (removalMarkup (fileIn around.environment.dir)) = .ok out

/-- What stands at the path of the settings. -/
def Surroundings.entry (around : Surroundings) (tree : Tree) : Option Node :=
  Settings.entry tree around.place around.environment.dir

/-- The tree in which the directory of the settings has been made, as far as it can be. -/
def Surroundings.madeTree (around : Surroundings) (tree : Tree) : Tree :=
  Settings.madeTree tree around.place around.environment.dir

/-- The directory of the settings is there, or it can be made. -/
def Surroundings.CanMake (around : Surroundings) (tree : Tree) : Prop :=
  ∃ place, (tree.ensureDirectories around.place around.environment.dir).2 = .ok place

/-- Nothing but a file or a directory stands at the path of the settings. -/
def IsPlain (entry : Option Node) : Prop :=
  ∀ n, entry = some n → n = .directory ∨ ∃ content, n = .file content

/-- A file is to be replaced, and it cannot be told that it has been removed. -/
structure Loses (around : Surroundings) (tree : Tree) (a : InitArgs) : Prop where
  writes : a.showOnly = false
  force : a.force = true
  isFile : ∃ content, around.entry tree = some (.file content)
  untold : ¬ RemovalTold around

/-- The file is to be written where nothing is, and making the directories above it brings a
    directory to light in its place. -/
structure Blocked (around : Surroundings) (tree : Tree) (a : InitArgs) : Prop where
  writes : a.showOnly = false
  absent : fileExists tree around.place (fileIn around.environment.dir) = .ok false
  directory : around.entry (around.madeTree tree) = some .directory

/-! ## Steps that leave the tree alone -/

namespace Lasting

variable (hf : Lasting f)

include hf

theorem keeps_printSettings (file : Path) (rows : List Settings.Shown) :
    Keeps f (printSettings file rows) :=
  (keeps_around f).bind fun _ => (keeps_orUncaught f _ _).bind hf.keeps_write

theorem keeps_reportSettings (fault : Settings.Fault) :
    Keeps f (reportSettings fault : Action α) :=
  (hf.keeps_say _).bind fun _ => (hf.keeps_say _).bind fun _ => keeps_stop f _

theorem keeps_failToCreate (message : Text) : Keeps f (failToCreate message : Action α) :=
  (hf.keeps_say _).bind fun _ => keeps_stop f _

theorem keeps_showSettings : Keeps f showSettings :=
  (keeps_openSettings f).bind fun _ =>
    (keeps_orReported (fun _ => hf.keeps_reportSettings _) _).bind fun _ =>
      (keeps_orReported (fun _ => hf.keeps_reportSettings _) _).bind fun _ =>
        hf.keeps_printSettings _ _

theorem keeps_showWritten : Keeps f showWritten :=
  (keeps_around f).bind fun _ => (keeps_openSettings f).bind fun _ =>
    (keeps_orUncaught f _ _).bind fun _ => (keeps_orUncaught f _ _).bind fun _ =>
      hf.keeps_printSettings _ _

end Lasting

/-! ## Reading the options -/

theorem read_words (a : InitArgs) (j : Journal) :
    (InitArgs.read a.words).run around j = (j, .ok a) := by
  obtain ⟨force, showOnly, editor⟩ := a
  cases force <;> cases showOnly <;> cases editor <;>
    · rw [InitArgs.read]
      simp only [InitArgs.words, Bool.false_eq_true, if_false, if_true, Option.elim,
        List.nil_append, List.append_nil, List.cons_append, Parsed.ofArgs]
      rfl

/-! ## Writing the settings -/

theorem run_orUncaught_bind {ε : Type} {cause : ε → Uncaught} {a : α} {g : α → Action Unit} :
    (Action.orUncaught cause (.ok a) >>= g).run around j = (g a).run around j :=
  Action.run_bind_of_ok (Action.orUncaught_run_ok cause a)

/-- Whatever is done once a file has been written leaves the tree as it is then. -/
theorem tree_createFile {g : Unit → Action Unit} (hg : Keeps Journal.tree (g ())) :
    ((createFile (.unread dir) place editor >>= g).run around j).1.tree =
      ((Settings.unread dir).create j.tree place editor).1 := by
  obtain ⟨told, htold, hrun⟩ : ∃ told : Action Unit, Keeps Journal.tree told ∧
      (createFile (.unread dir) place editor).run around j =
        told.run around
          { j with tree := ((Settings.unread dir).create j.tree place editor).1 } := by
    rw [createFile, Action.run_bind_of_ok Action.tree_run]
    cases (Settings.unread dir).create j.tree place editor with
    | mk t result =>
      cases result with
      | error fault => exact ⟨_, lasting_tree.keeps_failToCreate _, rfl⟩
      | ok done => exact ⟨_, lasting_tree.keeps_say _, rfl⟩
  rw [Action.bind_run, hrun, ← Action.bind_run]
  exact htold.bind (fun _ => hg) around _

/-- The file is written, and then the settings are read again and shown. -/
def writeAndShow (editor : Option Text) : Action Unit := do
  let around ← Action.around
  createFile (.unread around.environment.dir) around.place editor
  showWritten

theorem tree_writeAndShow :
    ((writeAndShow editor).run around j).1.tree =
      ((Settings.unread around.environment.dir).create j.tree around.place editor).1 := by
  rw [writeAndShow, Action.run_bind_of_ok Action.around_run]
  exact tree_createFile lasting_tree.keeps_showWritten

section WriteSettings

variable {force present : Bool}

theorem tree_writeSettings_of_error {e : OsError}
    (h : fileExists j.tree around.place (fileIn around.environment.dir) = .error e) :
    ((writeSettings force editor).run around j).1.tree = j.tree := by
  rw [writeSettings, Action.run_bind_of_ok Action.around_run,
    Action.run_bind_of_ok Action.tree_run, Settings.isPresent_unread, h,
    Action.run_bind_of_error (Action.orUncaught_run_error _ _)]

/-- Where nothing is there, the file is written. -/
theorem writeSettings_run_of_absent
    (h : fileExists j.tree around.place (fileIn around.environment.dir) = .ok false) :
    (writeSettings force editor).run around j = (writeAndShow editor).run around j := by
  rw [writeSettings, Action.run_bind_of_ok Action.around_run,
    Action.run_bind_of_ok Action.tree_run, Settings.isPresent_unread, h, run_orUncaught_bind]
  rfl

/-- A file that is there is removed at first. -/
theorem writeSettings_run_of_force
    (h : fileExists j.tree around.place (fileIn around.environment.dir) = .ok true) :
    (writeSettings true editor).run around j =
      (removeFile around.place (fileIn around.environment.dir) >>= fun _ =>
        writeAndShow editor).run around j := by
  rw [writeSettings, Action.run_bind_of_ok Action.around_run,
    Action.run_bind_of_ok Action.tree_run, Settings.isPresent_unread, h, run_orUncaught_bind]
  rfl

/-- Unless that is asked for, nothing is changed. -/
theorem tree_writeSettings_of_present
    (h : fileExists j.tree around.place (fileIn around.environment.dir) = .ok true) :
    ((writeSettings false editor).run around j).1.tree = j.tree := by
  rw [writeSettings, Action.run_bind_of_ok Action.around_run,
    Action.run_bind_of_ok Action.tree_run, Settings.isPresent_unread, h, run_orUncaught_bind]
  exact (lasting_tree.keeps_say _).bind (fun _ _ _ => rfl) around j

end WriteSettings

/-! ## Removing the file first -/

/-- The command ends where a failure is reported. -/
theorem failToCreate_run (message : Text) (around : Surroundings) (j : Journal) :
    ∃ j' stop, (failToCreate message : Action α).run around j = (j', .error stop) ∧
      j'.tree = j.tree := by
  have hkeeps := lasting_tree.keeps_say
    (Action.errorHead ++ "Failed to create configuration: " ++ Markup.escape message) around j
  rw [failToCreate, Action.bind_run]
  split <;> next j' r hsay =>
    rw [hsay] at hkeeps
    exact ⟨j', _, rfl, hkeeps⟩

theorem tree_replace_of_error {file : Path} {e : OsError}
    (h : j.tree.unlink around.place file = .error e) :
    ((removeFile around.place file >>= fun _ => writeAndShow editor).run around j).1.tree =
      j.tree := by
  obtain ⟨j', stop, hfail, htree⟩ := failToCreate_run e.message around j
  have hremove : (removeFile around.place file).run around j = (j', .error stop) := by
    rw [removeFile, Action.run_bind_of_ok Action.tree_run, h]
    exact hfail
  rw [Action.run_bind_of_error hremove, htree]

theorem removeFile_run_eq {file : Path} (h : j.tree.unlink around.place file = .ok t) :
    (removeFile around.place file).run around j =
      (Action.say (removalMarkup file)).run around { j with tree := t } := by
  rw [removeFile, Action.run_bind_of_ok Action.tree_run, h]
  rfl

theorem tree_replace_of_told
    (h : j.tree.unlink around.place (fileIn around.environment.dir) = .ok t)
    (htold : RemovalTold around) :
    ((removeFile around.place (fileIn around.environment.dir) >>= fun _ =>
      writeAndShow editor).run around j).1.tree =
        ((Settings.unread around.environment.dir).create t around.place editor).1 := by
  obtain ⟨out, hout⟩ := htold
  rw [Action.bind_run, removeFile_run_eq h, Action.say, Action.run_bind_of_ok Action.around_run,
    hout, run_orUncaught_bind, Action.write_run]
  exact tree_writeAndShow

theorem tree_replace_of_untold
    (h : j.tree.unlink around.place (fileIn around.environment.dir) = .ok t)
    (huntold : ¬ RemovalTold around) :
    ((removeFile around.place (fileIn around.environment.dir) >>= fun _ =>
      writeAndShow editor).run around j).1.tree = t := by
  cases hprint : Console.print around.width around.emojis
      (removalMarkup (fileIn around.environment.dir)) with
  | ok out => exact absurd ⟨out, hprint⟩ huntold
  | error fault =>
    rw [Action.bind_run, removeFile_run_eq h, Action.say, Action.run_bind_of_ok Action.around_run,
      hprint, Action.run_bind_of_error (Action.orUncaught_run_error _ _)]

/-! ## The whole run -/

/-- What a run changes is what the command changes. -/
theorem tree_run_init (around : Surroundings) (tree : Tree) (a : InitArgs) :
    ∃ j : Journal, j.tree = tree ∧
      (run around tree ("init" :: a.words)).journal.tree =
        ((initCommand a).run around j).1.tree := by
  obtain ⟨j, hconfigure, htree⟩ := configure_init around { tree } a.words
  refine ⟨j, htree, ?_⟩
  rw [run, Action.journal_report, action, Action.run_bind_of_ok (read_command rfl _),
    Action.run_bind_of_ok hconfigure]
  change ((InitArgs.read a.words >>= initCommand).run around j).1.tree = _
  rw [Action.run_bind_of_ok (read_words a j)]

theorem tree_run_show (h : a.showOnly = true) :
    (run around tree ("init" :: a.words)).journal.tree = tree := by
  obtain ⟨j, rfl, hrun⟩ := tree_run_init around tree a
  rw [hrun, initCommand, if_pos h]
  exact lasting_tree.keeps_showSettings around j

theorem tree_run_write (around : Surroundings) (tree : Tree) (h : a.showOnly = false) :
    ∃ j : Journal, j.tree = tree ∧
      (run around tree ("init" :: a.words)).journal.tree =
        ((writeSettings a.force a.editor).run around j).1.tree := by
  obtain ⟨j, htree, hrun⟩ := tree_run_init around tree a
  refine ⟨j, htree, ?_⟩
  rw [hrun, initCommand, if_neg (by simp [h])]

/-- What cannot be looked for is left as it is. -/
theorem tree_run_of_error {e : OsError}
    (h : fileExists tree around.place (fileIn around.environment.dir) = .error e) :
    (run around tree ("init" :: a.words)).journal.tree = tree := by
  cases hshow : a.showOnly with
  | true => exact tree_run_show hshow
  | false =>
    obtain ⟨j, rfl, hrun⟩ := tree_run_write around tree hshow
    rw [hrun, tree_writeSettings_of_error h]

/-- Where nothing is found, a file is written at once. -/
theorem tree_run_of_absent (hshow : a.showOnly = false)
    (habsent : fileExists tree around.place (fileIn around.environment.dir) = .ok false) :
    (run around tree ("init" :: a.words)).journal.tree =
      ((Settings.unread around.environment.dir).create tree around.place a.editor).1 := by
  obtain ⟨j, rfl, hrun⟩ := tree_run_write around tree hshow
  rw [hrun, writeSettings_run_of_absent habsent, tree_writeAndShow]

/-- Where something is found that is to be replaced, it is removed at first. -/
theorem tree_run_of_force (hshow : a.showOnly = false) (hforce : a.force = true)
    (hpresent : fileExists tree around.place (fileIn around.environment.dir) = .ok true) :
    ∃ j : Journal, j.tree = tree ∧
      (run around tree ("init" :: a.words)).journal.tree =
        ((removeFile around.place (fileIn around.environment.dir) >>= fun _ =>
          writeAndShow a.editor).run around j).1.tree := by
  obtain ⟨j, rfl, hrun⟩ := tree_run_write around tree hshow
  refine ⟨j, rfl, ?_⟩
  rw [hrun, hforce, writeSettings_run_of_force hpresent]

theorem present_of_loses (h : Loses around tree a) : around.entry tree ≠ none := by
  obtain ⟨content, hfile⟩ := h.isFile
  simp [hfile]

section Ends

variable (hwalk : Tree.Walkable around.environment.dir)

include hwalk

/-- What is there is found. -/
theorem fileExists_of_plain (hplain : IsPlain (around.entry tree))
    (hpresent : around.entry tree ≠ none) :
    fileExists tree around.place (fileIn around.environment.dir) = .ok true := by
  obtain ⟨n, hn⟩ := Option.ne_none_iff_exists'.1 hpresent
  refine Settings.fileExists_of_entry hwalk hn fun target htarget => ?_
  rcases hplain n hn with rfl | ⟨content, rfl⟩ <;> cases htarget

/-- Unless it is to be replaced, what is there is left as it is. -/
theorem tree_run_of_present (hplain : IsPlain (around.entry tree))
    (hpresent : around.entry tree ≠ none) (hforce : a.force = false) :
    (run around tree ("init" :: a.words)).journal.tree = tree := by
  cases hshow : a.showOnly with
  | true => exact tree_run_show hshow
  | false =>
    obtain ⟨j, rfl, hrun⟩ := tree_run_write around tree hshow
    rw [hrun, hforce, tree_writeSettings_of_present (fileExists_of_plain hwalk hplain hpresent)]

/-- A directory is left as it is. -/
theorem tree_run_of_directory (h : around.entry tree = some .directory) :
    (run around tree ("init" :: a.words)).journal.tree = tree := by
  have hplain : IsPlain (around.entry tree) := fun n hn =>
    .inl (Option.some.inj (hn.symm.trans h))
  have hpresent : around.entry tree ≠ none := by simp [h]
  cases hforce : a.force with
  | false => exact tree_run_of_present hwalk hplain hpresent hforce
  | true =>
    cases hshow : a.showOnly with
    | true => exact tree_run_show hshow
    | false =>
      obtain ⟨j, rfl, hrun⟩ := tree_run_of_force hshow hforce
        (fileExists_of_plain hwalk hplain hpresent)
      rw [hrun, tree_replace_of_error (Tree.unlink_of_directory h)]

/-- A file that is to be replaced becomes the new one as soon as it can be told that it has been
    removed. -/
theorem entry_run_of_told {content : List UInt8} (hshow : a.showOnly = false)
    (hforce : a.force = true) (h : around.entry tree = some (.file content))
    (htold : RemovalTold around) :
    around.entry (run around tree ("init" :: a.words)).journal.tree = some (newEntry a.editor) := by
  obtain ⟨t, hunlink, -, hcreate⟩ := Settings.entry_unlink hwalk h
  obtain ⟨j, rfl, hrun⟩ := tree_run_of_force hshow hforce
    (Settings.fileExists_of_entry hwalk h (by simp))
  rw [hrun, tree_replace_of_told hunlink htold]
  exact hcreate a.editor

/-- A file is gone if it cannot be told that it has been removed. -/
theorem entry_run_of_loses (h : Loses around tree a) :
    around.entry (run around tree ("init" :: a.words)).journal.tree = none := by
  obtain ⟨content, hfile⟩ := h.isFile
  obtain ⟨t, hunlink, hnone, -⟩ := Settings.entry_unlink hwalk hfile
  obtain ⟨j, rfl, hrun⟩ := tree_run_of_force h.writes h.force
    (Settings.fileExists_of_entry hwalk hfile (by simp))
  rw [hrun, tree_replace_of_untold hunlink h.untold]
  exact hnone

/-- A directory that has come to light stays where the file was to be. -/
theorem entry_run_of_blocked (h : Blocked around tree a) :
    around.entry (run around tree ("init" :: a.words)).journal.tree = some .directory := by
  rw [tree_run_of_absent h.writes h.absent]
  exact Settings.entry_create_of_directory hwalk h.absent h.directory

theorem size_le_of_absent
    (habsent : fileExists tree around.place (fileIn around.environment.dir) = .ok false) :
    Utf8.size (fileIn around.environment.dir).render ≤ Tree.maxPathBytes := by
  by_contra hsize
  rw [Settings.fileExists_of_size_lt hwalk (Nat.lt_of_not_le hsize)] at habsent
  cases habsent

/-- Where nothing is found and directories can be made, the new file is written. -/
theorem entry_run_of_made (hshow : a.showOnly = false)
    (habsent : fileExists tree around.place (fileIn around.environment.dir) = .ok false)
    (hmade : (tree.ensureDirectories around.place around.environment.dir).2 = .ok place)
    (hplain : IsPlain (around.entry (around.madeTree tree))) (hfree : ¬ Blocked around tree a) :
    around.entry (run around tree ("init" :: a.words)).journal.tree = some (newEntry a.editor) := by
  rw [tree_run_of_absent hshow habsent]
  refine Settings.entry_create hwalk (size_le_of_absent hwalk habsent) habsent hmade ?_
  intro n hn
  rcases hplain n hn with rfl | hfile
  · exact absurd ⟨hshow, habsent, hn⟩ hfree
  · exact hfile

/-- Unless the file is lost, what is there is kept or replaced. -/
theorem kept_or_replaced_of_present (hplain : IsPlain (around.entry tree))
    (hpresent : around.entry tree ≠ none) (hloses : ¬ Loses around tree a) :
    let after := around.entry (run around tree ("init" :: a.words)).journal.tree
    after = around.entry tree ∨ after = some (newEntry a.editor) := by
  intro after
  obtain ⟨n, hbefore⟩ := Option.ne_none_iff_exists'.1 hpresent
  rcases hplain n hbefore with rfl | ⟨content, rfl⟩
  · exact .inl (congrArg around.entry (tree_run_of_directory hwalk hbefore))
  · cases hshow : a.showOnly with
    | true => exact .inl (congrArg around.entry (tree_run_show hshow))
    | false =>
      cases hforce : a.force with
      | false =>
        exact .inl (congrArg around.entry (tree_run_of_present hwalk hplain hpresent hforce))
      | true =>
        have htold : RemovalTold around := by
          by_contra huntold
          exact hloses ⟨hshow, hforce, ⟨content, hbefore⟩, huntold⟩
        exact .inr (entry_run_of_told hwalk hshow hforce hbefore htold)

/-- Unless its place is taken, the file is written or not, where nothing has been. -/
theorem kept_or_replaced_of_none (hnone : around.entry tree = none)
    (hmade : IsPlain (around.entry (around.madeTree tree))) (hfree : ¬ Blocked around tree a) :
    let after := around.entry (run around tree ("init" :: a.words)).journal.tree
    after = none ∨ after = some (newEntry a.editor) := by
  intro after
  have hkept (h : (run around tree ("init" :: a.words)).journal.tree = tree) : after = none :=
    (congrArg around.entry h).trans hnone
  cases hshow : a.showOnly with
  | true => exact .inl (hkept (tree_run_show hshow))
  | false =>
    cases hexists : fileExists tree around.place (fileIn around.environment.dir) with
    | error e => exact .inl (hkept (tree_run_of_error hexists))
    | ok present =>
      cases present with
      | true => exact absurd hnone (Settings.entry_ne_none_of_fileExists hexists)
      | false =>
        cases hdirs : (tree.ensureDirectories around.place around.environment.dir).2 with
        | ok place => exact .inr (entry_run_of_made hwalk hshow hexists hdirs hmade hfree)
        | error e =>
          exact .inl ((congrArg around.entry (tree_run_of_absent hshow hexists)).trans
            (Settings.entry_create_of_unmade hwalk hexists hdirs))

/-- Unless the file is lost or its place is taken, it is kept or replaced. -/
theorem kept_or_replaced (hplain : IsPlain (around.entry tree))
    (hmade : IsPlain (around.entry (around.madeTree tree))) (hloses : ¬ Loses around tree a)
    (hfree : ¬ Blocked around tree a) :
    let after := around.entry (run around tree ("init" :: a.words)).journal.tree
    after = around.entry tree ∨ after = some (newEntry a.editor) := by
  by_cases hnone : around.entry tree = none
  · rw [hnone]
    exact kept_or_replaced_of_none hwalk hnone hmade hfree
  · exact kept_or_replaced_of_present hwalk hplain hnone hloses

theorem absent_of_blocked (hplain : IsPlain (around.entry tree)) (h : Blocked around tree a) :
    around.entry tree = none := by
  by_contra hpresent
  cases (fileExists_of_plain hwalk hplain hpresent).symm.trans h.absent

/-- What has been there is kept or replaced exactly if the file is not lost and its place is not
    taken. -/
theorem kept_or_replaced_iff (hplain : IsPlain (around.entry tree))
    (hmade : IsPlain (around.entry (around.madeTree tree))) :
    let after := around.entry (run around tree ("init" :: a.words)).journal.tree
    after = around.entry tree ∨ after = some (newEntry a.editor) ↔
      ¬ Loses around tree a ∧ ¬ Blocked around tree a := by
  intro after
  refine ⟨fun hafter => ⟨fun hloses => ?_, fun hblocked => ?_⟩,
    fun h => kept_or_replaced hwalk hplain hmade h.1 h.2⟩
  · have hgone : after = none := entry_run_of_loses hwalk hloses
    rcases hafter with hkept | hnew
    · exact present_of_loses hloses (hkept.symm.trans hgone)
    · cases hnew.symm.trans hgone
  · have htaken : after = some .directory := entry_run_of_blocked hwalk hblocked
    have hnone := absent_of_blocked hwalk hplain hblocked
    rcases hafter with hkept | hnew
    · cases htaken.symm.trans (hkept.trans hnone)
    · cases hnew.symm.trans htaken

/-- Something that has been there is gone exactly if the file is lost. -/
theorem gone_iff (hplain : IsPlain (around.entry tree))
    (hmade : IsPlain (around.entry (around.madeTree tree))) :
    let after := around.entry (run around tree ("init" :: a.words)).journal.tree
    around.entry tree ≠ none ∧ after = none ↔ Loses around tree a := by
  intro after
  refine ⟨fun ⟨hpresent, hgone⟩ => ?_, fun h => ⟨present_of_loses h, entry_run_of_loses hwalk h⟩⟩
  by_contra hloses
  have hfree : ¬ Blocked around tree a := fun h => hpresent (absent_of_blocked hwalk hplain h)
  rcases kept_or_replaced hwalk hplain hmade hloses hfree with hkept | hnew
  · exact hpresent (hkept.symm.trans hgone)
  · cases hnew.symm.trans hgone

/-- Where nothing is and directories can be made, the new file is there in the end exactly if its
    path is not too long and its place is not taken. -/
theorem entry_run_of_none_iff (hshow : a.showOnly = false) (hnone : around.entry tree = none)
    (hdirs : (tree.ensureDirectories around.place around.environment.dir).2 = .ok place)
    (hmade : IsPlain (around.entry (around.madeTree tree))) :
    around.entry (run around tree ("init" :: a.words)).journal.tree =
        some (newEntry a.editor) ↔
      Utf8.size (fileIn around.environment.dir).render ≤ Tree.maxPathBytes ∧
        ¬ Blocked around tree a := by
  constructor
  · intro hafter
    constructor
    · by_contra hsize
      have hrun : (run around tree ("init" :: a.words)).journal.tree = tree :=
        tree_run_of_error (Settings.fileExists_of_size_lt hwalk (Nat.lt_of_not_le hsize))
      rw [hrun, hnone] at hafter
      cases hafter
    · intro hblocked
      rw [entry_run_of_blocked hwalk hblocked] at hafter
      cases hafter
  · rintro ⟨hsize, hfree⟩
    exact entry_run_of_made hwalk hshow (Settings.fileExists_of_made hwalk hsize hnone hdirs)
      hdirs hmade hfree

/-- A file that is to be replaced is the new one in the end exactly if it can be told that it has
    been removed. -/
theorem entry_run_of_file_iff {content : List UInt8} (hshow : a.showOnly = false)
    (hforce : a.force = true) (h : around.entry tree = some (.file content)) :
    around.entry (run around tree ("init" :: a.words)).journal.tree =
        some (newEntry a.editor) ↔ RemovalTold around := by
  constructor
  · intro hafter
    by_contra huntold
    rw [entry_run_of_loses hwalk ⟨hshow, hforce, ⟨content, h⟩, huntold⟩] at hafter
    cases hafter
  · exact entry_run_of_told hwalk hshow hforce h

end Ends

/-! ## Paths that can be told -/

theorem removalTold_of_notMem (h : '[' ∉ around.environment.dir.render) : RemovalTold around := by
  have hfile := Settings.bracket_notMem_fileIn h
  obtain ⟨texts, hprints⟩ :
      ∃ texts, Prints around.emojis (removalMarkup (fileIn around.environment.dir)) texts :=
    prints_removed hfile
  rw [RemovalTold, Console.print, hprints.render]
  exact ⟨_, rfl⟩

theorem removalMarkup_eq (file : Path) :
    removalMarkup file = tagText 0 "yellow" ("Removed existing config:" ++
      tagText 0 ('/' :: "yellow".toList) (' ' :: file.render)) := rfl

/-- A path cannot be told if its first bracket opens a closing tag. -/
theorem untold_of_closing {body name rest : Text}
    (hpath : (fileIn around.environment.dir).render = body ++ tagText 0 ('/' :: name) rest)
    (hbracket : '[' ∉ body) (hlast : body.getLast? ≠ some '\\') (htag : IsTag ('/' :: name)) :
    ¬ RemovalTold around := by
  have hspace : '[' ∉ ' ' :: body := by simpa using hbracket
  have hend : (' ' :: body).getLast? ≠ some '\\' := by
    rw [List.getLast?_cons]
    cases hbody : body.getLast? with
    | none => decide
    | some c => simpa [hbody] using hlast
  have hpathFails : FailsUnder around.emojis [] (' ' :: body ++ tagText 0 ('/' :: name) rest) :=
    (failsUnder_unopened htag rest).append (' ' :: body) hspace hend
  have hfails := hpathFails.styled (isStyle_of_mem "yellow" (by decide))
    "Removed existing config:" (by decide) (by decide)
  rintro ⟨out, hout⟩
  obtain ⟨fault, hfault⟩ := hfails.render
  rw [List.cons_append] at hfault
  rw [Console.print, removalMarkup_eq, hpath, hfault] at hout
  cases hout

/-! ## Paths that bring nothing to light -/

section Closed

variable (hwalk : Tree.Walkable around.environment.dir) (ht : tree.Closed)
  (hup : Path.up ∉ around.environment.dir.parts)

include hwalk ht hup

theorem isPlain_madeTree (hplain : IsPlain (around.entry tree)) :
    IsPlain (around.entry (around.madeTree tree)) := by
  cases hentry : around.entry tree with
  | none =>
    rw [show around.entry (around.madeTree tree) = none from
      Settings.entry_madeTree_of_none ht hwalk hup hentry]
    exact fun n hn => nomatch hn
  | some n =>
    rwa [show around.madeTree tree = tree from Settings.madeTree_of_entry hwalk hentry]

theorem not_blocked : ¬ Blocked around tree a := by
  intro h
  cases hentry : around.entry tree with
  | none =>
    cases (Settings.entry_madeTree_of_none ht hwalk hup hentry).symm.trans h.directory
  | some n =>
    have hdirectory := h.directory
    rw [show around.madeTree tree = tree from Settings.madeTree_of_entry hwalk hentry] at hdirectory
    cases (Settings.fileExists_of_entry hwalk hdirectory (by simp)).symm.trans h.absent

end Closed

/-! ## Settings below a name with brackets -/

/-- A user whose configuration directory has the form of a closing tag in its name. -/
def bracketSurroundings : Surroundings :=
  { homeSurroundings with environment := { home := "/home", configHome := some "a[/b]" } }

/-- The place of the settings. -/
def bracketSettings : Place := ["linecol", "b]", "a["]

/-- Some settings. -/
def bracketTree : Tree := ⟨[
  (["a["], .directory), (["b]", "a["], .directory), (bracketSettings, .directory),
  (Settings.fileName :: bracketSettings, .file [0x78])]⟩

theorem entry_bracketTree : bracketSurroundings.entry bracketTree = some (.file [0x78]) := by cbv

theorem untold_bracketSurroundings : ¬ RemovalTold bracketSurroundings := by
  have hpath : (fileIn bracketSurroundings.environment.dir).render =
      "a".toList ++ tagText 0 ('/' :: "b".toList) "/linecol/config.toml" := by decide
  exact untold_of_closing hpath (by decide) (by decide) (by decide)

theorem entry_brokenTree : homeSurroundings.entry brokenTree = some (.file [0xFF]) := by cbv

theorem isPlain_of_file {entry : Option Node} {content : List UInt8}
    (h : entry = some (.file content)) : IsPlain entry := fun _ hn =>
  .inr ⟨content, Option.some.inj (hn.symm.trans h)⟩

theorem walkable_dir (h : Text.nul ∉ around.environment.dir.render) :
    Tree.Walkable around.environment.dir := by
  refine ⟨Path.proper_join (Path.proper_parse _) (Path.proper_parse _), fun part hpart hnul => ?_⟩
  exact h ((Path.mem_render_iff (by decide) (by decide)).2 ⟨part, hpart, hnul⟩)

end Pinpoint.CommandLine
