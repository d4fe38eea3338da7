import Pinpoint.Proofs.FileSystem.Tree.LastEntry
import Pinpoint.Proofs.Settings.Create

/-!
# What stands where the settings are

Writing settings comes to one of three ends, by what stands at their path once the directories
above it have been made: a new file, where nothing or a file stands; the directory that is there;
or nothing at all, where the directories cannot be made.

* `entry`, `newEntry`: what stands at the path of the settings, and what is written there.
* `fileExists_of_entry`, `entry_ne_none_of_fileExists`: what is found there.
* `entry_madeTree_of_none`: making directories brings nothing to light.
* `entry_create`, `entry_create_of_directory`, `entry_create_of_unmade`: the three ends.
* `entry_unlink`: a file that is removed first.
-/

namespace Pinpoint.Settings

variable {t t' : Tree} {cwd place : Place} {dir : Path} {editor : Option Text} {n : Node}
  {content : List UInt8}

/-! ## Specification -/

/-- What stands at the path of the file. -/
def entry (t : Tree) (cwd : Place) (dir : Path) : Option Node := t.lastNode? cwd (fileIn dir)

/-- The file that is written at first. -/
def newEntry (editor : Option Text) : Node :=
  .file (Utf8.encode (defaultText (chosenEditor editor)))

/-- The tree in which the directory has been made, as far as it can be. -/
def madeTree (t : Tree) (cwd : Place) (dir : Path) : Tree := (t.ensureDirectories cwd dir).1

/-! ## Whether the file is there -/

theorem isPresent_unread (t : Tree) (cwd : Place) (dir : Path) :
    (unread dir).isPresent t cwd = fileExists t cwd (fileIn dir) := rfl

theorem entry_eq_some_iff :
    entry t cwd dir = some n ↔
      Utf8.size (fileIn dir).render ≤ Tree.maxPathBytes ∧
        ∃ place, t.LeadsToDirectory cwd dir place ∧ t.node? (fileName :: place) = some n :=
  Tree.lastNode?_child_eq_some_iff isFileName_fileName

theorem entry_of_directory (h : t.LeadsToDirectory cwd dir place)
    (hsize : Utf8.size (fileIn dir).render ≤ Tree.maxPathBytes) :
    entry t cwd dir = t.node? (fileName :: place) :=
  Tree.lastNode?_child h hsize isFileName_fileName

theorem fileExists_of_entry (hwalk : Tree.Walkable dir) (h : entry t cwd dir = some n)
    (hn : ∀ target, n ≠ .link target) : fileExists t cwd (fileIn dir) = .ok true := by
  obtain ⟨hsize, place, hplace, hnode⟩ := entry_eq_some_iff.1 h
  have hfind := Tree.find_child_of_node hplace hsize isFileName_fileName hnode hn
  exact fileExists_of_find hwalk hfind hnode

theorem exists_find_of_fileExists {file : Path} (h : fileExists t cwd file = .ok true) :
    ∃ r n, t.find cwd file = .ok r ∧ t.node? r = some n := by
  unfold fileExists Tree.stat at h
  split_ifs at h
  · cases h
  · cases hfind : t.find cwd file with
    | error fault =>
      rw [hfind] at h
      dsimp only at h
      split_ifs at h
      all_goals cases h
    | ok r =>
      rw [hfind] at h
      cases hnode : t.node? r with
      | none => simp [hnode, OsError.noEntry, OsError.isMissing, OsError.errno?] at h
      | some n => exact ⟨r, n, rfl, hnode⟩

/-- A file that is there stands at its path. -/
theorem entry_ne_none_of_fileExists (h : fileExists t cwd (fileIn dir) = .ok true) :
    entry t cwd dir ≠ none := by
  obtain ⟨r, n, hfind, hnode⟩ := exists_find_of_fileExists h
  have hsize := (Tree.find_ok_iff.1 hfind).1
  obtain ⟨place, hplace⟩ := Tree.exists_leadsToDirectory hfind (by decide)
  rw [entry_of_directory hplace hsize]
  intro hnone
  have hmissing := find_fileIn hsize hplace.1 hplace.2 (.of_none hnone)
  rw [hnone, hfind] at hmissing
  cases hmissing

/-- Whether a file is there cannot be told by a path that is too long. -/
theorem fileExists_of_size_lt (hwalk : Tree.Walkable dir)
    (h : Tree.maxPathBytes < Utf8.size (fileIn dir).render) :
    fileExists t cwd (fileIn dir) = .error (.nameTooLong (fileIn dir).render) := by
  have hfind : t.find cwd (fileIn dir) = .error .nameTooLong := by
    rw [Tree.find, Tree.ensureLength, if_pos h]
    rfl
  rw [fileExists, nul_notMem_fileIn hwalk, Tree.stat, hfind]
  rfl

/-- Where a directory can be made in which nothing stands, its file is not there. -/
theorem fileExists_of_made (hwalk : Tree.Walkable dir)
    (hsize : Utf8.size (fileIn dir).render ≤ Tree.maxPathBytes) (hnone : entry t cwd dir = none)
    (hmade : (t.ensureDirectories cwd dir).2 = .ok place) :
    fileExists t cwd (fileIn dir) = .ok false := by
  obtain ⟨hfind, hdir, hunmade⟩ := Tree.made_of_ensureDirectories hwalk (Prod.ext rfl hmade)
  -- The directory is there already, or its path leads nowhere yet.
  rcases hunmade with hunmade | ⟨free, hmissing⟩
  · rw [hunmade] at hfind hdir
    rw [entry_of_directory ⟨hfind, hdir⟩ hsize] at hnone
    have hfile := find_fileIn hsize hfind hdir (.of_none hnone)
    rw [hnone] at hfile
    exact fileExists_of_missing hwalk hfile
  · exact fileExists_of_missing hwalk (Tree.find_child_of_missing hmissing hsize)

/-! ## What comes to light -/

/-- Where something stands at the path already, no directory is made. -/
theorem madeTree_of_entry (hwalk : Tree.Walkable dir) (h : entry t cwd dir = some n) :
    madeTree t cwd dir = t := by
  obtain ⟨-, place, ⟨hfind, hdir⟩, -⟩ := entry_eq_some_iff.1 h
  rw [madeTree, Tree.ensureDirectories_of_find hwalk hfind hdir]

/-- Making the directories of a path without `..` brings nothing to light. -/
theorem entry_madeTree_of_none (ht : t.Closed) (hwalk : Tree.Walkable dir)
    (hup : Path.up ∉ dir.parts) (h : entry t cwd dir = none) :
    entry (madeTree t cwd dir) cwd dir = none := by
  cases hmade : (t.ensureDirectories cwd dir).2 with
  | error e => exact Tree.lastNode?_child_of_unmade hwalk isFileName_fileName (Prod.ext rfl hmade)
  | ok place =>
    have hensure : t.ensureDirectories cwd dir = (madeTree t cwd dir, .ok place) :=
      Prod.ext rfl hmade
    obtain ⟨hfind, hdir, hunmade⟩ := Tree.made_of_ensureDirectories hwalk hensure
    rcases hunmade with hunmade | ⟨free, hmissing⟩
    · rw [hunmade, h]
    · have hbare := Tree.bare_of_ensureDirectories ht hwalk hup hmissing hensure
      rw [Option.eq_none_iff_forall_ne_some]
      intro n hn
      obtain ⟨hsize, -⟩ := entry_eq_some_iff.1 hn
      rw [entry_of_directory ⟨hfind, hdir⟩ hsize] at hn
      cases (hbare [fileName] (List.cons_ne_nil _ _)).symm.trans hn

/-! ## Writing -/

/-- Where nothing is there, directories are made and the file is written. -/
theorem create_of_absent (hwalk : Tree.Walkable dir)
    (habsent : fileExists t cwd (fileIn dir) = .ok false) (editor : Option Text) :
    (unread dir).create t cwd editor =
      match t.ensureDirectories cwd dir with
      | (t, .error e) => (t, .error (.os e))
      | (t, .ok _) =>
        match t.write cwd (fileIn dir) (Utf8.encode (defaultText (chosenEditor editor))) with
        | .ok t => (t, .ok ())
        | .error e => (t, .error (.os e)) := by
  have hnul : (unread dir).dir.parts.any (Text.nul ∈ ·) = false := by
    rw [List.any_eq_false]
    exact fun part hpart => by simpa using hwalk.2 part hpart
  simp only [Settings.create, isPresent_unread, habsent, hnul, Bool.false_eq_true, if_false]
  rfl

/-- Where the directories cannot be made, nothing stands at the path of the file. -/
theorem entry_create_of_unmade {e : OsError} (hwalk : Tree.Walkable dir)
    (habsent : fileExists t cwd (fileIn dir) = .ok false)
    (hmade : (t.ensureDirectories cwd dir).2 = .error e) :
    entry ((unread dir).create t cwd editor).1 cwd dir = none := by
  have hensure : t.ensureDirectories cwd dir = (madeTree t cwd dir, .error e) := Prod.ext rfl hmade
  rw [create_of_absent hwalk habsent, hensure]
  exact Tree.lastNode?_child_of_unmade hwalk isFileName_fileName hensure

/-- A directory that stands at the path of the file is left there. -/
theorem entry_create_of_directory (hwalk : Tree.Walkable dir)
    (habsent : fileExists t cwd (fileIn dir) = .ok false)
    (hdirectory : entry (madeTree t cwd dir) cwd dir = some .directory) :
    entry ((unread dir).create t cwd editor).1 cwd dir = some .directory := by
  obtain ⟨hsize, place, hplace, hnode⟩ := entry_eq_some_iff.1 hdirectory
  have hfind := Tree.find_child_of_node hplace hsize isFileName_fileName hnode (by simp)
  have hwrite : (madeTree t cwd dir).write cwd (fileIn dir)
      (Utf8.encode (defaultText (chosenEditor editor))) =
        .error (.isDirectory (fileIn dir).render) := by
    rw [Tree.write, show (madeTree t cwd dir).find cwd (fileIn dir) = _ from hfind]
    exact if_pos hnode
  rw [create_of_absent hwalk habsent]
  cases hmade : (t.ensureDirectories cwd dir).2 with
  | error e =>
    rw [show t.ensureDirectories cwd dir = (madeTree t cwd dir, .error e) from Prod.ext rfl hmade]
    exact hdirectory
  | ok made =>
    rw [show t.ensureDirectories cwd dir = (madeTree t cwd dir, .ok made) from Prod.ext rfl hmade]
    simp only [hwrite]
    exact hdirectory

/-- The file that is written stands at its path. -/
theorem entry_put (hplace : t.LeadsToDirectory cwd dir place)
    (hsize : Utf8.size (fileIn dir).render ≤ Tree.maxPathBytes)
    (hfile : t.IsFileOrFree (fileName :: place)) (content : List UInt8) :
    entry (t.put (fileName :: place) (.file content)) cwd dir = some (.file content) := by
  have hkeeps := Tree.keeps_put (.file content) hfile
  have hplace' : (t.put (fileName :: place) (.file content)).LeadsToDirectory cwd dir place :=
    ⟨Tree.find_of_keeps hkeeps hplace.1 hplace.2, hkeeps place _ hplace.2 (.inl rfl)⟩
  rw [entry_of_directory hplace' hsize, Tree.node?_put_self t _ hfile.ne_nil]

/-- Where the directories can be made, and nothing or a file stands at the path then, the new file
    stands there in the end. -/
theorem entry_create (hwalk : Tree.Walkable dir)
    (hsize : Utf8.size (fileIn dir).render ≤ Tree.maxPathBytes)
    (habsent : fileExists t cwd (fileIn dir) = .ok false)
    (hmade : (t.ensureDirectories cwd dir).2 = .ok place)
    (hfile : ∀ n, entry (madeTree t cwd dir) cwd dir = some n → ∃ content, n = .file content) :
    entry ((unread dir).create t cwd editor).1 cwd dir = some (newEntry editor) := by
  have hensure : t.ensureDirectories cwd dir = (madeTree t cwd dir, .ok place) :=
    Prod.ext rfl hmade
  obtain ⟨hfind, hdir, -⟩ := Tree.made_of_ensureDirectories hwalk hensure
  rw [entry_of_directory ⟨hfind, hdir⟩ hsize] at hfile
  have hwrite := Tree.write_child hfind hdir hsize isFileName_fileName hfile
    (Utf8.encode (defaultText (chosenEditor editor)))
  rw [create_of_steps habsent hwalk hensure hwrite]
  exact entry_put ⟨hfind, hdir⟩ hsize hfile _

/-! ## Removing and writing -/

/-- A file is removed, and then nothing stands at its path, until a new file is written. -/
theorem entry_unlink (hwalk : Tree.Walkable dir) (h : entry t cwd dir = some (.file content)) :
    ∃ t', t.unlink cwd (fileIn dir) = .ok t' ∧ entry t' cwd dir = none ∧
      ∀ editor, entry ((unread dir).create t' cwd editor).1 cwd dir = some (newEntry editor) := by
  obtain ⟨hsize, place, hplace, hnode⟩ := entry_eq_some_iff.1 h
  have hold : t.IsFileOrFree (fileName :: place) := fun n hn =>
    ⟨content, Option.some.inj (hn.symm.trans hnode)⟩
  have hkeeps : t.Keeps (t.erase (fileName :: place)) := Tree.keeps_erase hold
  have hplace' : (t.erase (fileName :: place)).LeadsToDirectory cwd dir place :=
    ⟨Tree.find_of_keeps hkeeps hplace.1 hplace.2, hkeeps place _ hplace.2 (.inl rfl)⟩
  have hfree : (t.erase (fileName :: place)).node? (fileName :: place) = none := by
    rw [Tree.node?_erase t hold.ne_nil, if_pos rfl]
  have hnone : entry (t.erase (fileName :: place)) cwd dir = none := by
    rw [entry_of_directory hplace' hsize, hfree]
  refine ⟨t.erase (fileName :: place),
    Tree.unlink_child hplace.1 hplace.2 hsize isFileName_fileName hnode, hnone, fun editor => ?_⟩
  have hmissing := find_fileIn hsize hplace'.1 hplace'.2 (.of_none hfree)
  rw [hfree] at hmissing
  have hmade := Tree.ensureDirectories_of_find hwalk hplace'.1 hplace'.2
  refine entry_create hwalk hsize (fileExists_of_missing hwalk hmissing) (by rw [hmade]) ?_
  rw [madeTree, hmade, hnone]
  simp

end Pinpoint.Settings
