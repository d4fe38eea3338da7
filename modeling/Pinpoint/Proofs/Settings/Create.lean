import Pinpoint.Proofs.FileSystem.Tree.Changes
import Pinpoint.Proofs.Path.Characters
import Pinpoint.Proofs.Path.Reading
import Pinpoint.Proofs.Settings.Default
import Pinpoint.Proofs.Text.Utf8

/-!
# Writing the file of the settings

A directory that is there or can be made takes a new file of settings, whether it has had
one or not. The settings that are read afterwards are those that have been written, if they
can be read at all.

* `Writable`: the file of a directory can be written.
* `Writable.absent_or_present`: what is there before.
* `Writable.unlink`: a file that is there can be removed.
* `Writable.create`: where there is none, one can be written, and this one is read.
* `open_of_isBasic`, `open_of_beyond`: what is read.
-/

namespace Pinpoint.Settings

open Toml (IsBasic)

variable {t : Tree} {cwd place : Place} {dir : Path} {editor : Text}

/-! ## Specification -/

/-- The name of the file. -/
def fileName : Text := "config.toml"

/-- The file of a directory can be written: the directory is there or can be made, and its file, if
there is one, is a regular file. -/
structure Writable (t : Tree) (cwd : Place) (dir : Path) (place : Place) : Prop where
  walkable : Tree.Walkable dir
  size_le : Utf8.size (fileIn dir).render ≤ Tree.maxPathBytes
  made : (t.ensureDirectories cwd dir).2 = .ok place
  isFileOrFree : (t.ensureDirectories cwd dir).1.IsFileOrFree (fileName :: place)

/-- The file of a directory is there. -/
structure Present (t : Tree) (cwd : Place) (dir : Path) (place : Place) : Prop where
  find : t.find cwd dir = .ok place
  directory : t.node? place = some .directory
  isFile : ∃ content, t.node? (fileName :: place) = some (.file content)

/-- The editor command that is written: an empty one counts as none. -/
def chosenEditor (editor : Option Text) : Text :=
  if editor.getD [] = [] then defaultEditor else editor.getD []

/-! ## Where the file is -/

theorem isFileName_fileName : IsFileName fileName := by decide

theorem nul_notMem_fileIn (h : Tree.Walkable dir) :
    (fileIn dir).parts.any (Text.nul ∈ ·) = false := by
  rw [List.any_eq_false]
  intro part hpart
  rcases List.mem_append.1 hpart with hpart | hpart
  · simpa using h.2 part hpart
  · rw [List.mem_singleton.1 hpart]
    decide

theorem bracket_notMem_fileIn (h : '[' ∉ dir.render) : '[' ∉ (fileIn dir).render := by
  rw [Path.mem_render_iff (by decide) (by decide)] at h ⊢
  rintro ⟨part, hpart, hmem⟩
  rcases List.mem_append.1 hpart with hpart | hpart
  · exact h ⟨part, hpart, hmem⟩
  · rw [List.mem_singleton.1 hpart] at hmem
    exact absurd hmem (by decide)

/-- The path of the file ends in its name. -/
theorem getLast?_fileIn (dir : Path) : (fileIn dir).render.getLast? = some 'l' := by
  have hname : fileName.getLast? = some 'l' := by decide
  have hjoin : (Text.join ['/'] (dir.parts ++ [fileName])).getLast? = some 'l' := by
    by_cases hparts : dir.parts = []
    · rw [hparts]
      exact hname
    · rw [Text.join_concat _ _ hparts, List.getLast?_append, List.getLast?_append, hname]
      rfl
  have hne : fileIn dir ≠ Path.here := fun h =>
    absurd (congrArg Path.parts h) (List.append_ne_nil_of_right_ne_nil _ (List.cons_ne_nil _ _))
  rw [Path.render, if_neg hne, List.getLast?_append]
  exact congrArg (fun last : Option Char => last.or _) hjoin

theorem fileExists_of_missing {free : Option Place} (hwalk : Tree.Walkable dir)
    (h : t.find cwd (fileIn dir) = .error (.noEntry free)) :
    fileExists t cwd (fileIn dir) = .ok false := by
  rw [fileExists, nul_notMem_fileIn hwalk, Tree.stat, h]
  rfl

theorem fileExists_of_find {n : Node} (hwalk : Tree.Walkable dir)
    (h : t.find cwd (fileIn dir) = .ok place) (hn : t.node? place = some n) :
    fileExists t cwd (fileIn dir) = .ok true := by
  simp only [fileExists, nul_notMem_fileIn hwalk, Tree.stat, h, hn, Bool.false_eq_true, if_false]

theorem find_fileIn (hsize : Utf8.size (fileIn dir).render ≤ Tree.maxPathBytes)
    (hfind : t.find cwd dir = .ok place) (hdir : t.node? place = some .directory)
    (hfile : t.IsFileOrFree (fileName :: place)) :
    t.find cwd (fileIn dir) =
      if (t.node? (fileName :: place)).isSome then .ok (fileName :: place)
      else .error (.noEntry (some (fileName :: place))) :=
  Tree.find_child hfind hdir hsize isFileName_fileName hfile

/-- A directory that is there already takes the file. -/
theorem writable_of_find (hwalk : Tree.Walkable dir)
    (hsize : Utf8.size (fileIn dir).render ≤ Tree.maxPathBytes)
    (hfind : t.find cwd dir = .ok place) (hdir : t.node? place = some .directory)
    (hfile : t.IsFileOrFree (fileName :: place)) : Writable t cwd dir place := by
  have hmade := Tree.ensureDirectories_of_find hwalk hfind hdir
  exact ⟨hwalk, hsize, by rw [hmade], by rwa [hmade]⟩

namespace Writable

theorem madeTree (h : Writable t cwd dir place) :
    t.Made (t.ensureDirectories cwd dir).1 cwd dir place :=
  Tree.made_of_ensureDirectories h.walkable (Prod.ext rfl h.made)

/-- Either nothing is there, or the file is. -/
theorem absent_or_present (h : Writable t cwd dir place) :
    fileExists t cwd (fileIn dir) = .ok false ∨
      fileExists t cwd (fileIn dir) = .ok true ∧ Present t cwd dir place := by
  obtain ⟨hfind, hdir, hunmade⟩ := h.madeTree
  have hfile := h.isFileOrFree
  rcases hunmade with hunmade | ⟨free, hmissing⟩
  · rw [hunmade] at hfind hdir hfile
    have hfound := find_fileIn h.size_le hfind hdir hfile
    cases hnode : t.node? (fileName :: place) with
    | none =>
      rw [hnode] at hfound
      exact .inl (fileExists_of_missing h.walkable hfound)
    | some n =>
      obtain ⟨content, rfl⟩ := hfile n hnode
      rw [hnode] at hfound
      exact .inr ⟨fileExists_of_find h.walkable hfound hnode, hfind, hdir, content, hnode⟩
  · exact .inl (fileExists_of_missing h.walkable (Tree.find_child_of_missing hmissing h.size_le))

/-! ## Removing the file -/

/-- Without its file, the directory takes a new one. -/
theorem unlink (h : Writable t cwd dir place) (hpresent : Present t cwd dir place) :
    ∃ t', t.unlink cwd (fileIn dir) = .ok t' ∧ Writable t' cwd dir place ∧
      fileExists t' cwd (fileIn dir) = .ok false := by
  obtain ⟨hfind, hdir, content, hfile⟩ := hpresent
  have hold : t.IsFileOrFree (fileName :: place) := fun n hn =>
    ⟨content, Option.some.inj (hn.symm.trans hfile)⟩
  have hnode : (t.erase (fileName :: place)).node? (fileName :: place) = none := by
    rw [Tree.node?_erase t hold.ne_nil, if_pos rfl]
  have hkeeps : t.Keeps (t.erase (fileName :: place)) := Tree.keeps_erase hold
  have hfind' := Tree.find_of_keeps hkeeps hfind hdir
  have hdir' := hkeeps place _ hdir (.inl rfl)
  refine ⟨t.erase (fileName :: place),
    Tree.unlink_child hfind hdir h.size_le isFileName_fileName hfile,
    writable_of_find h.walkable h.size_le hfind' hdir' (.of_none hnode), ?_⟩
  have hmissing := find_fileIn h.size_le hfind' hdir' (.of_none hnode)
  rw [hnode] at hmissing
  exact fileExists_of_missing h.walkable hmissing

end Writable

/-! ## Writing the file -/

/-- The bytes that have been written are those that are read. -/
theorem load_put (hwalk : Tree.Walkable dir)
    (hsize : Utf8.size (fileIn dir).render ≤ Tree.maxPathBytes)
    (hfind : t.find cwd dir = .ok place) (hdir : t.node? place = some .directory)
    (hfile : t.IsFileOrFree (fileName :: place)) (bytes : List UInt8) :
    load (t.put (fileName :: place) (.file bytes)) cwd (fileIn dir) = tableOfBytes bytes := by
  have hkeeps := Tree.keeps_put (.file bytes) hfile
  have hnode := Tree.node?_put_self t (.file bytes) hfile.ne_nil
  have hnew : (t.put (fileName :: place) (.file bytes)).IsFileOrFree (fileName :: place) :=
    fun n hn => ⟨bytes, Option.some.inj (hn.symm.trans hnode)⟩
  have hfind' := find_fileIn hsize (Tree.find_of_keeps hkeeps hfind hdir)
    (hkeeps place _ hdir (.inl rfl)) hnew
  rw [hnode, Option.isSome_some, if_pos rfl] at hfind'
  have hcontent :
      (t.put (fileName :: place) (.file bytes)).contentOf cwd (fileIn dir) = .ok bytes := by
    rw [Tree.contentOf, Tree.stat, hfind']
    simp only [hnode]
    rfl
  simp only [load, fileExists_of_find hwalk hfind' hnode, hcontent]

theorem create_of_steps {t₁ t₂ : Tree} {editor : Option Text}
    (habsent : fileExists t cwd (fileIn dir) = .ok false) (hwalk : Tree.Walkable dir)
    (hmade : t.ensureDirectories cwd dir = (t₁, .ok place))
    (hwrite : t₁.write cwd (fileIn dir) (Utf8.encode (defaultText (chosenEditor editor))) =
      .ok t₂) :
    (unread dir).create t cwd editor = (t₂, .ok ()) := by
  have hnul : dir.parts.any (Text.nul ∈ ·) = false := by
    rw [List.any_eq_false]
    exact fun part hpart => by simpa using hwalk.2 part hpart
  have hpresent : (unread dir).isPresent t cwd = .ok false := habsent
  have hwrite' : t₁.write cwd (unread dir).file
      (Utf8.encode (defaultText (if editor.getD [] = [] then defaultEditor else editor.getD []))) =
      .ok t₂ := hwrite
  simp only [Settings.create, hpresent, show (unread dir).dir = dir from rfl, hnul, hmade, hwrite',
    Bool.false_eq_true, if_false]

/-- Where nothing is, the file is written, and its bytes are those that are read afterwards. -/
theorem Writable.create (h : Writable t cwd dir place)
    (habsent : fileExists t cwd (fileIn dir) = .ok false) (editor : Option Text) :
    ∃ t', (unread dir).create t cwd editor = (t', .ok ()) ∧
      load t' cwd (fileIn dir) =
        tableOfBytes (Utf8.encode (defaultText (chosenEditor editor))) := by
  obtain ⟨hfind, hdir, -⟩ := h.madeTree
  have hwrite := Tree.write_child hfind hdir h.size_le isFileName_fileName h.isFileOrFree
    (Utf8.encode (defaultText (chosenEditor editor)))
  exact ⟨_, create_of_steps habsent h.walkable (Prod.ext rfl h.made) hwrite,
    load_put h.walkable h.size_le hfind hdir h.isFileOrFree _⟩

/-! ## Reading the file -/

theorem isBasic_chosenEditor : IsBasic (chosenEditor (some editor)) ↔ IsBasic editor := by
  unfold chosenEditor
  split_ifs with h
  · rw [show editor = [] from h]
    decide
  · exact Iff.rfl

/-- A text that has been encoded is parsed as it was. -/
theorem tableOfBytes_encode {source : Text} {table : Toml.Table}
    (h : Toml.Document.parse source = .ok table) :
    tableOfBytes (Utf8.encode source) = .ok table := by
  simp only [tableOfBytes, Utf8.decode_encode, h]

theorem tableOfBytes_encode_of_error {source place : Text} {reason : Toml.Reason}
    (h : Toml.Document.parse source = .error (.at reason place)) :
    tableOfBytes (Utf8.encode source) = .error (.malformed reason place) := by
  simp only [tableOfBytes, Utf8.decode_encode, h]

theorem open_of_isBasic (h : IsBasic editor)
    (hload : load t cwd (fileIn dir) = tableOfBytes (Utf8.encode (defaultText editor))) :
    Settings.open t cwd dir = .ok ⟨dir, defaultTable editor⟩ := by
  rw [Settings.open, hload, tableOfBytes_encode (parse_defaultText h)]
  rfl

theorem open_of_beyond (h : ¬ IsBasic editor)
    (hload : load t cwd (fileIn dir) = tableOfBytes (Utf8.encode (defaultText editor))) :
    ∃ line, Settings.open t cwd dir = .error (.malformed .notScalar line) := by
  obtain ⟨line, hline⟩ := parse_defaultText_of_beyond h
  refine ⟨line, ?_⟩
  rw [Settings.open, hload, tableOfBytes_encode_of_error hline]
  rfl

end Pinpoint.Settings
