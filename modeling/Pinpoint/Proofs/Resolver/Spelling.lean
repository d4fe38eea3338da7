import Pinpoint.FileSystem.Tree.Canonical
import Pinpoint.Proofs.Path.Reading
import Pinpoint.Proofs.Resolver.Straight

/-!
# Relative and absolute spellings

A relative argument is read as a path and joined to the working directory before a
suffix is looked for; an absolute one keeps every `.` and every doubled slash. Both
spellings come to the same on a file system that looks at paths only as they are
read. A suffix holds no slash, so it is cut from the last name alone, and what is
left of two spellings is again two spellings of one path.

* `Respelled`: texts that end in the same name, below directories that read the same.
* `Respelled.cut`: a suffix is cut from both texts or from none.
* `alike_resolve_spellOut`: a relative argument and the same argument written out
  behind the working directory come to the same.
-/

namespace Pinpoint

/-! ## Specification -/

/-- Two computations end alike: both answer, and their answers are related, or both crash in the
    same way. -/
inductive Alike {α β : Type} (R : α → β → Prop) : Except Crash α → Except Crash β → Prop
  | ok {a : α} {b : β} (h : R a b) : Alike R (.ok a) (.ok b)
  | error (c : Crash) : Alike R (.error c) (.error c)

/-- The same specifier, or failures of the same kind. -/
inductive SameResult : Except Failure Specifier → Except Failure Specifier → Prop
  | ok (s : Specifier) : SameResult (.ok s) (.ok s)
  | error {f g : Failure} (h : f.kind = g.kind) : SameResult (.error f) (.error g)

/-- The same kind of entry at the same canonical path. Errors may be worded differently. -/
inductive SameFinding : Probe → Probe → Prop
  | refl (r : Probe) : SameFinding r r
  | error (e e' : OsError) : SameFinding (.error e) (.error e')

/-- What a probe finds depends only on how the candidate is written once it is read as a path. -/
def FileSystem.ReadsPaths (fs : FileSystem) : Prop :=
  ∀ x y, (Path.parse x).render = (Path.parse y).render →
    Alike SameFinding ((probe x).run fs) ((probe y).run fs)

/-- Writes an argument behind the working directory, as it stands. -/
def Context.spellOut (ctx : Context) (arg : Text) : Text :=
  let dir := ctx.workingDir.render
  if dir.getLast? = some '/' then dir ++ arg else dir ++ '/' :: arg

/-- Two texts that end in the same name, below directories that read the same. -/
inductive Respelled : Text → Text → Prop
  | below {a b g : Text} (hdir : Path.parse (a ++ ['/']) = Path.parse (b ++ ['/'])) (hg : '/' ∉ g) :
    Respelled (a ++ '/' :: g) (b ++ '/' :: g)

/-! ## Respelled texts -/

namespace Respelled

variable {t t' : Text}

theorem symm (h : Respelled t t') : Respelled t' t := by
  cases h with
  | below hdir hg => exact .below hdir.symm hg

theorem ne_nil (h : Respelled t t') : t ≠ [] := by
  cases h with
  | below hdir hg => simp

theorem parse_eq (h : Respelled t t') : Path.parse t = Path.parse t' := by
  cases h with
  | @below a b g hdir hg => rw [Path.parse_append a hg, Path.parse_append b hg, hdir]

/-- What two texts have behind the last slash, they can lose on both sides. -/
theorem cut {p s t' : Text} (h : Respelled (p ++ s) t') (hs : '/' ∉ s) :
    ∃ p', t' = p' ++ s ∧ Respelled p p' := by
  generalize ht : p ++ s = t at h
  cases h with
  | @below a b g hdir hg =>
    rcases List.append_eq_append_iff.1 ht with ⟨k, hk, hs'⟩ | ⟨k, rfl, hk⟩
    · -- The slash would stand behind `p`, in `s`.
      exact absurd (hs' ▸ List.mem_append_right k List.mem_cons_self) hs
    · cases k with
      | nil =>
        rw [List.nil_append] at hk
        exact absurd (hk ▸ List.mem_cons_self) hs
      | cons c k =>
        obtain ⟨rfl, rfl⟩ := List.cons.inj hk
        exact ⟨b ++ '/' :: k, by simp, .below hdir fun hmem => hg (List.mem_append_left s hmem)⟩

/-- Texts that read the same and have the same last piece are respelled. -/
theorem of_cut {init init' : List Text} {g : Text} (hparse : Path.parse t = Path.parse t')
    (ht : Text.cut '/' t = init ++ [g]) (hinit : init ≠ [])
    (ht' : Text.cut '/' t' = init' ++ [g]) (hinit' : init' ≠ []) : Respelled t t' := by
  have hg : '/' ∉ g := Text.sep_notMem_of_mem_cut (t := t) (by simp [ht])
  have happ := Text.eq_append_of_cut ht hinit
  have happ' := Text.eq_append_of_cut ht' hinit'
  rw [happ, happ'] at hparse ⊢
  refine .below ?_ hg
  rw [Path.parse_append _ hg, Path.parse_append _ hg, Path.mk.injEq, List.append_cancel_right_eq]
    at hparse
  exact congrArg₂ Path.mk hparse.1 hparse.2

end Respelled

/-! ## Suffixes of respelled texts -/

section Suffixes

variable {t t' : Text}

theorem slash_notMem_suffix {l c : Text} (hl : IsGroup l) (hc : IsGroup c) :
    '/' ∉ ':' :: l ++ ':' :: c := by
  have hl' : '/' ∉ l := fun h => (hl.2 _ h).2.1 rfl
  have hc' : '/' ∉ c := fun h => (hc.2 _ h).2.1 rfl
  simp [hl', hc']

/-- Both texts have a reading as `path:LINE:COLUMN`, with the same groups and respelled paths, or
    none of them has one. -/
theorem Respelled.lineColumn? {m : LineColumn} (h : Respelled t t') (hm : lineColumn? t = some m) :
    ∃ m', lineColumn? t' = some m' ∧ m'.line = m.line ∧ m'.column = m.column ∧
      Respelled m.path m'.path := by
  obtain ⟨p, l, c, rfl, -, hl, hc, rfl⟩ := lineColumn?_eq_some_iff.1 hm
  rw [List.append_assoc] at h
  obtain ⟨p', rfl, hp'⟩ := h.cut (slash_notMem_suffix hl hc)
  rw [← List.append_assoc]
  exact ⟨_, lineColumn?_append hp'.symm.ne_nil hl hc, rfl, rfl, hp'⟩

theorem Respelled.lineColumn?_eq_none (h : Respelled t t') (hm : Pinpoint.lineColumn? t = none) :
    Pinpoint.lineColumn? t' = none := by
  cases hm' : Pinpoint.lineColumn? t' with
  | none => rfl
  | some m =>
    obtain ⟨m', hm'', -⟩ := h.symm.lineColumn? hm'
    rw [hm] at hm''
    cases hm''

theorem Respelled.lineOnly? {m : LineOnly} (h : Respelled t t') (hm : lineOnly? t = some m) :
    ∃ m', lineOnly? t' = some m' ∧ m'.line = m.line ∧ Respelled m.path m'.path := by
  obtain ⟨q, n, rfl, -, hn, rfl⟩ := lineOnly?_eq_some_iff.1 hm
  have hslash : '/' ∉ n := fun hs => (hn.isGroup.2 _ hs).2.1 rfl
  obtain ⟨q', rfl, hq'⟩ := h.cut (s := ':' :: n) (by simp [hslash])
  exact ⟨_, lineOnly?_append hq'.symm.ne_nil hn, rfl, hq'⟩

theorem Respelled.lineOnly?_eq_none (h : Respelled t t') (hm : Pinpoint.lineOnly? t = none) :
    Pinpoint.lineOnly? t' = none := by
  cases hm' : Pinpoint.lineOnly? t' with
  | none => rfl
  | some m =>
    obtain ⟨m', hm'', -⟩ := h.symm.lineOnly? hm'
    rw [hm] at hm''
    cases hm''

end Suffixes

/-! ## Computations that end alike -/

section Alike

variable {α β γ δ : Type} {R : α → β → Prop} {S : γ → δ → Prop} {fs : FileSystem}

theorem Alike.refl {R : α → α → Prop} (hR : ∀ a, R a a) (x : Except Crash α) : Alike R x x := by
  cases x with
  | ok a => exact .ok (hR a)
  | error c => exact .error c

/-- Computations that end alike go on alike, if they do so from related answers. -/
theorem Alike.bind {x : Inquiry α} {y : Inquiry β} {f : α → Inquiry γ} {g : β → Inquiry δ}
    (h : Alike R (x.run fs) (y.run fs))
    (hgo : ∀ a b, R a b → Alike S ((f a).run fs) ((g b).run fs)) :
    Alike S ((x.bind f).run fs) ((y.bind g).run fs) := by
  rw [Inquiry.run_bind, Inquiry.run_bind]
  generalize x.run fs = rx, y.run fs = ry at h
  cases h with
  | ok h => exact hgo _ _ h
  | error c => exact .error c

/-- A step that both computations have in common. -/
theorem Alike.bind_self {x : Inquiry α} {f : α → Inquiry γ} {g : α → Inquiry δ}
    (hgo : ∀ a, Alike S ((f a).run fs) ((g a).run fs)) :
    Alike S ((x.bind f).run fs) ((x.bind g).run fs) :=
  Alike.bind (Alike.refl Eq.refl _) fun a _ hab => hab ▸ hgo a

end Alike

/-! ## Searches that end alike -/

/-- Failures of the same kinds are remembered. -/
structure SamePending (p q : Pending) : Prop where
  parse : p.parse.map (·.kind) = q.parse.map (·.kind)
  io : p.io.map (·.kind) = q.io.map (·.kind)

/-- Both searches are settled alike, or both go on with failures of the same kinds. -/
inductive SameTrial : Trial → Trial → Prop
  | settled {a b : Except Failure Specifier} (h : SameResult a b) :
    SameTrial (.settled a) (.settled b)
  | continued {p q : Pending} (h : SamePending p q) : SameTrial (.continued p) (.continued q)

section Searches

variable {fs : FileSystem} {t t' : Text} {p q : Pending} {f g : Failure}

theorem SamePending.refl (p : Pending) : SamePending p p := ⟨rfl, rfl⟩

theorem SamePending.addParse (h : SamePending p q) (hfg : f.kind = g.kind) :
    SamePending (p.addParse f) (q.addParse g) := by
  obtain ⟨x, y⟩ := p
  obtain ⟨x', y'⟩ := q
  obtain ⟨hx, hy⟩ := h
  refine ⟨?_, hy⟩
  cases x <;> cases x' <;> simp_all [Pending.addParse]

theorem SamePending.addIO (h : SamePending p q) (hfg : f.kind = g.kind) :
    SamePending (p.addIO f) (q.addIO g) := by
  obtain ⟨x, y⟩ := p
  obtain ⟨x', y'⟩ := q
  obtain ⟨hx, hy⟩ := h
  refine ⟨hx, ?_⟩
  cases y <;> cases y' <;> simp_all [Pending.addIO]

theorem SamePending.failure (h : SamePending p q) (t t' : Text) :
    (p.failure t).kind = (q.failure t').kind := by
  obtain ⟨x, y⟩ := p
  obtain ⟨x', y'⟩ := q
  obtain ⟨hx, hy⟩ := h
  cases x <;> cases x' <;> cases y <;> cases y' <;> simp_all [Pending.failure]

theorem SameTrial.finish {a b : Trial} (h : SameTrial a b) (t t' : Text) :
    SameResult (a.finish t) (b.finish t') := by
  cases h with
  | settled h => exact h
  | continued h => exact .error (h.failure t t')

/-- A path in front of a position, in two spellings. -/
theorem alike_tryPosition {path path' : Text}
    (hprobe : Alike SameFinding ((probe path).run fs) ((probe path').run fs)) (pos : Position)
    (h : SamePending p q) :
    Alike SameTrial ((tryPosition t path pos p).run fs) ((tryPosition t' path' pos q).run fs) := by
  refine Alike.bind hprobe fun r r' hr => ?_
  cases hr with
  | error e e' => exact .ok (.continued (h.addIO rfl))
  | refl r =>
    cases r with
    | file c => exact .ok (.settled (.ok _))
    | directory c => exact .ok (.settled (.error rfl))
    | other c => exact .ok (.settled (.error rfl))
    | missing => exact .ok (.continued h)
    | error e => exact .ok (.continued (h.addIO rfl))

section ReadsPaths

variable (hfs : fs.ReadsPaths)

include hfs

theorem alike_probe (h : Respelled t t') :
    Alike SameFinding ((probe t).run fs) ((probe t').run fs) :=
  hfs t t' (congrArg Path.render h.parse_eq)

theorem alike_searchLineColumn (h : Respelled t t') :
    Alike SameTrial ((Straight.searchLineColumn t).run fs)
      ((Straight.searchLineColumn t').run fs) := by
  unfold Straight.searchLineColumn
  cases hm : lineColumn? t with
  | none =>
    rw [h.lineColumn?_eq_none hm]
    exact .ok (.continued (.refl _))
  | some m =>
    obtain ⟨m', hm', hline, hcolumn, hpath⟩ := h.lineColumn? hm
    simp only [hm', Straight.tryLineColumn, hline, hcolumn, Inquiry.bind_eq]
    refine Alike.bind_self fun line => ?_
    refine Alike.bind_self fun column => ?_
    rcases line with lineFault | l <;> rcases column with columnFault | c
    · exact .ok (.continued (SamePending.addParse (.refl _) rfl))
    · exact .ok (.continued (SamePending.addParse (.refl _) rfl))
    · exact .ok (.continued (SamePending.addParse (.refl _) rfl))
    · exact alike_tryPosition (alike_probe hfs hpath) _ (.refl _)

theorem alike_searchLineOnly (h : Respelled t t') (hpq : SamePending p q) :
    Alike SameTrial ((searchLineOnly t p).run fs) ((searchLineOnly t' q).run fs) := by
  unfold searchLineOnly
  cases hm : lineOnly? t with
  | none =>
    rw [h.lineOnly?_eq_none hm]
    exact .ok (.continued hpq)
  | some m =>
    obtain ⟨m', hm', hline, hpath⟩ := h.lineOnly? hm
    simp only [hm', tryLineOnly, hline, Inquiry.bind_eq]
    refine Alike.bind_self fun line => ?_
    rcases line with fault | l
    · exact .ok (.continued (hpq.addParse rfl))
    · exact alike_tryPosition (alike_probe hfs hpath) _ hpq

theorem alike_resolveSuffix (h : Respelled t t') :
    Alike SameResult ((Straight.resolveSuffix t).run fs) ((Straight.resolveSuffix t').run fs) := by
  refine Alike.bind (alike_searchLineColumn hfs h) fun trial trial' htrial => ?_
  cases htrial with
  | settled hresult => exact .ok hresult
  | continued hpq =>
    refine Alike.bind (alike_searchLineOnly hfs h hpq) fun second second' hsecond => ?_
    exact .ok (hsecond.finish t t')

theorem alike_resolveAbsolute (h : Respelled t t') :
    Alike SameResult ((resolveAbsolute t).run fs) ((resolveAbsolute t').run fs) := by
  have hsuffix : Alike SameResult ((resolveSuffix t).run fs) ((resolveSuffix t').run fs) := by
    rw [run_resolveSuffix, run_resolveSuffix]
    exact alike_resolveSuffix hfs h
  refine Alike.bind (alike_probe hfs h) fun r r' hr => ?_
  cases hr with
  | error e e' => exact hsuffix
  | refl r =>
    cases r with
    | file c => exact .ok (.ok _)
    | directory c => exact .ok (.ok _)
    | other c => exact hsuffix
    | missing => exact hsuffix
    | error e => exact hsuffix

end ReadsPaths

end Searches

/-! ## The two spellings of an argument -/

section Spellings

variable {dir : Path} {arg : Text}

/-- Names that reading keeps end in no slash. -/
theorem getLast?_render_ne_slash (hdir : dir.Proper) (hparts : dir.parts ≠ []) :
    dir.render.getLast? ≠ some '/' := by
  obtain ⟨root, parts⟩ := dir
  obtain ⟨init, name, rfl⟩ := (List.eq_nil_or_concat parts).resolve_left hparts
  rw [List.concat_eq_append] at hdir ⊢
  obtain ⟨hname, hslash⟩ := hdir name (by simp)
  have hne : name ≠ [] := by
    rintro rfl
    exact absurd hname (by decide)
  obtain ⟨front, hfront⟩ : ∃ front, Path.render ⟨root, init ++ [name]⟩ = front ++ name := by
    rw [Path.render, if_neg (by simp [Path.here])]
    by_cases hinit : init = []
    · exact ⟨root.render, by simp [hinit, Text.join]⟩
    · rw [Text.join_concat _ _ hinit]
      exact ⟨root.render ++ (Text.join ['/'] init ++ ['/']), by simp⟩
  rw [hfront, List.getLast?_append_of_ne_nil _ hne]
  exact fun hlast => hslash (List.mem_of_getLast? hlast)

theorem spellOut_of_parts_eq_nil (habs : dir.isAbsolute = true) (hparts : dir.parts = [])
    (arg : Text) : Context.spellOut ⟨dir⟩ arg = dir.root.render ++ arg := by
  have hrender : dir.render = dir.root.render := by
    rw [Path.render_of_isAbsolute habs, hparts]
    exact List.append_nil _
  rw [Context.spellOut, hrender, if_pos]
  cases hroot : dir.root with
  | relative => exact absurd hroot (Path.isAbsolute_iff.1 habs)
  | slash => rfl
  | doubleSlash => rfl

theorem spellOut_of_parts_ne_nil (hdir : dir.Proper) (hparts : dir.parts ≠ []) (arg : Text) :
    Context.spellOut ⟨dir⟩ arg = dir.render ++ '/' :: arg := by
  rw [Context.spellOut, if_neg (getLast?_render_ne_slash hdir hparts)]

theorem cut_spellOut (hdir : dir.Proper) (habs : dir.isAbsolute = true) (arg : Text) :
    ∃ init, init ≠ [] ∧ Text.cut '/' (Context.spellOut ⟨dir⟩ arg) = init ++ Text.cut '/' arg := by
  by_cases hparts : dir.parts = []
  · rw [spellOut_of_parts_eq_nil habs hparts]
    exact Path.cut_root_append (Path.isAbsolute_iff.1 habs) arg
  · rw [spellOut_of_parts_ne_nil hdir hparts]
    exact ⟨_, Text.cut_ne_nil _ _, Text.cut_append '/' _ _⟩

/-- Both spellings are read as the same path. -/
theorem parse_spellOut (hdir : dir.Proper) (habs : dir.isAbsolute = true)
    (hrel : (Path.parse arg).isAbsolute = false) :
    Path.parse (Context.spellOut ⟨dir⟩ arg) = dir.join (Path.parse arg) := by
  have hhead : arg.head? ≠ some '/' := by
    rw [← Bool.not_eq_true, Path.isAbsolute_parse_iff] at hrel
    exact hrel
  rw [Path.join, if_neg (by simp [hrel])]
  by_cases hparts : dir.parts = []
  · rw [spellOut_of_parts_eq_nil habs hparts, Path.parse, Path.rootOf_root_append _ hhead,
      Path.partsOf_root_append, hparts]
    rfl
  · have hjoin : Text.join ['/'] dir.parts ≠ [] := by
      intro hnil
      have hback := Path.partsOf_join hdir
      rw [hnil] at hback
      exact hparts hback.symm
    have hhead' : (Text.join ['/'] dir.parts ++ '/' :: arg).head? ≠ some '/' := by
      rw [List.head?_append_of_ne_nil _ hjoin]
      exact Path.head?_join_ne_slash hdir
    rw [spellOut_of_parts_ne_nil hdir hparts, Path.render_of_isAbsolute habs, List.append_assoc,
      Path.parse, Path.rootOf_root_append _ hhead', Path.partsOf_root_append, Path.partsOf_append,
      Path.partsOf_join hdir]
    rfl

theorem cut_render {root : Root} {names : List Text} (hroot : root ≠ .relative)
    (hnames : Path.Proper ⟨root, names⟩) (hne : names ≠ []) :
    ∃ init, init ≠ [] ∧ Text.cut '/' (Path.render ⟨root, names⟩) = init ++ names := by
  rw [Path.render_of_isAbsolute (Path.isAbsolute_iff.2 hroot)]
  obtain ⟨init, hinit, hcut⟩ := Path.cut_root_append hroot (Text.join ['/'] names)
  rw [Text.cut_join hne fun part hpart => (hnames part hpart).2] at hcut
  exact ⟨init, hinit, hcut⟩

/-- The two spellings of an argument whose last name is kept differ only above that name. -/
theorem respelled_spellOut (hdir : dir.Proper) (habs : dir.isAbsolute = true)
    (hrel : (Path.parse arg).isAbsolute = false) {last : Text}
    (hlast : (Text.cut '/' arg).getLast? = some last) (hname : Path.isName last = true) :
    Respelled (Context.absolutize ⟨dir⟩ arg) (Context.spellOut ⟨dir⟩ arg) := by
  obtain ⟨init, hcut⟩ := List.getLast?_eq_some_iff.1 hlast
  have habsolutize : Context.absolutize ⟨dir⟩ arg = (dir.join (Path.parse arg)).render :=
    if_neg (by simp [hrel])
  have hproper : (dir.join (Path.parse arg)).Proper := Path.proper_join hdir (Path.proper_parse arg)
  have hparts : Path.partsOf arg = init.filter Path.isName ++ [last] := by
    rw [Path.partsOf, hcut, List.filter_append, List.filter_singleton, hname]
    rfl
  have hjoin : dir.join (Path.parse arg) =
      ⟨dir.root, (dir.parts ++ init.filter Path.isName) ++ [last]⟩ := by
    rw [Path.join, if_neg (by simp [hrel]), Path.parse, hparts, List.append_assoc]
  obtain ⟨front, hfront, hcut₁⟩ :=
    cut_render (Path.isAbsolute_iff.1 habs) (hjoin ▸ hproper) (by simp)
  obtain ⟨front', hfront', hcut₂⟩ := cut_spellOut hdir habs arg
  rw [← List.append_assoc] at hcut₁
  rw [hcut, ← List.append_assoc] at hcut₂
  have hparse : Path.parse (Context.absolutize ⟨dir⟩ arg) =
      Path.parse (Context.spellOut ⟨dir⟩ arg) := by
    rw [habsolutize, Path.parse_render hproper, parse_spellOut hdir habs hrel]
  rw [← hjoin, ← habsolutize] at hcut₁
  exact .of_cut hparse hcut₁ (by simp [hfront]) hcut₂ (by simp [hfront'])

theorem nul_mem_spellOut_iff (hnul : Text.nul ∉ dir.render) :
    Text.nul ∈ Context.spellOut ⟨dir⟩ arg ↔ Text.nul ∈ arg := by
  have hslash : Text.nul ≠ '/' := by decide
  unfold Context.spellOut
  dsimp only
  split <;> simp [hnul, hslash]

end Spellings

/-- The file system of a tree looks at paths only as they are read. -/
theorem Tree.readsPaths (t : Tree) (cwd : Place) : (t.toFileSystem cwd).ReadsPaths := by
  intro x y hxy
  have hparse : Path.parse x = Path.parse y := by
    rw [← Path.parse_render (Path.proper_parse x), hxy, Path.parse_render (Path.proper_parse y)]
  simp only [probe, Inquiry.run, Tree.toFileSystem, Tree.canonicalize, hparse]
  generalize t.canonicalWalk cwd t.linkDepth _ (Path.parse y).parts [] = walked
  rcases walked with (e | link | _) | ⟨w, memory⟩
  · exact Alike.refl .refl _
  · -- Only the failure on a loop names the path as it was asked for.
    exact .ok (.error _ _)
  · exact Alike.refl .refl _
  · exact Alike.refl .refl _

/-- **Spellings.** A relative argument whose last name is kept, and the same argument written out
    behind the absolute working directory, come to the same specifier, to failures of the same kind,
    or to the same crash. -/
theorem alike_resolve_spellOut {fs : FileSystem} {dir arg last : Text} (hfs : fs.ReadsPaths)
    (habs : (Path.parse dir).isAbsolute = true) (hnul : Text.nul ∉ (Path.parse dir).render)
    (hrel : (Path.parse arg).isAbsolute = false)
    (hlast : (Text.cut '/' arg).getLast? = some last) (hname : Path.isName last = true) :
    let ctx := Context.ofWorkingDir? (some dir)
    Alike SameResult ((resolve ctx arg).run fs) ((resolve ctx (ctx.spellOut arg)).run fs) := by
  intro ctx
  have hproper : (Path.parse dir).Proper := Path.proper_parse dir
  have hne : arg ≠ [] := by
    rintro rfl
    obtain rfl : [] = last := by simpa [Text.cut] using hlast
    exact absurd hname (by decide)
  have hresp : Respelled (ctx.absolutize arg) (ctx.spellOut arg) :=
    respelled_spellOut hproper habs hrel hlast hname
  have hne' := hresp.symm.ne_nil
  have hnul' : Text.nul ∈ ctx.spellOut arg ↔ Text.nul ∈ arg := nul_mem_spellOut_iff hnul
  by_cases h : Text.nul ∈ arg
  · rw [resolve, if_neg hne, if_pos h, resolve, if_neg hne', if_pos (hnul'.2 h)]
    exact .ok (.error rfl)
  · have habs' : (Path.parse (ctx.spellOut arg)).isAbsolute = true := by
      rw [show ctx.spellOut arg = Context.spellOut ⟨Path.parse dir⟩ arg from rfl,
        parse_spellOut hproper habs hrel, Path.join, if_neg (by simp [hrel])]
      exact habs
    rw [resolve_of_ne_nil ctx hne h, resolve_of_isAbsolute ctx habs' (mt hnul'.1 h)]
    exact alike_resolveAbsolute hfs hresp

/-- A file whose own name ends in a number, below a directory that is spelled with `.` and a doubled
    slash: the suffix is looked for in two different texts. -/
theorem numbered_file_in_two_spellings :
    let fs := Tree.toFileSystem
      ⟨[(["work"], .directory), (["b", "work"], .directory), (["a:1", "b", "work"], .file [])]⟩ []
    let arg : Text := "b/.//a:1:7"
    let ctx := Context.ofWorkingDir? (some "/work")
    fs.ReadsPaths ∧ (Path.parse "/work").isAbsolute = true ∧
      Text.nul ∉ (Path.parse "/work").render ∧ (Path.parse arg).isAbsolute = false ∧
      (Text.cut '/' arg).getLast? = some "a:1:7".toList ∧ Path.isName "a:1:7" = true ∧
      ctx.absolutize arg = "/work/b/a:1:7".toList ∧ ctx.spellOut arg = "/work/b/.//a:1:7".toList ∧
      Alike SameResult ((resolve ctx arg).run fs) ((resolve ctx (ctx.spellOut arg)).run fs) := by
  intro fs arg ctx
  have hfs : fs.ReadsPaths := Tree.readsPaths _ _
  have habs : (Path.parse "/work").isAbsolute = true := by decide
  have hnul : Text.nul ∉ (Path.parse "/work").render := by decide
  have hrel : (Path.parse arg).isAbsolute = false := by decide
  have hlast : (Text.cut '/' arg).getLast? = some "a:1:7".toList := by decide
  have hname : Path.isName "a:1:7" = true := by decide
  exact ⟨hfs, habs, hnul, hrel, hlast, hname, by decide, by decide,
    alike_resolve_spellOut hfs habs hnul hrel hlast hname⟩

end Pinpoint
