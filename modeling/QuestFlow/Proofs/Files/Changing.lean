import QuestFlow.Proofs.Files.Growth

/-!
# Changes to a file tree

Whatever is written or removed, a file tree stays well-formed.

1. **One place.**  A tree with something else at one place is well-formed, unless a directory goes
   from under what it holds (`WellFormed.put`).
2. **Making directories** adds directories and nothing else, and the path of the directory that was
   made leads to it (`made_makeDirectory`).  The induction is on the components, the last one first,
   as the directories are made.
3. **Writing a file** fails, or the path of the file leads to it and all else is as it was, but for
   directories that are new (`write_file_cases`).  A file that was not there is one file more
   (`grows_of_wrote`).
4. **Removing** takes away what is below a place, and with it nothing that has to stay
   (`WellFormed.remove`).
-/

namespace QuestFlow
namespace FileTree

variable {t t' : FileTree} {place holder other : Place} {e : FileEntry} {p : Path} {name : String}
  {content : Content} {anchor : Anchor} {parts : List String}

/-! ## One place -/

section Entries

variable {entries : List (Place × FileEntry)}

theorem mem_setEntry {x : Place × FileEntry} (hmem : x ∈ setEntry place e entries) :
    x = (place, e) ∨ x ∈ entries := by
  induction entries with
  | nil => exact .inl (List.mem_singleton.1 hmem)
  | cons head rest ih =>
    rw [setEntry] at hmem
    split at hmem
    · rename_i hhead
      rcases List.mem_cons.1 hmem with rfl | hmem
      · exact .inl (Prod.ext hhead rfl)
      · exact .inr (List.mem_cons_of_mem head hmem)
    · rcases List.mem_cons.1 hmem with rfl | hmem
      · exact .inr List.mem_cons_self
      · exact (ih hmem).imp_right (List.mem_cons_of_mem head)

/-- No place is set twice. -/
theorem nodup_setEntry (h : (entries.map (·.1)).Nodup) :
    ((setEntry place e entries).map (·.1)).Nodup := by
  induction entries with
  | nil => exact List.nodup_singleton place
  | cons head rest ih =>
    rw [setEntry]
    split
    · exact h
    · rename_i hhead
      rw [List.map_cons, List.nodup_cons] at h ⊢
      refine ⟨fun hmem => ?_, ih h.2⟩
      obtain ⟨x, hx, hsame⟩ := List.mem_map.1 hmem
      rcases mem_setEntry hx with rfl | hx
      · exact hhead hsame.symm
      · exact h.1 (hsame ▸ List.mem_map_of_mem hx)

end Entries

/-- **Something else at one place**, where no directory is replaced by a file. -/
theorem WellFormed.put (h : t.WellFormed) (hoff : place.isPrefixOf t.here = false)
    (hheld : t.isDirectoryAt place.dropLast = true) (hnames : ∀ name ∈ place, IsFileName name)
    (hkeep : t.entry? place = some .directory → e = .directory) : (t.put place e).WellFormed := by
  have hdirs : ∀ other, t.isDirectoryAt other = true →
      (t.put place e).isDirectoryAt other = true := by
    intro other hother
    by_cases heq : other = place
    · subst heq
      rw [isDirectoryAt, entry?_put_self hoff, hkeep (beq_iff_eq.1 hother)]
      rfl
    · rwa [isDirectoryAt, entry?_put_of_ne heq]
  have hentries : ∀ q f, (q, f) ∈ (t.put place e).entries → q = place ∨ (q, f) ∈ t.entries :=
    fun q f hmem => (mem_setEntry hmem).imp_left (congrArg Prod.fst)
  exact {
    distinct := nodup_setEntry h.distinct
    off := by
      intro q f hmem
      rcases hentries q f hmem with rfl | hmem
      · exact hoff
      · exact h.off q f hmem
    held := by
      intro q f hmem
      rcases hentries q f hmem with rfl | hmem
      · exact hdirs _ hheld
      · exact hdirs _ (h.held q f hmem)
    names := by
      intro q f hmem
      rcases hentries q f hmem with rfl | hmem
      · exact hnames
      · exact h.names q f hmem
    here := h.here }

/-- Another content of a file. -/
theorem WellFormed.put_content {new : Content} (h : t.WellFormed)
    (hfile : t.entry? place = some (.file content)) : (t.put place (.file new)).WellFormed := by
  refine h.put (isPrefixOf_of_file hfile) (h.isDirectoryAt_dropLast hfile)
    (fun name hname => h.isFileName_of_mem hfile hname) ?_
  intro hdir
  rw [hfile] at hdir
  cases hdir

/-- What is at each place once something is put where nothing was. -/
theorem entry?_put_iff (habsent : t.entry? place = none) {f : FileEntry} :
    FileTree.entry? (t.put place e) other = some f ↔
      t.entry? other = some f ∨ other = place ∧ f = e := by
  by_cases heq : other = place
  · subst heq
    rw [entry?_put_self (isPrefixOf_of_absent habsent), habsent]
    simp [eq_comm]
  · rw [entry?_put_of_ne heq]
    simp [heq]

/-- **Something new in a directory.** -/
theorem WellFormed.put_named (h : t.WellFormed) (hdir : t.isDirectoryAt holder = true)
    (hname : IsFileName name) (habsent : t.entry? (holder ++ [name]) = none) :
    (t.put (holder ++ [name]) e).WellFormed := by
  refine h.put (isPrefixOf_of_absent habsent) ?_ ?_ ?_
  · rwa [List.dropLast_concat]
  · intro part hpart
    rcases List.mem_append.1 hpart with hpart | hpart
    · exact h.isFileName_of_mem (beq_iff_eq.1 hdir) hpart
    · rwa [List.mem_singleton.1 hpart]
  · intro hentry
    rw [habsent] at hentry
    cases hentry

/-- A step that finds nothing leads to where something new can be. -/
theorem WellFormed.put_new (h : t.WellFormed)
    (hmissing : t.walk holder [name] = .error .missing)
    (hzero : name.toList.contains '\x00' = false) : (t.put (holder ++ [name]) e).WellFormed := by
  obtain ⟨hpass, hup, hshort, habsent⟩ := walk_singleton_eq_missing_iff.1 hmissing
  exact h.put_named hpass.directory ⟨hup, hshort, hzero⟩ habsent

/-- A step to what is there. -/
theorem walk_singleton (hpass : t.IsPassable holder) (hup : name ≠ "..")
    (hshort : name.utf8ByteSize ≤ nameLimit) (hentry : t.entry? (holder ++ [name]) = some e) :
    t.walk holder [name] = .ok (holder ++ [name]) :=
  walk_cons_eq_ok_iff.2 ⟨hpass, .inr ⟨hup, hshort, ⟨e, hentry⟩, rfl⟩⟩

/-- Something is wherever a walk leads. -/
theorem exists_entry?_of_walk (h : t.WellFormed) (hstart : ∃ e, t.entry? place = some e)
    (hwalk : t.walk place parts = .ok other) : ∃ e, t.entry? other = some e := by
  induction parts generalizing place with
  | nil =>
    obtain rfl := Except.ok.inj hwalk
    exact hstart
  | cons part parts ih =>
    obtain ⟨e, he⟩ := hstart
    obtain ⟨-, ⟨-, hrest⟩ | ⟨-, -, hnext, hrest⟩⟩ := walk_cons_eq_ok_iff.1 hwalk
    · exact ih ⟨_, beq_iff_eq.1 (h.isDirectoryAt_dropLast he)⟩ hrest
    · exact ih hnext hrest

/-- A walk starts from a directory. -/
theorem isDirectoryAt_start (t : FileTree) (p : Path) : t.isDirectoryAt (t.start p) = true := by
  rw [start]
  split
  · exact isDirectoryAt_of_isPrefixOf rfl
  · exact isDirectoryAt_of_isPrefixOf (List.isPrefixOf_iff_prefix.2 (List.prefix_refl _))

theorem exists_entry?_of_resolve (h : t.WellFormed) (hresolve : t.resolve p = .ok place) :
    ∃ e, t.entry? place = some e :=
  exists_entry?_of_walk h ⟨_, beq_iff_eq.1 (t.isDirectoryAt_start p)⟩
    (resolve_eq_ok_iff.1 hresolve).2.2

/-- The names on a path that could be looked up are free of zero bytes. -/
theorem noZero_of_mem (hclean : p.hasZeroByte = false) (hname : name ∈ p.parts) :
    name.toList.contains '\x00' = false := by
  rw [Path.hasZeroByte, List.any_eq_false] at hclean
  exact Bool.eq_false_iff.2 (hclean name hname)

/-! ## Making directories -/

/-- What making a directory gives: a tree with some directories more, and a place that the path of
the directory leads to. -/
structure Made (t : FileTree) (anchor : Anchor) (parts : List String)
    (outcome : Except WriteFault Place) (t' : FileTree) : Prop where
  wellFormed : t'.WellFormed
  standpoint : t'.toStandpoint = t.toStandpoint
  keeps : ∀ place e, t.entry? place = some e → t'.entry? place = some e
  /-- no file is new -/
  only : ∀ place content, t'.entry? place = some (.file content) →
    t.entry? place = some (.file content)
  leads : ∀ place, outcome = .ok place →
    t'.walk (t.start ⟨anchor, []⟩) parts = .ok place ∧ t'.isDirectoryAt place = true

/-- A directory is made of what is a directory already. -/
theorem asDirectory_eq_ok_iff : t.asDirectory p place = .ok other ↔
    place = other ∧ t.isDirectoryAt place = true := by
  rw [asDirectory]
  split <;> simp [*]

/-- Nothing is made where nothing has to be made. -/
theorem made_self {outcome : Except WriteFault Place} (h : t.WellFormed)
    (hleads : ∀ place, outcome = .ok place →
      t.walk (t.start ⟨anchor, []⟩) parts = .ok place ∧ t.isDirectoryAt place = true) :
    Made t anchor parts outcome t :=
  ⟨h, rfl, fun _ _ => id, fun _ _ => id, hleads⟩

/-- Making the last directory of a path in the one that holds it. -/
theorem Made.makeIn (made : Made t anchor parts (.ok holder) t')
    (hzero : name.toList.contains '\x00' = false) :
    Made t anchor (parts ++ [name]) (t'.makeIn ⟨anchor, parts ++ [name]⟩ holder).1
      (t'.makeIn ⟨anchor, parts ++ [name]⟩ holder).2 := by
  obtain ⟨hwalk, hdir⟩ := made.leads holder rfl
  have hname : (Path.mk anchor (parts ++ [name])).name = name := by
    rw [Path.name, List.getLast?_concat, Option.getD_some]
  have hon : t'.walk (t.start ⟨anchor, []⟩) (parts ++ [name]) = t'.walk holder [name] := by
    rw [walk_append, hwalk]
    rfl
  rw [FileTree.makeIn, hname]
  split
  · rename_i place hplace
    refine ⟨made.wellFormed, made.standpoint, made.keeps, made.only, ?_⟩
    intro found hfound
    obtain ⟨rfl, hisDir⟩ := asDirectory_eq_ok_iff.1 hfound
    exact ⟨hon.trans hplace, hisDir⟩
  · rename_i hmissing
    -- a step up always finds something, so what is made here has a name
    obtain ⟨hpass, hup, hshort, habsent⟩ := walk_singleton_eq_missing_iff.1 hmissing
    have hkeeps : ∀ place e, t'.entry? place = some e →
        FileTree.entry? (t'.put (holder ++ [name]) .directory) place = some e :=
      fun place e hentry => (entry?_put_iff habsent).2 (.inl hentry)
    exact {
      wellFormed := made.wellFormed.put_new hmissing hzero
      standpoint := made.standpoint
      keeps := fun place e hentry => hkeeps place e (made.keeps place e hentry)
      only := by
        intro place content hentry
        rcases (entry?_put_iff habsent).1 hentry with hentry | ⟨-, hfile⟩
        · exact made.only place content hentry
        · cases hfile
      leads := by
        rintro _ ⟨rfl⟩
        dsimp only
        have hstands : Stands t' (t'.put (holder ++ [name]) .directory) :=
          stands_of_grows rfl hkeeps
        have hnew : FileTree.entry? (t'.put (holder ++ [name]) .directory) (holder ++ [name]) =
            some .directory := (entry?_put_iff habsent).2 (.inr ⟨rfl, rfl⟩)
        refine ⟨?_, beq_iff_eq.2 hnew⟩
        rw [walk_append, hstands.walk hwalk]
        exact walk_singleton (hstands.isPassable hpass) hup hshort hnew }
  · exact ⟨made.wellFormed, made.standpoint, made.keeps, made.only, fun _ hfault => by cases hfault⟩

/-- **Making directories**, the holder before what it holds. -/
theorem made_makeUpward (h : t.WellFormed) (anchor : Anchor) (levels : Nat)
    (upward : List String) : Made t anchor upward.reverse (t.makeUpward anchor levels upward).1
      (t.makeUpward anchor levels upward).2 := by
  -- what is made above is all that is needed of it: how many levels were left does not matter
  induction upward generalizing levels with
  | nil =>
    refine made_self h ?_
    rintro _ ⟨rfl⟩
    exact ⟨rfl, t.isDirectoryAt_start _⟩
  | cons name above ih =>
    rw [makeUpward]
    split
    · rename_i place hresolve
      refine made_self h ?_
      intro found hfound
      obtain ⟨rfl, hisDir⟩ := asDirectory_eq_ok_iff.1 hfound
      exact ⟨(resolve_eq_ok_iff.1 hresolve).2.2, hisDir⟩
    · rename_i hmissing
      split
      · exact made_self h fun _ hfault => by cases hfault
      · have made := ih (levels - 1)
        have hzero : name.toList.contains '\x00' = false :=
          noZero_of_mem (resolve_eq_missing_iff.1 hmissing).1
            (List.mem_reverse.2 List.mem_cons_self)
        cases hup : t.makeUpward anchor (levels - 1) above with
        | mk outcome t' =>
          rw [hup] at made
          cases outcome with
          | error fault =>
            exact { made with leads := fun _ hfault => by cases hfault }
          | ok holder =>
            rw [List.reverse_cons]
            exact made.makeIn hzero
    · exact made_self h fun _ hfault => by cases hfault

theorem made_makeDirectory (h : t.WellFormed) (p : Path) :
    Made t p.anchor p.parts (t.makeDirectory p).1 (t.makeDirectory p).2 := by
  have made := made_makeUpward h p.anchor levelLimit p.parts.reverse
  rwa [List.reverse_reverse] at made

/-- A directory is made only where its path can be looked up. -/
theorem clean_of_makeUpward {levels : Nat} {upward : List String}
    (hmade : (t.makeUpward anchor levels upward).1 = .ok place) :
    (Path.mk anchor upward.reverse).hasZeroByte = false ∧
      (Path.mk anchor upward.reverse).isTooLong = false := by
  cases upward with
  | nil => cases anchor <;> exact ⟨rfl, rfl⟩
  | cons name above =>
    rw [makeUpward] at hmade
    split at hmade
    · rename_i found hresolve
      obtain ⟨hzero, hshort, -⟩ := resolve_eq_ok_iff.1 hresolve
      exact ⟨hzero, hshort⟩
    · rename_i hmissing
      obtain ⟨hzero, hshort, -⟩ := resolve_eq_missing_iff.1 hmissing
      exact ⟨hzero, hshort⟩
    · cases hmade

/-- So the path of a directory that was made leads to it. -/
theorem resolve_makeDirectory (h : t.WellFormed) (hmade : (t.makeDirectory p).1 = .ok place) :
    (t.makeDirectory p).2.resolve p = .ok place := by
  have made := made_makeDirectory h p
  obtain ⟨hwalk, -⟩ := made.leads place hmade
  have hstart : (t.makeDirectory p).2.start p = t.start ⟨p.anchor, []⟩ := by
    rw [start, start, made.standpoint]
    rfl
  have hclean := clean_of_makeUpward hmade
  rw [List.reverse_reverse] at hclean
  exact resolve_eq_ok_iff.2 ⟨hclean.1, hclean.2, hstart ▸ hwalk⟩

/-! ## Writing -/

/-- Whether a file is at a place. -/
def IsFile (t : FileTree) (place : Place) : Prop := ∃ content, t.entry? place = some (.file content)

/-- What writing a file gives: the file, where its path leads, and otherwise the tree that was
there, with some directories more. -/
structure Wrote (t : FileTree) (p : Path) (content : Content) (place : Place) (t' : FileTree) :
    Prop where
  wellFormed : t'.WellFormed
  standpoint : t'.toStandpoint = t.toStandpoint
  leads : t'.resolve p = .ok place
  file : t'.entry? place = some (.file content)
  before : t.entry? place = none ∨ t.IsFile place
  keeps : ∀ other e, other ≠ place → t.entry? other = some e → t'.entry? other = some e
  /-- no other file is new -/
  only : ∀ other content', other ≠ place → t'.entry? other = some (.file content') →
    t.entry? other = some (.file content')

/-- A path that leads nowhere lacks its last step only, if the steps before it lead somewhere. -/
theorem walk_name_of_missing (hholder : t.walk (t.start p) p.parent.parts = .ok holder)
    (hmissing : t.resolve p = .error .missing) : p.parts = p.parent.parts ++ [p.name] ∧
      t.walk holder [p.name] = .error .missing ∧ p.name.toList.contains '\x00' = false := by
  obtain ⟨hclean, -, hwalk⟩ := resolve_eq_missing_iff.1 hmissing
  have hne : p.parts ≠ [] := by
    intro hnil
    rw [hnil] at hwalk
    cases hwalk
  have hsplit : p.parts = p.parent.parts ++ [p.name] := by
    rw [Path.name, List.getLast?_eq_some_getLast hne, Option.getD_some]
    exact (List.dropLast_append_getLast hne).symm
  refine ⟨hsplit, ?_, ?_⟩
  · rw [hsplit, walk_append, hholder] at hwalk
    exact hwalk
  · refine noZero_of_mem hclean ?_
    rw [hsplit]
    exact List.mem_append_right _ (List.mem_singleton_self _)

/-- A file that is given another content. -/
theorem wrote_put_content (h : t.WellFormed) {old : Content} (hresolve : t.resolve p = .ok place)
    (hfile : t.entry? place = some (.file old)) :
    Wrote t p content place (t.put place (.file content)) := by
  have hoff := isPrefixOf_of_file hfile
  have hother : ∀ other, other ≠ place →
      FileTree.entry? (t.put place (.file content)) other = t.entry? other :=
    fun other hne => entry?_put_of_ne hne
  have hstands : Stands t (t.put place (.file content)) := by
    refine ⟨rfl, ?_, ?_⟩
    · intro other hdir
      have hne : other ≠ place := by
        rintro rfl
        rw [isDirectoryAt, hfile] at hdir
        cases hdir
      rwa [isDirectoryAt, hother other hne]
    · intro other e hentry
      by_cases heq : other = place
      · subst heq
        exact ⟨_, entry?_put_self hoff⟩
      · exact ⟨e, (hother other heq).trans hentry⟩
  exact {
    wellFormed := h.put_content hfile
    standpoint := rfl
    leads := hstands.resolve hresolve
    file := entry?_put_self hoff
    before := .inr ⟨old, hfile⟩
    keeps := fun other e hne hentry => (hother other hne).trans hentry
    only := fun other content' hne hentry => (hother other hne).symm.trans hentry }

/-- A file that is new in its directory. -/
theorem wrote_put_new (h : t.WellFormed) (hholder : t.walk (t.start p) p.parent.parts = .ok holder)
    (hmissing : t.resolve p = .error .missing) :
    Wrote t p content (holder ++ [p.name]) (t.put (holder ++ [p.name]) (.file content)) := by
  obtain ⟨hsplit, hstep, hzero⟩ := walk_name_of_missing hholder hmissing
  obtain ⟨hpass, hup, hshort, habsent⟩ := walk_singleton_eq_missing_iff.1 hstep
  have hkeeps : ∀ place e, t.entry? place = some e →
      FileTree.entry? (t.put (holder ++ [p.name]) (.file content)) place = some e :=
    fun place e hentry => (entry?_put_iff habsent).2 (.inl hentry)
  have hfile : FileTree.entry? (t.put (holder ++ [p.name]) (.file content)) (holder ++ [p.name]) =
      some (.file content) := (entry?_put_iff habsent).2 (.inr ⟨rfl, rfl⟩)
  exact {
    wellFormed := h.put_new hstep hzero
    standpoint := rfl
    leads := by
      have hstands : Stands t (t.put (holder ++ [p.name]) (.file content)) :=
        stands_of_grows rfl hkeeps
      have hwalk : (t.put (holder ++ [p.name]) (.file content)).walk (t.start p) p.parts =
          .ok (holder ++ [p.name]) := by
        rw [hsplit, walk_append, hstands.walk hholder]
        exact walk_singleton (hstands.isPassable hpass) hup hshort hfile
      obtain ⟨hclean, hlong, -⟩ := resolve_eq_missing_iff.1 hmissing
      exact resolve_eq_ok_iff.2 ⟨hclean, hlong, hwalk⟩
    file := hfile
    before := .inl habsent
    keeps := fun other e _ hentry => hkeeps other e hentry
    only := by
      intro other content' hne hentry
      exact ((entry?_put_iff habsent).1 hentry).resolve_right fun hnew => hne hnew.1 }

/-- Writing a file into its directory. -/
theorem addFile_cases (h : t.WellFormed) (hholder : t.walk (t.start p) p.parent.parts = .ok holder)
    (content : Content) : (∃ fault, t.addFile p holder content = (.error fault, t)) ∨
      ∃ place t', t.addFile p holder content = (.ok (), t') ∧ Wrote t p content place t' := by
  rw [addFile]
  split
  · rename_i place hresolve
    split
    · exact .inl ⟨_, rfl⟩
    · rename_i hisDir
      obtain ⟨e, he⟩ := exists_entry?_of_resolve h hresolve
      cases e with
      | directory => exact absurd (beq_iff_eq.2 he) hisDir
      | file old => exact .inr ⟨place, _, rfl, wrote_put_content h hresolve he⟩
  · rename_i hmissing
    exact .inr ⟨_, _, rfl, wrote_put_new h hholder hmissing⟩
  · exact .inl ⟨_, rfl⟩

/-- What is written after directories were made is written, as seen from the start. -/
theorem Made.wrote {outcome : Except WriteFault Place} {t'' : FileTree}
    (made : Made t anchor parts outcome t') (hwrote : Wrote t' p content place t'') :
    Wrote t p content place t'' where
  wellFormed := hwrote.wellFormed
  standpoint := hwrote.standpoint.trans made.standpoint
  leads := hwrote.leads
  file := hwrote.file
  before := by
    rcases hwrote.before with habsent | ⟨old, hold⟩
    · left
      cases hentry : t.entry? place with
      | none => rfl
      | some e => exact absurd ((made.keeps place e hentry).symm.trans habsent) (by simp)
    · exact .inr ⟨old, made.only place old hold⟩
  keeps := fun other e hne hentry => hwrote.keeps other e hne (made.keeps other e hentry)
  only := fun other content' hne hentry =>
    made.only other content' (hwrote.only other content' hne hentry)

/-- **Writing a file** makes directories, and then it fails or the file is there. -/
theorem write_file_cases (h : t.WellFormed) (p : Path) (content : Content) :
    (∃ fault made t', t.write p (.file content) = (.error fault, t') ∧
      Made t p.anchor p.parent.parts made t') ∨
    ∃ place t', t.write p (.file content) = (.ok (), t') ∧ Wrote t p content place t' := by
  have made := made_makeDirectory h p.parent
  rw [write]
  cases hmade : t.makeDirectory p.parent with
  | mk outcome t' =>
    rw [hmade] at made
    cases outcome with
    | error fault => exact .inl ⟨fault, _, t', rfl, made⟩
    | ok holder =>
      have hstart : t'.start p = t.start ⟨p.anchor, []⟩ := by
        rw [start, start, made.standpoint]
        rfl
      have hholder : t'.walk (t'.start p) p.parent.parts = .ok holder :=
        hstart ▸ (made.leads holder rfl).1
      rcases addFile_cases made.wellFormed hholder content with ⟨fault, hfault⟩ | hwrote
      · exact .inl ⟨fault, _, t', hfault, made⟩
      · obtain ⟨place, t'', heq, hwrote⟩ := hwrote
        exact .inr ⟨place, t'', heq, made.wrote hwrote⟩

/-- **Writing** keeps a tree well-formed, whether it comes to an end or not. -/
theorem WellFormed.write (h : t.WellFormed) (p : Path) (e : FileEntry) :
    (t.write p e).2.WellFormed := by
  cases e with
  | directory => exact (made_makeDirectory h p).wellFormed
  | file content =>
    rcases write_file_cases h p content with ⟨fault, made, t', heq, hmade⟩ | hwrote
    · rw [heq]
      exact hmade.wellFormed
    · obtain ⟨place, t', heq, hwrote⟩ := hwrote
      rw [heq]
      exact hwrote.wellFormed

/-- What is a file stays one. -/
theorem isFile_write (h : t.WellFormed) (hfile : t.IsFile place) (p : Path) (e : FileEntry) :
    (t.write p e).2.IsFile place := by
  obtain ⟨content, hcontent⟩ := hfile
  cases e with
  | directory => exact ⟨content, (made_makeDirectory h p).keeps place _ hcontent⟩
  | file new =>
    rcases write_file_cases h p new with ⟨fault, made, t', heq, hmade⟩ | hwrote
    · rw [heq]
      exact ⟨content, hmade.keeps place _ hcontent⟩
    · obtain ⟨other, t', heq, hwrote⟩ := hwrote
      rw [heq]
      by_cases hsame : place = other
      · exact ⟨new, hsame ▸ hwrote.file⟩
      · exact ⟨content, hwrote.keeps place _ hsame hcontent⟩

/-- **A new file** that is written is one file more, and all else is as it was. -/
theorem grows_of_wrote (hwrote : Wrote t p content place t') (habsent : t.entry? place = none) :
    Grows t t' place content where
  wellFormed := hwrote.wellFormed
  standpoint := hwrote.standpoint
  keeps := by
    intro other e hentry
    refine hwrote.keeps other e ?_ hentry
    rintro rfl
    rw [habsent] at hentry
    cases hentry
  absent := habsent
  file := hwrote.file
  only := hwrote.only

/-- A log entry keeps a tree well-formed. -/
theorem WellFormed.appendLog (h : t.WellFormed) (place : Place) (entry : Value) :
    (t.appendLog place entry).WellFormed := by
  rw [FileTree.appendLog]
  split
  · rename_i content hfile
    exact h.put_content hfile
  · exact h

/-- And files stay files. -/
theorem isFile_appendLog (hfile : t.IsFile other) (place : Place) (entry : Value) :
    (t.appendLog place entry).IsFile other := by
  obtain ⟨content, hcontent⟩ := hfile
  rw [FileTree.appendLog]
  split
  · rename_i old hold
    by_cases hsame : other = place
    · subst hsame
      exact ⟨_, entry?_put_self (isPrefixOf_of_file hold)⟩
    · exact ⟨content, (entry?_put_of_ne hsame).trans hcontent⟩
  · exact ⟨content, hcontent⟩

/-! ## Removing -/

/-- The tree with the entries at some places only. -/
def kept (t : FileTree) (keep : Place → Bool) : FileTree :=
  { t with entries := t.entries.filter fun x => keep x.1 }

/-- What is at a place that is kept stays. -/
theorem entry?_kept (h : t.WellFormed) {keep : Place → Bool} (hkeep : keep place = true)
    (hentry : t.entry? place = some e) : FileTree.entry? (t.kept keep) place = some e := by
  cases hon : place.isPrefixOf t.here with
  | true =>
    rw [← hentry, entry?_of_isPrefixOf hon]
    exact entry?_of_isPrefixOf hon
  | false =>
    have hmem := mem_entries_of_off hon hentry
    rw [entry?_eq_of_off (t := t.kept keep) hon]
    exact lookup_of_mem (List.filter_sublist.map _ |>.nodup h.distinct)
      (List.mem_filter.2 ⟨hmem, hkeep⟩)

/-- **Keeping some places**, and with each the one that holds it. -/
theorem WellFormed.kept (h : t.WellFormed) {keep : Place → Bool}
    (hup : ∀ place, keep place = true → keep place.dropLast = true) : (t.kept keep).WellFormed where
  distinct := List.filter_sublist.map _ |>.nodup h.distinct
  off := fun place e hmem => h.off place e (List.mem_filter.1 hmem).1
  held := by
    intro place e hmem
    obtain ⟨hmem, hkeep⟩ := List.mem_filter.1 hmem
    have hholder := h.held place e hmem
    exact beq_iff_eq.2 (entry?_kept h (hup place hkeep) (beq_iff_eq.1 hholder))
  names := fun place e hmem => h.names place e (List.mem_filter.1 hmem).1
  here := h.here

/-- What is not below a place is not held by anything below it. -/
theorem isPrefixOf_dropLast (hoff : place.isPrefixOf other = false) :
    place.isPrefixOf other.dropLast = false := by
  rw [Bool.eq_false_iff] at hoff ⊢
  intro hon
  exact hoff (List.isPrefixOf_iff_prefix.2
    ((List.isPrefixOf_iff_prefix.1 hon).trans (List.dropLast_prefix other)))

theorem emptied_eq_kept (t : FileTree) (place : Place) :
    t.emptied place = t.kept fun q => q == place || !place.isPrefixOf q := rfl

/-- What is left when a directory goes with all that is below it. -/
theorem without_emptied_eq_kept (t : FileTree) (place : Place) :
    (t.emptied place).without place = t.kept fun q => !place.isPrefixOf q := by
  rw [emptied_eq_kept, without, FileTree.kept, FileTree.kept, List.filter_filter]
  refine congrArg (FileTree.mk t.toStandpoint) (List.filter_congr fun x _ => ?_)
  by_cases hself : x.1 = place
  · simp [hself]
  · have hne : (x.1 == place) = false := beq_eq_false_iff_ne.2 hself
    simp [bne, hne]

/-- A directory is emptied, and gone too if its path still leads to it. -/
theorem remove_cases (t : FileTree) (p : Path) (place : Place) :
    (t.remove p place).2 = t.emptied place ∨
      (t.remove p place).2 = (t.emptied place).without place := by
  rw [remove]
  split
  · exact .inl rfl
  · split
    · exact .inr rfl
    · exact .inl rfl

/-- **Removing** keeps a tree well-formed, whether it comes to an end or not. -/
theorem WellFormed.remove (h : t.WellFormed) (p : Path) (place : Place) :
    (t.remove p place).2.WellFormed := by
  rcases t.remove_cases p place with heq | heq
  · rw [heq, emptied_eq_kept]
    refine h.kept fun other hkeep => ?_
    rw [Bool.or_eq_true, beq_iff_eq, Bool.not_eq_true'] at hkeep ⊢
    rcases hkeep with rfl | hoff
    · -- the place itself is held by a place above it, unless it is the top
      by_cases htop : other = []
      · exact .inl (htop ▸ List.dropLast_nil)
      · right
        rw [Bool.eq_false_iff]
        intro hon
        have hlength := (List.isPrefixOf_iff_prefix.1 hon).length_le
        have hpos := List.length_pos_iff.2 htop
        rw [List.length_dropLast] at hlength
        omega
    · exact .inr (isPrefixOf_dropLast hoff)
  · rw [heq, without_emptied_eq_kept]
    refine h.kept fun other hkeep => ?_
    rw [Bool.not_eq_true'] at hkeep ⊢
    exact isPrefixOf_dropLast hkeep

/-- What is not below the place stays. -/
theorem isFile_remove (h : t.WellFormed) (hfile : t.IsFile other)
    (hoff : place.isPrefixOf other = false) (p : Path) : (t.remove p place).2.IsFile other := by
  obtain ⟨content, hcontent⟩ := hfile
  refine ⟨content, ?_⟩
  rcases t.remove_cases p place with heq | heq
  · rw [heq, emptied_eq_kept]
    exact entry?_kept h (by simp [hoff]) hcontent
  · rw [heq, without_emptied_eq_kept]
    exact entry?_kept h (by simp [hoff]) hcontent

end FileTree
end QuestFlow
